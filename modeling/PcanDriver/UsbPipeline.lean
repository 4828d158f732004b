import Mathlib.Data.List.Basic
import PcanDriver.TxEngine

/-!
Frames on their way through the USB transmit pipeline. They are taken out of the
FIFO before it is known whether the USB core takes the write buffer, so that a
failed submission loses them; as long as none fails, what has been submitted
followed by what is still queued are the accepted frames, in order.
-/
namespace PcanDriver
open StepSystem
variable {family : UsbFamily}

def Submission.frames (sub : Submission) : List PcanfdTxmsg := sub.packets.flatMap (·.packed)

/-- Frames given to the USB core, then those still to be sent. -/
def carried (t : TransmitSide UsbPort) : List PcanfdTxmsg :=
  t.port.submitted.flatMap Submission.frames ++ t.writeFifo.items

/-- The submitted length covers the packets and stays inside of the write buffer. -/
structure Submission.Fits (family : UsbFamily) (packetSize bufferSize : Nat)
    (sub : Submission) : Prop where
  bounded : sub.length ≤ bufferSize
  covered : Covered packetSize sub.packets sub.length
  packets : ∀ e ∈ sub.packets, PacketOf family packetSize e

structure PipelineInv (family : UsbFamily) (t : TransmitSide UsbPort) : Prop where
  ready : UsbReady family t
  kept : ∀ tx ∈ t.writeFifo.items, Skipped family tx = false
  submitted : ∀ sub ∈ t.port.submitted,
    sub.Fits family t.port.writePacketSize t.port.writeBufferSize

def unplugs (status : Int) : Bool := status = -71 ∨ status = -104 ∨ status = -108

/-- No submission fails, the cable stays plugged, and the frames sent are none of
    those that the encoder leaves out. -/
def Delivers (family : UsbFamily) (_ : UsbDev) (call : TxCall Int) : Prop :=
  call.answer = 0 ∧
    match call with
    | .sendMsg _ _ ptx _ _ | .ioctlSendMsg _ _ ptx _ _ => Skipped family ptx = false
    | .complete _ _ status _ => unplugs status = false
    | _ => True

theorem packed_all {packetSize : Nat} {packets : List Encoded}
    (each : ∀ e ∈ packets, PacketOf family packetSize e)
    (kept : ∀ tx ∈ packets.flatMap (·.taken), Skipped family tx = false) :
    packets.flatMap (·.packed) = packets.flatMap (·.taken) := by
  apply List.flatMap_congr
  intro e mem
  rw [(each e mem).packed, List.filter_eq_self]
  intro tx inside
  rw [kept tx (List.mem_flatMap.2 ⟨e, mem, inside⟩)]
  rfl

theorem pcanUsbWrite_pipeline (host : Host) {dev : UsbDev}
    (inv : PipelineInv family dev.transmit) :
    PipelineInv family (pcanUsbWrite family 0 host dev).1.transmit ∧
      carried (pcanUsbWrite family 0 host dev).1.transmit = carried dev.transmit := by
  obtain ⟨ready, kept, submitted⟩ := inv
  have spec := fillWriteBuffer_spec ready
  have items := encodedDev_items spec.account
  have rest_mem : ∀ tx ∈ (encodedDev dev (fillWriteBuffer family dev)).writeFifo.items,
      tx ∈ dev.writeFifo.items := by
    intro tx mem
    rw [← spec.account]
    exact List.mem_append_right _ (items ▸ mem)
  have all_packed := packed_all spec.packets fun tx mem => kept tx (by
    show tx ∈ dev.writeFifo.items
    rw [← spec.account]
    exact List.mem_append_left _ mem)
  have ready' : ∀ engine port, port.writePacketSize = dev.port.writePacketSize →
      port.writeBufferSize = dev.port.writeBufferSize →
      UsbReady family { (encodedDev dev (fillWriteBuffer family dev)).transmit with
        engine := engine, port := port } :=
    fun engine port packet buffer => ⟨ready.plugged, by rw [packet, buffer]; exact ready.sizes,
      fun tx mem => ready.sendable tx (rest_mem tx mem), ready.classic⟩
  by_cases some_length : 0 < (fillWriteBuffer family dev).length
  · rw [pcanUsbWrite_submitted host ready.plugged some_length]
    refine ⟨⟨ready' _ _ rfl rfl, fun tx mem => kept tx (rest_mem tx mem), ?_⟩, ?_⟩
    · intro sub mem
      rcases List.mem_append.1 mem with before | last
      · exact submitted sub before
      · rw [List.mem_singleton.1 last]
        exact ⟨spec.bounded, spec.covered, spec.packets⟩
    · show (dev.port.submitted ++ [_]).flatMap Submission.frames ++
        (encodedDev dev (fillWriteBuffer family dev)).writeFifo.items = carried dev.transmit
      rw [List.flatMap_append, List.flatMap_singleton, List.append_assoc, items]
      show dev.port.submitted.flatMap Submission.frames ++
        ((fillWriteBuffer family dev).packets.flatMap (·.packed) ++ _) = _
      rw [all_packed, spec.account]
      rfl
  · have no_length : (fillWriteBuffer family dev).length = 0 := by omega
    rw [pcanUsbWrite_nothing 0 host ready.plugged no_length]
    refine ⟨⟨ready' _ _ rfl rfl, fun tx mem => kept tx (rest_mem tx mem), submitted⟩, ?_⟩
    obtain ⟨drained, none_packed⟩ := spec.nothing no_length
    have none_taken : (fillWriteBuffer family dev).packets.flatMap (·.taken) = [] := by
      rw [← all_packed, List.flatMap_eq_nil_iff]
      exact none_packed
    have before : dev.writeFifo.items = [] := by
      rw [← spec.account, none_taken, drained]
      rfl
    exact congrArg (dev.port.submitted.flatMap Submission.frames ++ ·)
      ((items.trans drained).trans before.symm)

theorem startWriting_pipeline (host : Host) {dev : UsbDev}
    (inv : PipelineInv family dev.transmit) :
    PipelineInv family (pcanDevStartWriting (pcanUsbWrite family 0 host) dev).1.transmit ∧
      carried (pcanDevStartWriting (pcanUsbWrite family 0 host) dev).1.transmit =
        carried dev.transmit := by
  rcases pcanDevStartWriting_cases (pcanUsbWrite family 0 host) dev with
    ⟨_, same⟩ | ⟨_, _, same⟩
  · rw [same]
    exact ⟨inv, rfl⟩
  · rw [same]
    exact pcanUsbWrite_pipeline host inv

theorem pcanUsbWriteNotify_pipeline (host : Host) (stack : PcanfdRxmsg) {status : Int}
    (plugged : unplugs status = false) {dev : UsbDev} (inv : PipelineInv family dev.transmit) :
    PipelineInv family (pcanUsbWriteNotify family 0 host stack status dev).transmit ∧
      carried (pcanUsbWriteNotify family 0 host stack status dev).transmit =
        carried dev.transmit := by
  obtain ⟨⟨is_plugged, sizes, sendable, classic⟩, kept, submitted⟩ := inv
  by_cases success : status = 0
  · subst success
    rw [pcanUsbWriteNotify_transmit]
    exact @pcanUsbWrite_pipeline _ host (releaseUrb dev)
      ⟨⟨is_plugged, sizes, sendable, classic⟩, kept, submitted⟩
  · have still : ¬(status = -71 ∨ status = -104 ∨ status = -108) := of_decide_eq_false plugged
    unfold pcanUsbWriteNotify
    rw [if_neg success, if_neg still]
    exact ⟨⟨⟨is_plugged, sizes, sendable, classic⟩, kept, submitted⟩, rfl⟩

theorem PipelineInv.enter {t : TransmitSide UsbPort} (inv : PipelineInv family t)
    (state : PcanfdStatus) : PipelineInv family { t with busState := state } :=
  ⟨⟨inv.ready.plugged, inv.ready.sizes, inv.ready.sendable, inv.ready.classic⟩, inv.kept,
    inv.submitted⟩

theorem sendMsg_pipeline (host : Host) (stack : PcanfdRxmsg) {dev : UsbDev} {ptx : PcanfdTxmsg}
    (nonblock : Bool) (whole : Skipped family ptx = false)
    (inv : PipelineInv family dev.transmit) :
    PipelineInv family
      (pcanfdSendMsg (pcanUsbWrite family 0 host) host stack dev ptx nonblock).1.transmit ∧
    carried (pcanfdSendMsg (pcanUsbWrite family 0 host) host stack dev ptx nonblock).1.transmit =
      carried dev.transmit ++ (acceptedFrame
        (pcanfdSendMsg (pcanUsbWrite family 0 host) host stack dev ptx nonblock)).toList := by
  apply sendMsg_carried (pcanUsbWrite family 0 host) host stack ptx nonblock inv
  · intro checked tv fifo accepted items
    have flags := checkTxmsg_flags accepted
    refine ⟨⟨usbReady_queue inv.ready accepted items, ?_, inv.submitted⟩, ?_⟩
    · intro tx mem
      rw [items, List.mem_append, List.mem_singleton] at mem
      rcases mem with before | rfl
      · exact inv.kept tx before
      · unfold Skipped at whole ⊢
        rw [flags]
        exact whole
    · show _ ++ fifo.items = _
      rw [items, ← List.append_assoc]
      rfl
  · exact fun _ waiting => startWriting_pipeline host waiting

theorem ioctlSendMsg_pipeline (host : Host) (stack : PcanfdRxmsg) {dev : UsbDev}
    {ptx : PcanfdTxmsg} (nonblock : Bool) (whole : Skipped family ptx = false)
    (inv : PipelineInv family dev.transmit) :
    PipelineInv family
      (pcanfdIoctlSendMsg (pcanUsbWrite family 0 host) host stack dev ptx nonblock).1.transmit ∧
    carried (pcanfdIoctlSendMsg (pcanUsbWrite family 0 host) host stack dev ptx
        nonblock).1.transmit =
      carried dev.transmit ++ (acceptedFrame
        (pcanfdIoctlSendMsg (pcanUsbWrite family 0 host) host stack dev ptx nonblock)).toList := by
  have sent := sendMsg_pipeline host stack nonblock whole inv
  unfold pcanfdIoctlSendMsg
  simp only
  split
  next queued =>
    obtain ⟨started, same⟩ := startWriting_pipeline host sent.1
    refine ⟨started, same.trans ?_⟩
    rw [sent.2]
    rfl
  next => exact sent

theorem txStep_pipeline {dev : UsbDev} {call : TxCall Int}
    (inv : PipelineInv family dev.transmit) (delivers : Delivers family dev call) :
    PipelineInv family (txStep (usbBackend family) dev call).1.transmit ∧
      carried (txStep (usbBackend family) dev call).1.transmit =
        carried dev.transmit ++ (txStep (usbBackend family) dev call).2.toList := by
  obtain ⟨answer, delivers⟩ := delivers
  have silent : ∀ t', carried t' = carried dev.transmit →
      carried t' = carried dev.transmit ++ (none : Option PcanfdTxmsg).toList :=
    fun t' same => same.trans (List.append_nil _).symm
  cases call with
  | sendMsg host stack ptx nonblock a =>
    obtain rfl : a = 0 := answer
    exact sendMsg_pipeline host stack nonblock delivers inv
  | ioctlSendMsg host stack ptx nonblock a =>
    obtain rfl : a = 0 := answer
    exact ioctlSendMsg_pipeline host stack nonblock delivers inv
  | startTxEngine host a =>
    obtain rfl : a = 0 := answer
    exact (startWriting_pipeline host inv).imp id (silent _)
  | deviceWrite host a =>
    obtain rfl : a = 0 := answer
    exact (pcanUsbWrite_pipeline host inv).imp id (silent _)
  | complete host stack status a =>
    obtain rfl : a = 0 := answer
    simp only [txStep]
    split
    next => exact (pcanUsbWriteNotify_pipeline host stack delivers inv).imp id (silent _)
    next => exact ⟨inv, silent _ rfl⟩
  | errorActive host rx a =>
    obtain rfl : a = 0 := answer
    simp only [txStep, pcanChardevRx_transmit]
    have entered := @pcanSetBusState_transmit _ dev .errorActive rfl
    have active : PipelineInv family (pcanSetBusState dev .errorActive).transmit ∧
        carried (pcanSetBusState dev .errorActive).transmit = carried dev.transmit := by
      rw [entered]
      exact ⟨inv.enter _, rfl⟩
    rcases pcanHandleErrorActive_cases ((usbBackend family).write 0 host) dev rx with
      ⟨_, same⟩ | ⟨_, same⟩
    · rw [same]
      exact active.imp id (silent _)
    · rw [same]
      obtain ⟨started, kept⟩ := startWriting_pipeline host active.1
      exact ⟨started, silent _ (kept.trans active.2)⟩
  | errorStatus host rx errWarning errPassive =>
    simp only [txStep, pcanChardevRx_transmit, pcanHandleErrorStatus_transmit]
    exact ⟨inv.enter _, silent _ rfl⟩
  | busoff host rx =>
    simp only [txStep, pcanChardevRx_transmit, pcanHandleBusoff_transmit]
    exact ⟨inv.enter _, silent _ rfl⟩

theorem usb_pipeline_lossless {dev : UsbDev} (ready : UsbReady family dev.transmit)
    (empty : dev.writeFifo.items = []) (unused : dev.port.submitted = [])
    {calls : List (TxCall Int)}
    (delivers : Admitted (Delivers family) (txStep (usbBackend family)) dev calls) :
    let final := (run (txStep (usbBackend family)) dev calls).1
    final.port.submitted.flatMap Submission.frames ++ final.writeFifo.items =
        (run (txStep (usbBackend family)) dev calls).2.flatMap Option.toList ∧
      ∀ sub ∈ final.port.submitted,
        sub.length ≤ final.port.writeBufferSize ∧
        Covered final.port.writePacketSize sub.packets sub.length ∧
        ∀ e ∈ sub.packets, PacketOf family final.port.writePacketSize e := by
  intro final
  have start : PipelineInv family dev.transmit := by
    refine ⟨ready, fun tx mem => ?_, fun sub mem => ?_⟩
    · exact absurd (empty ▸ mem : tx ∈ []) List.not_mem_nil
    · exact absurd (unused ▸ mem : sub ∈ []) List.not_mem_nil
  have total := @run_accumulates _ _ _ _ _ _ (fun s : UsbDev => PipelineInv family s.transmit)
    (fun s => carried s.transmit) Option.toList
    (fun _ _ inv delivers => (txStep_pipeline inv delivers).1)
    (fun _ _ inv delivers => (txStep_pipeline inv delivers).2) _ _ start delivers
  have inv := @run_invariant _ _ _ _ _ (fun s : UsbDev => PipelineInv family s.transmit)
    (fun _ _ inv delivers => (txStep_pipeline inv delivers).1) _ _ start delivers
  constructor
  · have nothing : carried dev.transmit = [] := by
      show dev.port.submitted.flatMap Submission.frames ++ dev.writeFifo.items = []
      rw [empty, unused]
      rfl
    rw [nothing, List.nil_append] at total
    exact total
  · intro sub mem
    obtain ⟨bounded, covered, packets⟩ := inv.submitted sub mem
    exact ⟨bounded, covered, packets⟩

theorem usb_pipeline_two_buffers :
    let dev : UsbDev := openedChannel ucanPort 4 4 0
    let done := run (txStep (usbBackend .ucan)) dev (sampleCalls 0)
    done.1.port.submitted.flatMap Submission.frames ++ done.1.writeFifo.items =
        done.2.flatMap Option.toList ∧
      done.1.port.submitted.map (·.length) = [24, 24] := by
  intro dev done
  have ready : UsbReady .ucan dev.transmit :=
    ⟨rfl, by decide, fun _ mem => absurd mem List.not_mem_nil, fun other => absurd rfl other⟩
  refine ⟨(usb_pipeline_lossless ready rfl rfl ?_).1, by decide +kernel⟩
  exact ⟨⟨rfl, rfl⟩, ⟨rfl, trivial⟩, ⟨rfl, rfl⟩, ⟨rfl, trivial⟩, ⟨rfl, rfl⟩, trivial⟩

/-- The frame of a write buffer that the USB core refuses is in no later buffer. -/
theorem failed_submission_loses_frame :
    let done := run (txStep (usbBackend .ucan)) (openedChannel ucanPort 4 4 0)
      [.errorActive sampleHost .zero 0,
        .ioctlSendMsg sampleHost .zero (sampleFrame 1) true (-12),
        .ioctlSendMsg sampleHost .zero (sampleFrame 2) true 0]
    ¬(done.1.port.submitted.flatMap Submission.frames ++ done.1.writeFifo.items =
      done.2.flatMap Option.toList) := by
  decide +kernel

end PcanDriver

import PcanDriver.Lib.StepSystem
import PcanDriver.Sja1000
import PcanDriver.UsbWriteSpec

/-!
The transmit engine of a channel, whatever interface is behind it. Writing is
started by whoever queues a frame while the engine is stopped, and kept going by
completions; while the bus state is unknown frames are only queued. Once the state
is known a stopped engine must have nothing left to send, which every change of
the bus state has to see to.
-/
namespace PcanDriver
open StepSystem
variable {P C : Type}

/-- What the engine needs of an interface. `write` is `device_write`; the integer is
    the answer of the hardware to it. `complete` is what the interface calls when
    the outstanding transfer is over, in the way `C` tells. -/
structure TxBackend (P C : Type) where
  write : Int → Host → Pcandev P → Pcandev P × Int
  complete : Int → Host → PcanfdRxmsg → C → Pcandev P → Pcandev P
  outstanding : P → Bool

/-- `answer` is what the hardware says to a write made by the call, should it make
    one; `stack` is uninitialised memory for messages, `rx` a decoder's message. -/
inductive TxCall (C : Type) where
  | sendMsg (host : Host) (stack : PcanfdRxmsg) (ptx : PcanfdTxmsg) (nonblock : Bool) (answer : Int)
  | ioctlSendMsg (host : Host) (stack : PcanfdRxmsg) (ptx : PcanfdTxmsg) (nonblock : Bool)
      (answer : Int)
  | startTxEngine (host : Host) (answer : Int)
  | deviceWrite (host : Host) (answer : Int)
  | complete (host : Host) (stack : PcanfdRxmsg) (how : C) (answer : Int)
  | errorActive (host : Host) (rx : PcanfdRxmsg) (answer : Int)
  | errorStatus (host : Host) (rx : PcanfdRxmsg) (errWarning errPassive : Bool)
  | busoff (host : Host) (rx : PcanfdRxmsg)

def TxCall.answer : TxCall C → Int
  | .sendMsg _ _ _ _ answer | .ioctlSendMsg _ _ _ _ answer | .startTxEngine _ answer
  | .deviceWrite _ answer | .complete _ _ _ answer | .errorActive _ _ answer => answer
  | .errorStatus .. | .busoff .. => 0

/-- A bus event is handled and its message posted, as the decoders do it. -/
def txStep (backend : TxBackend P C) (dev : Pcandev P) :
    TxCall C → Pcandev P × Option PcanfdTxmsg
  | .sendMsg host stack ptx nonblock answer =>
    let sent := pcanfdSendMsg (backend.write answer host) host stack dev ptx nonblock
    (sent.1, acceptedFrame sent)
  | .ioctlSendMsg host stack ptx nonblock answer =>
    let sent := pcanfdIoctlSendMsg (backend.write answer host) host stack dev ptx nonblock
    (sent.1, acceptedFrame sent)
  | .startTxEngine host answer => ((pcanDevStartWriting (backend.write answer host) dev).1, none)
  | .deviceWrite host answer => ((backend.write answer host dev).1, none)
  | .complete host stack how answer =>
    (if backend.outstanding dev.port then backend.complete answer host stack how dev else dev, none)
  | .errorActive host rx answer =>
    let handled := pcanHandleErrorActive (backend.write answer host) dev rx
    ((pcanChardevRx host handled.1 handled.2).1, none)
  | .errorStatus host rx errWarning errPassive =>
    let handled := pcanHandleErrorStatus dev rx errWarning errPassive
    ((pcanChardevRx host handled.1 handled.2.1).1, none)
  | .busoff host rx =>
    let handled := pcanHandleBusoff dev rx
    ((pcanChardevRx host handled.1 handled.2.1).1, none)

def usbBackend (family : UsbFamily) : TxBackend UsbPort Int where
  write submit host dev := pcanUsbWrite family submit host dev
  complete submit host stack status dev := pcanUsbWriteNotify family submit host stack status dev
  outstanding port := port.urbPending

def sja1000Backend : TxBackend Sja1000Port Unit where
  write _ _ dev := sja1000Write dev
  complete _ _ _ _ dev := sja1000TransmitInterrupt dev
  outstanding port := port.txBusy

section Invariant
variable (backend : TxBackend P C) (ready : TransmitSide P → Prop)

def Sending (t : TransmitSide P) : Prop :=
  backend.outstanding t.port = true ∧ t.engine = .started

def Resting (t : TransmitSide P) : Prop :=
  backend.outstanding t.port = false ∧ t.engine = .stopped

structure Written (t t' : TransmitSide P) : Prop where
  ready : ready t'
  busState : t'.busState = t.busState
  outcome : Sending backend t' ∨ Resting backend t' ∧ t'.writeFifo.items = []

/-- What the engine relies on, as long as the hardware takes what it is given. -/
structure TxBackend.Lawful (success : C → Prop) : Prop where
  busState : ∀ t state, ready t → ready { t with busState := state }
  queue : ∀ (dev : Pcandev P) ptx checked tv (fifo : BoundedQueue PcanfdTxmsg),
    ready dev.transmit → checkTxmsg dev ptx = .ok checked →
    fifo.items = dev.writeFifo.items ++ [{ checked with tv := tv }] →
    ready { dev.transmit with writeFifo := fifo }
  write : ∀ host dev, ready dev.transmit → Resting backend dev.transmit →
    Written backend ready dev.transmit (backend.write 0 host dev).1.transmit
  complete : ∀ host stack how dev, success how → ready dev.transmit →
    backend.outstanding dev.port = true →
    Written backend ready dev.transmit (backend.complete 0 host stack how dev).transmit

/-- Frames that wait with no transfer that would fetch them. -/
def Waiting (dev : Pcandev P) : Prop :=
  dev.writeFifo.items ≠ [] ∧ backend.outstanding dev.port = false

structure EngineInv (t : TransmitSide P) : Prop where
  ready : ready t
  engine : Sending backend t ∨ Resting backend t ∧
    (t.writeFifo.items = [] ∨ t.busState = .unknown ∨ t.busState = .errorBusoff)

/-- Steps that keep the engine going: the hardware takes what it is given, frames
    are not queued without starting the engine, nobody but the engine writes, and the
    bus does not become usable again, past the handler that restarts writing, while
    frames wait. -/
def KeepsGoing (success : C → Prop) (dev : Pcandev P) (call : TxCall C) : Prop :=
  call.answer = 0 ∧
    match call with
    | .sendMsg .. | .deviceWrite .. => False
    | .complete _ _ how _ => success how
    | .errorActive .. => dev.busState = .errorBusoff → ¬Waiting backend dev
    | .errorStatus _ _ errWarning errPassive => errWarning = true ∨ errPassive = true →
      dev.busState = .unknown ∨ dev.busState = .errorBusoff → ¬Waiting backend dev
    | _ => True

variable {backend ready}

theorem Written.inv {t t' : TransmitSide P} (written : Written backend ready t t') :
    EngineInv backend ready t' where
  ready := written.ready
  engine := written.outcome.imp id fun resting => ⟨resting.1, .inl resting.2⟩

theorem EngineInv.resting {t : TransmitSide P} (inv : EngineInv backend ready t)
    (stopped : t.engine = .stopped) : Resting backend t := by
  rcases inv.engine with sending | resting
  · rw [sending.2] at stopped
    cases stopped
  · exact resting.1

theorem startWriting_inv {success : C → Prop} (lawful : backend.Lawful ready success)
    (host : Host) {dev : Pcandev P} (is_ready : ready dev.transmit)
    (engine : Sending backend dev.transmit ∨ Resting backend dev.transmit) :
    EngineInv backend ready (pcanDevStartWriting (backend.write 0 host) dev).1.transmit := by
  rcases pcanDevStartWriting_cases (backend.write 0 host) dev with
    ⟨idle, same⟩ | ⟨known, stopped, same⟩
  · rw [same]
    refine ⟨is_ready, ?_⟩
    rcases engine with sending | resting
    · exact .inl sending
    · exact .inr ⟨resting, .inr (idle.imp id fun running => absurd resting.2 running)⟩
  · rw [same]
    rcases engine with sending | resting
    · exact absurd ((stopped : dev.transmit.engine = _).symm.trans sending.2) (by decide)
    · exact (lawful.write host dev is_ready resting).inv

theorem EngineInv.anyway {t : TransmitSide P} (inv : EngineInv backend ready t) :
    Sending backend t ∨ Resting backend t :=
  inv.engine.imp id And.left

theorem EngineInv.enter {success : C → Prop} (lawful : backend.Lawful ready success)
    {dev : Pcandev P} (inv : EngineInv backend ready dev.transmit) {state : PcanfdStatus}
    (quiet : dev.busState = .unknown ∨ dev.busState = .errorBusoff →
      ¬Waiting backend dev ∨ state = .unknown ∨ state = .errorBusoff) :
    EngineInv backend ready { dev.transmit with busState := state } := by
  refine ⟨lawful.busState _ _ inv.ready, ?_⟩
  rcases inv.engine with sending | ⟨resting, nothing | parked⟩
  · exact .inl sending
  · exact .inr ⟨resting, .inl nothing⟩
  · refine .inr ⟨resting, ?_⟩
    rcases quiet parked with not_waiting | still
    · left
      by_contra frames
      exact not_waiting ⟨frames, resting.1⟩
    · exact .inr still

theorem ioctlSendMsg_inv {success : C → Prop} (lawful : backend.Lawful ready success)
    (host : Host) (stack : PcanfdRxmsg) {dev : Pcandev P} (ptx : PcanfdTxmsg) (nonblock : Bool)
    (inv : EngineInv backend ready dev.transmit) :
    EngineInv backend ready
      (pcanfdIoctlSendMsg (backend.write 0 host) host stack dev ptx nonblock).1.transmit := by
  have effect := pcanfdSendMsg_effect (backend.write 0 host) host stack dev ptx nonblock
  unfold pcanfdIoctlSendMsg
  simp only
  cases effect with
  | refused same result =>
    split
    next queued => exact absurd queued result
    next => rw [same]; exact inv
  | sleeping waiting same online after result =>
    split
    next queued => exact absurd queued result
    next =>
      rw [after]
      apply startWriting_inv lawful host
      · rw [same]
        exact inv.ready
      · rw [same]
        exact inv.anyway
  | queued checked tv fifo accepted online items after result =>
    rw [result]
    dsimp only
    apply startWriting_inv lawful host
    · rw [after]
      exact lawful.queue dev ptx checked tv fifo inv.ready accepted items
    · rw [after]
      exact inv.anyway

theorem txStep_inv {success : C → Prop} (lawful : backend.Lawful ready success)
    {dev : Pcandev P} {call : TxCall C} (inv : EngineInv backend ready dev.transmit)
    (going : KeepsGoing backend success dev call) :
    EngineInv backend ready (txStep backend dev call).1.transmit := by
  obtain ⟨answer, going⟩ := going
  cases call with
  | sendMsg | deviceWrite => exact going.elim
  | ioctlSendMsg host stack ptx nonblock a =>
    obtain rfl : a = 0 := answer
    exact ioctlSendMsg_inv lawful host stack ptx nonblock inv
  | startTxEngine host a =>
    obtain rfl : a = 0 := answer
    exact startWriting_inv lawful host inv.ready inv.anyway
  | complete host stack how a =>
    obtain rfl : a = 0 := answer
    simp only [txStep]
    split
    next outstanding => exact (lawful.complete host stack how dev going inv.ready outstanding).inv
    next => exact inv
  | errorActive host rx a =>
    obtain rfl : a = 0 := answer
    simp only [txStep, pcanChardevRx_transmit]
    have entered := @pcanSetBusState_transmit _ dev .errorActive rfl
    rcases pcanHandleErrorActive_cases (backend.write 0 host) dev rx with
      ⟨known, same⟩ | ⟨unknown, same⟩
    · rw [same, entered]
      exact inv.enter lawful fun parked => .inl (going (parked.resolve_left known))
    · rw [same]
      apply startWriting_inv lawful host
      · rw [entered]
        exact lawful.busState _ _ inv.ready
      · rw [entered]
        exact inv.anyway
  | errorStatus host rx errWarning errPassive =>
    simp only [txStep, pcanChardevRx_transmit, pcanHandleErrorStatus_transmit]
    apply inv.enter lawful
    intro parked
    by_cases bits : errWarning = true ∨ errPassive = true
    · exact .inl (going bits parked)
    · right
      rw [not_or, Bool.not_eq_true, Bool.not_eq_true] at bits
      simpa [bits.1, bits.2] using parked
  | busoff host rx =>
    simp only [txStep, pcanChardevRx_transmit, pcanHandleBusoff_transmit]
    exact inv.enter lawful fun _ => .inr (.inr rfl)

end Invariant

section Usb
variable {family : UsbFamily}

theorem checkTxmsg_sendable {dev : UsbDev} {ptx checked : PcanfdTxmsg}
    (classic : family ≠ .ucan → dev.initSettings.flags &&& pcanfdInitFd = 0)
    (accepted : checkTxmsg dev ptx = .ok checked) : Sendable family checked := by
  unfold Sendable
  rcases checkTxmsg_length accepted with short | ⟨fd, long⟩
  · have bound : checked.msg.dataLen.toNat ≤ 8 := BitVec.le_def.1 short
    split <;> omega
  · have ucan : family = .ucan := by
      by_contra other
      exact fd (classic other)
    rw [if_pos ucan]
    exact BitVec.le_def.1 long

theorem usbReady_queue {dev : UsbDev} {ptx checked : PcanfdTxmsg} {tv : Timeval}
    {fifo : BoundedQueue PcanfdTxmsg} (ready : UsbReady family dev.transmit)
    (accepted : checkTxmsg dev ptx = .ok checked)
    (items : fifo.items = dev.writeFifo.items ++ [{ checked with tv := tv }]) :
    UsbReady family { dev.transmit with writeFifo := fifo } where
  plugged := ready.plugged
  sizes := ready.sizes
  classic := ready.classic
  sendable tx mem := by
    rw [items, List.mem_append, List.mem_singleton] at mem
    rcases mem with before | rfl
    · exact ready.sendable tx before
    · exact (checkTxmsg_sendable ready.classic accepted : Sendable family checked)

theorem pcanUsbWrite_written (host : Host) {dev : UsbDev} (ready : UsbReady family dev.transmit)
    (idle : dev.port.urbPending = false) :
    Written (usbBackend family) (UsbReady family) dev.transmit
      (pcanUsbWrite family 0 host dev).1.transmit := by
  have spec := fillWriteBuffer_spec ready
  have items := encodedDev_items spec.account
  have sendable : ∀ tx ∈ (encodedDev dev (fillWriteBuffer family dev)).writeFifo.items,
      Sendable family tx := by
    intro tx mem
    apply ready.sendable
    show tx ∈ dev.writeFifo.items
    rw [← spec.account]
    exact List.mem_append_right _ (items ▸ mem)
  by_cases some_length : 0 < (fillWriteBuffer family dev).length
  · rw [pcanUsbWrite_submitted host ready.plugged some_length]
    exact ⟨⟨ready.plugged, ready.sizes, sendable, ready.classic⟩, rfl, .inl ⟨rfl, rfl⟩⟩
  · have no_length : (fillWriteBuffer family dev).length = 0 := by omega
    rw [pcanUsbWrite_nothing 0 host ready.plugged no_length]
    exact ⟨⟨ready.plugged, ready.sizes, sendable, ready.classic⟩, rfl,
      .inr ⟨⟨idle, rfl⟩, items.trans (spec.nothing no_length).1⟩⟩

theorem pcanUsbWriteNotify_written (host : Host) (stack : PcanfdRxmsg) {dev : UsbDev}
    (ready : UsbReady family dev.transmit) :
    Written (usbBackend family) (UsbReady family) dev.transmit
      (pcanUsbWriteNotify family 0 host stack 0 dev).transmit := by
  have released : UsbReady family (releaseUrb dev).transmit :=
    ⟨ready.plugged, ready.sizes, ready.sendable, ready.classic⟩
  have written := pcanUsbWrite_written host released rfl
  rw [pcanUsbWriteNotify_transmit]
  exact ⟨written.ready, written.busState, written.outcome⟩

theorem usbBackend_lawful (family : UsbFamily) :
    (usbBackend family).Lawful (UsbReady family) (· = 0) where
  busState t _ ready := ⟨ready.plugged, ready.sizes, ready.sendable, ready.classic⟩
  queue _ _ _ _ _ ready accepted items := usbReady_queue ready accepted items
  write host _ ready resting := pcanUsbWrite_written host ready resting.1
  complete host stack how _ success ready _ := by
    subst success
    exact pcanUsbWriteNotify_written host stack ready

end Usb

section Sja1000

theorem sja1000WriteNext_written (dev : Sja1000Dev) :
    sja1000WriteNext dev = (dev, -enodata) ∧ dev.writeFifo.items = [] ∨
      (sja1000WriteNext dev).2 = 0 ∧
        (sja1000WriteNext dev).1.transmit.busState = dev.busState ∧
        Sending sja1000Backend (sja1000WriteNext dev).1.transmit := by
  unfold sja1000WriteNext BoundedQueue.oldest
  cases items : dev.writeFifo.items with
  | nil => exact .inl ⟨rfl, rfl⟩
  | cons tx rest => exact .inr ⟨rfl, rfl, rfl, rfl⟩

theorem sja1000Backend_lawful : sja1000Backend.Lawful (fun _ => True) (fun _ => True) where
  busState _ _ _ := trivial
  queue _ _ _ _ _ _ _ _ := trivial
  write host dev _ resting := by
    have idle : dev.port.txBusy = false := resting.1
    show Written _ _ _ (sja1000Write dev).1.transmit
    unfold sja1000Write
    rw [if_neg (by simp [idle])]
    rcases sja1000WriteNext_written dev with ⟨nothing, empty⟩ | ⟨_, state, sending⟩
    · rw [nothing]
      exact ⟨trivial, rfl, .inr ⟨resting, empty⟩⟩
    · exact ⟨trivial, state, .inl sending⟩
  complete host stack how dev _ _ _ := by
    show Written _ _ _ (sja1000TransmitInterrupt dev).transmit
    unfold sja1000TransmitInterrupt
    rcases sja1000WriteNext_written { dev with port := { dev.port with txBusy := false } } with
      ⟨nothing, empty⟩ | ⟨result, state, sending⟩
    · simp only [nothing, if_true]
      exact ⟨trivial, rfl, .inr ⟨⟨rfl, rfl⟩, empty⟩⟩
    · simp only [result]
      exact ⟨trivial, state, .inl sending⟩

end Sja1000

/-- Frames wait without a transfer only while the bus cannot be used. -/
def NoFrameStuck (backend : TxBackend P C) (dev : Pcandev P) : Prop :=
  Waiting backend dev → dev.busState = .unknown ∨ dev.busState = .errorBusoff

instance (backend : TxBackend P C) (dev : Pcandev P) : Decidable (NoFrameStuck backend dev) :=
  inferInstanceAs (Decidable (_ ∧ _ → _ ∨ _))

theorem EngineInv.not_stuck {backend : TxBackend P C} {ready : TransmitSide P → Prop}
    {dev : Pcandev P} (inv : EngineInv backend ready dev.transmit) : NoFrameStuck backend dev := by
  rintro ⟨frames, idle⟩
  rcases inv.engine with sending | ⟨_, nothing | parked⟩
  · exact absurd (sending.1.symm.trans idle) (by decide)
  · exact absurd nothing frames
  · exact parked

theorem run_not_stuck {backend : TxBackend P C} {ready : TransmitSide P → Prop}
    {success : C → Prop} (lawful : backend.Lawful ready success) {dev : Pcandev P}
    {calls : List (TxCall C)} (start : ready dev.transmit) (resting : Resting backend dev.transmit)
    (empty : dev.writeFifo.items = [])
    (going : Admitted (KeepsGoing backend success) (txStep backend) dev calls) :
    ∀ s ∈ states (txStep backend) dev calls, NoFrameStuck backend s := by
  intro s mem
  apply @EngineInv.not_stuck _ _ _ ready _
  exact @states_invariant _ _ _ _ _ (fun s : Pcandev P => EngineInv backend ready s.transmit)
    (fun _ _ inv going => txStep_inv lawful inv going) _ _ ⟨start, .inr ⟨resting, .inl empty⟩⟩
    going s mem

theorem queued_frames_under_way (family : UsbFamily) (usb : UsbDev) (sja1000 : Sja1000Dev)
    (usbCalls : List (TxCall Int)) (sjaCalls : List (TxCall Unit)) :
    (UsbReady family usb.transmit → Resting (usbBackend family) usb.transmit →
      usb.writeFifo.items = [] →
      Admitted (KeepsGoing (usbBackend family) (· = 0)) (txStep (usbBackend family)) usb usbCalls →
      ∀ s ∈ states (txStep (usbBackend family)) usb usbCalls,
        NoFrameStuck (usbBackend family) s) ∧
    (Resting sja1000Backend sja1000.transmit → sja1000.writeFifo.items = [] →
      Admitted (KeepsGoing sja1000Backend (fun _ => True)) (txStep sja1000Backend) sja1000
        sjaCalls →
      ∀ s ∈ states (txStep sja1000Backend) sja1000 sjaCalls, NoFrameStuck sja1000Backend s) := by
  constructor
  · intro ready resting empty going
    exact run_not_stuck (usbBackend_lawful family) ready resting empty going
  · intro resting empty going
    exact run_not_stuck sja1000Backend_lawful trivial resting empty going

def ucanPort : UsbPort := ⟨512, 512, 0, 0, false, []⟩

def sampleCalls {C : Type} (how : C) : List (TxCall C) :=
  [.ioctlSendMsg sampleHost .zero (sampleFrame 1) true 0, .errorActive sampleHost .zero 0,
    .ioctlSendMsg sampleHost .zero (sampleFrame 2) true 0,
    .errorStatus sampleHost .zero true false, .complete sampleHost .zero how 0]

theorem queued_frames_under_way_sample :
    let usb : UsbDev := openedChannel ucanPort 4 4 0
    let sja1000 : Sja1000Dev := openedChannel ⟨false, []⟩ 4 4 0
    (∀ s ∈ states (txStep (usbBackend .ucan)) usb (sampleCalls 0),
        NoFrameStuck (usbBackend .ucan) s) ∧
      ((run (txStep (usbBackend .ucan)) usb (sampleCalls 0)).1.port.submitted.map
        (·.packets.flatMap (·.packed.map (·.msg.id)))) = [[1], [2]] ∧
      (∀ s ∈ states (txStep sja1000Backend) sja1000 (sampleCalls ()),
        NoFrameStuck sja1000Backend s) ∧
      (run (txStep sja1000Backend) sja1000 (sampleCalls ())).1.port.requests.length = 2 := by
  intro usb sja1000
  obtain ⟨usbGoing, sjaGoing⟩ := queued_frames_under_way .ucan usb sja1000 (sampleCalls 0)
    (sampleCalls ())
  refine ⟨usbGoing ?_ ⟨rfl, rfl⟩ rfl ?_, by decide +kernel, sjaGoing ⟨rfl, rfl⟩ rfl ?_,
    by decide +kernel⟩
  · exact ⟨rfl, by decide, fun _ mem => absurd mem List.not_mem_nil, fun other => absurd rfl other⟩
  · refine ⟨⟨rfl, trivial⟩, ⟨rfl, ?_⟩, ⟨rfl, trivial⟩, ⟨rfl, ?_⟩, ⟨rfl, rfl⟩, trivial⟩
    · exact fun offline => absurd offline (by decide +kernel)
    · exact fun _ parked => absurd parked (by decide +kernel)
  · refine ⟨⟨rfl, trivial⟩, ⟨rfl, ?_⟩, ⟨rfl, trivial⟩, ⟨rfl, ?_⟩, ⟨rfl, trivial⟩, trivial⟩
    · exact fun offline => absurd offline (by decide +kernel)
    · exact fun _ parked => absurd parked (by decide +kernel)

/-- Frames queued before the first state report stay where they are when that
    report is a warning: only `pcan_handle_error_active` restarts writing. -/
theorem first_warning_leaves_frame_stuck :
    ¬NoFrameStuck (usbBackend .ucan) (run (txStep (usbBackend .ucan))
        (openedChannel ucanPort 4 4 0)
        [.ioctlSendMsg sampleHost .zero (sampleFrame 1) true 0,
          .errorStatus sampleHost .zero true false]).1 ∧
      ¬NoFrameStuck sja1000Backend (run (txStep sja1000Backend)
        (openedChannel ⟨false, []⟩ 4 4 0)
        [.ioctlSendMsg sampleHost .zero (sampleFrame 1) true 0,
          .errorStatus sampleHost .zero true false]).1 := by
  decide +kernel

end PcanDriver

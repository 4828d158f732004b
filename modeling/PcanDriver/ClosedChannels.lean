import PcanDriver.BusReports
import PcanDriver.UsbproDecode

/-!
What is posted to a channel that nobody has opened is dropped, so no handler of the USB
decoders fails there, and none of them opens or closes a channel.
-/
namespace PcanDriver
variable {P : Type} {n : Nat}

/-- A handler that leaves the paths of the channel alone and fails only when one is
    open. -/
structure Harmless (dev : Pcandev P) (done : Pcandev P × Int) : Prop where
  paths : done.1.nOpenPaths = dev.nOpenPaths
  result : dev.nOpenPaths ≤ 0 → 0 ≤ done.2

section Posts
variable (host : Host)

theorem paths_of_transmit {dev dev' : Pcandev P} (same : dev'.transmit = dev.transmit) :
    dev'.nOpenPaths = dev.nOpenPaths :=
  congrArg TransmitSide.nOpenPaths same

theorem pcanChardevRx_closed {dev : Pcandev P} (closed : dev.nOpenPaths ≤ 0) (rx : PcanfdRxmsg) :
    (pcanChardevRx host dev rx).2.2 = 0 := by
  have admitted : (admitRx dev rx).1.nOpenPaths ≤ 0 := by
    rw [paths_of_transmit (admitRx_only dev rx).transmit]
    exact closed
  unfold pcanChardevRx
  simp only
  split
  · rw [queueRx, if_pos admitted]
  · rfl

theorem posted_harmless {dev dev1 : Pcandev P} (same : dev1.nOpenPaths = dev.nOpenPaths)
    (rx : PcanfdRxmsg) : Harmless dev (posted host dev1 rx) where
  paths := (paths_of_transmit (pcanChardevRx_transmit host dev1 rx)).trans same
  result closed := Int.le_of_eq (pcanChardevRx_closed host (same ▸ closed) rx).symm

theorem postUnlessNop_harmless {dev dev1 : Pcandev P} (same : dev1.nOpenPaths = dev.nOpenPaths)
    (rx : PcanfdRxmsg) : Harmless dev (postUnlessNop host dev1 rx) := by
  unfold postUnlessNop
  split
  · exact ⟨same, fun _ => Int.le_refl 0⟩
  · exact posted_harmless host same rx

theorem pcanClearStatusBit_paths (dev : Pcandev P) (bits : U16) :
    (pcanClearStatusBit host dev bits).nOpenPaths = dev.nOpenPaths :=
  paths_of_transmit (pcanClearStatusBit_transmit host dev bits)

theorem pcanSetBusState_paths (dev : Pcandev P) (state : PcanfdStatus) :
    (pcanSetBusState dev state).nOpenPaths = dev.nOpenPaths :=
  congrArg RxGate.nOpenPaths (pcanSetBusState_gate dev state)

theorem pcanUsbWrite_paths (family : UsbFamily) (submit : Int) (dev : UsbDev) :
    (pcanUsbWrite family submit host dev).1.nOpenPaths = dev.nOpenPaths := by
  obtain ⟨dev1, gate, _, _, same | cleared⟩ := pcanUsbWrite_receive family submit host dev
  · rw [same]
    exact congrArg RxGate.nOpenPaths gate
  · rw [cleared, pcanClearStatusBit_paths]
    exact congrArg RxGate.nOpenPaths gate

theorem pcanHandleErrorActive_paths {write : Pcandev P → Pcandev P × Int}
    (kept : ∀ dev, (write dev).1.nOpenPaths = dev.nOpenPaths) (dev : Pcandev P)
    (rx : PcanfdRxmsg) : (pcanHandleErrorActive write dev rx).1.nOpenPaths = dev.nOpenPaths := by
  rcases pcanHandleErrorActive_cases write dev rx with ⟨_, same⟩ | ⟨_, started⟩
  · rw [same, pcanSetBusState_paths]
  · rw [started]
    rcases pcanDevStartWriting_cases write (pcanSetBusState dev .errorActive) with
      ⟨_, same⟩ | ⟨_, _, written⟩
    · rw [same, pcanSetBusState_paths]
    · rw [written, kept, pcanSetBusState_paths]

theorem handleBusBits_paths {write : Pcandev P → Pcandev P × Int}
    (kept : ∀ dev, (write dev).1.nOpenPaths = dev.nOpenPaths) (dev : Pcandev P) (rx : PcanfdRxmsg)
    (busoff warning passive : Bool) :
    (handleBusBits write dev rx busoff warning passive).1.nOpenPaths = dev.nOpenPaths := by
  rcases @handleBusBits_cases _ write dev busoff warning passive rx with
    ⟨_, same⟩ | ⟨dev1, gate, _, entered⟩ | ⟨_, _, rx1, active⟩
  · rw [same]
  · rw [entered, pcanSetBusState_paths]
    exact congrArg RxGate.nOpenPaths gate
  · rw [active]
    exact pcanHandleErrorActive_paths kept dev rx1

theorem pcanUsbproTimestampDecode_paths (time : UsbTime) (dev : Pcandev P) (tsLow : U32) :
    (pcanUsbproTimestampDecode host time dev tsLow).1.nOpenPaths = dev.nOpenPaths := by
  rw [pcanUsbproTimestampDecode_sync]

theorem countFailure_paths (dev : Pcandev P) (err : Int) :
    (countFailure dev err).nOpenPaths = dev.nOpenPaths := by
  obtain ⟨count, counted⟩ := countFailure_count dev err
  rw [counted]

end Posts

section Handlers
variable (env : DecodeEnv) (time : UsbTime)

structure HarmlessTo (c : UsbChannel) (done : UsbChannel × Int) : Prop where
  paths : done.1.dev.nOpenPaths = c.dev.nOpenPaths
  result : c.dev.nOpenPaths ≤ 0 → 0 ≤ done.2

theorem Harmless.noted {c : UsbChannel} {dev : UsbDev} {done : UsbDev × Int}
    (harmless : Harmless dev done) (same : dev.nOpenPaths = c.dev.nOpenPaths) :
    HarmlessTo c (c.noted done) where
  paths := (countFailure_paths done.1 done.2).trans (harmless.paths.trans same)
  result closed := harmless.result (same ▸ closed)

theorem ucanPostCanrxMsg_harmless (dev : Pcandev P) (rm : Nat → U8) (ptv : Option PcanTimeval) :
    Harmless dev (ucanPostCanrxMsg env.host dev rm ptv) := by
  unfold ucanPostCanrxMsg
  simp only
  split
  · exact ⟨pcanClearStatusBit_paths env.host dev _, fun _ => Int.le_refl 0⟩
  · exact posted_harmless env.host (pcanClearStatusBit_paths env.host dev _) _

theorem ucanPostErrorMsg_harmless (dev : Pcandev P) (er : Nat → U8) (ptv : Option PcanTimeval) :
    Harmless dev (ucanPostErrorMsg env.host dev er ptv) := by
  apply posted_harmless
  split <;> rfl

theorem ucanPostOverflowMsg_harmless (dev : Pcandev P) (ptv : Option PcanTimeval) :
    Harmless dev (ucanPostOverflowMsg env.host dev ptv) := by
  unfold ucanPostOverflowMsg
  simp only
  split
  · exact ⟨rfl, fun _ => Int.le_refl 0⟩
  · exact posted_harmless env.host (by rfl) _

theorem pcanUsbfdDecodeStatus_harmless (dev : UsbDev) (st : Nat → U8) (ptv : Option PcanTimeval) :
    Harmless dev (pcanUsbfdDecodeStatus env dev st ptv) :=
  postUnlessNop_harmless env.host
    (handleBusBits_paths (pcanUsbWrite_paths env.host .ucan env.submit) _ _ _ _ _) _

theorem stopIdleEngine_paths (dev : UsbDev) :
    (stopIdleEngine dev).nOpenPaths = dev.nOpenPaths := by
  unfold stopIdleEngine
  split <;> rfl

theorem pcanUsbfdDecode_harmless (kind : UcanMsg) (msg : Nat → U8) (c : UsbChannel) :
    HarmlessTo c (pcanUsbfdDecode env time kind msg c) := by
  have decoded := pcanUsbproTimestampDecode_paths env.host time c.dev (u32At msg 4)
  unfold pcanUsbfdDecode
  cases kind with
  | canRx => exact (ucanPostCanrxMsg_harmless env _ _ _).noted decoded
  | error => exact (ucanPostErrorMsg_harmless env _ _ _).noted decoded
  | busLoad => exact (posted_harmless env.host (by rfl) _).noted rfl
  | overrun => exact (ucanPostOverflowMsg_harmless env _ _).noted decoded
  | status =>
    have noted := (pcanUsbfdDecodeStatus_harmless env _ msg
      (pcanUsbproTimestampDecode env.host time c.dev (u32At msg 4)).2).noted decoded
    exact ⟨(stopIdleEngine_paths _).trans noted.paths, noted.result⟩
  | calibration => exact ⟨rfl, fun _ => Int.le_refl 0⟩

theorem pcanUsbproHandleCanmsgRx_harmless (rx : Nat → U8) (c : UsbChannel) :
    HarmlessTo c (pcanUsbproHandleCanmsgRx env time rx c) := by
  have post := posted_harmless env.host
    (pcanUsbproTimestampDecode_paths env.host time c.dev (u32At rx 4))
    ((usbproRxFrame rx).stamped (pcanUsbproTimestampDecode env.host time c.dev (u32At rx 4)).2)
  exact ⟨(countFailure_paths _ _).trans post.paths, post.result⟩

theorem usbproOverruns_paths (dev : Pcandev P) (f : PcanfdRxmsg) (rawStatus : U32) :
    (usbproOverruns dev f rawStatus).1.nOpenPaths = dev.nOpenPaths := by
  unfold usbproOverruns
  simp only
  split <;> split <;> rfl

theorem usbproErrorCounters_paths (dev : Pcandev P) (rawStatus errorFrame : U32) :
    (usbproErrorCounters dev rawStatus errorFrame).nOpenPaths = dev.nOpenPaths := by
  unfold usbproErrorCounters
  split <;> rfl

theorem handleStatusErrRx_harmless (er : Nat → U8) (c : UsbChannel) :
    HarmlessTo c (handleStatusErrRx env time er c) := by
  have status : (usbproStatus (pcanUsbWrite .usbPro env.submit env.host) c.dev
      ((u16At er 2).setWidth 32) (u32At er 8)).1.nOpenPaths = c.dev.nOpenPaths := by
    unfold usbproStatus
    simp only
    rw [usbproOverruns_paths, handleBusBits_paths (pcanUsbWrite_paths env.host .usbPro env.submit),
      usbproErrorCounters_paths]
  have harmless : Harmless c.dev (pcanUsbproHandleStatusErrRx
      (pcanUsbWrite .usbPro env.submit env.host) env.host time c.dev ((u16At er 2).setWidth 32)
      (u32At er 8) (u32At er 4)) := by
    unfold pcanUsbproHandleStatusErrRx
    simp only
    split
    · exact ⟨status, fun _ => Int.le_refl 0⟩
    · have post := posted_harmless env.host
        ((pcanUsbproTimestampDecode_paths env.host time _ (u32At er 4)).trans status)
      exact ⟨(countFailure_paths _ _).trans (post _).paths, (post _).result⟩
  exact ⟨harmless.paths, harmless.result⟩

theorem pcanUsbproHandleBuslastRx_harmless (bl : Nat → U8) (c : UsbChannel) :
    HarmlessTo c (pcanUsbproHandleBuslastRx env bl c) := by
  have post : Harmless c.dev (postBusLoad env.host c.dev (u16At bl 2) none) :=
    posted_harmless env.host (by rfl) busLoadMsg
  exact ⟨post.paths, post.result⟩

end Handlers

section Interface

def UsbInterface.Closed (usbIf : UsbInterface n) : Prop :=
  ∀ ci, (usbIf.devs ci).dev.nOpenPaths ≤ 0

/-- An interface nobody has opened a channel of, with a fragment of `fragRecOffset`
    bytes left by the last packet. -/
def closedInterface (n fragRecOffset : Nat) : UsbInterface n :=
  ⟨fun _ => ⟨{ openedChannel ⟨512, 512, 0, 0, false, []⟩ 2 2 0 with nOpenPaths := 0 }, false, 0, 0⟩,
    default, -1, 0, fragRecOffset⟩

theorem UsbInterface.Closed.withDev {usbIf : UsbInterface n} (closed : usbIf.Closed)
    (ci : Fin (n + 1)) {c : UsbChannel} (same : c.dev.nOpenPaths = (usbIf.devs ci).dev.nOpenPaths) :
    (usbIf.withDev ci c).Closed := by
  intro other
  simp only [UsbInterface.withDev]
  by_cases here : other = ci
  · subst here
    rw [Function.update_self, same]
    exact closed other
  · rw [Function.update_of_ne here]
    exact closed other

theorem UsbInterface.Closed.calibration {usbIf : UsbInterface n} (closed : usbIf.Closed)
    (env : DecodeEnv) (tsLow devFrameIndex : U32) :
    (pcanUsbproHandleCalibration env usbIf tsLow devFrameIndex).1.Closed := by
  unfold pcanUsbproHandleCalibration
  split
  · exact closed
  · simp only
    split
    · exact closed
    · split
      · exact closed
      · intro ci
        simp only [syncChannels]
        split <;> exact closed ci

theorem pcanUsbproHandleCalibration_result {env : DecodeEnv} (counting : 0 ≤ env.frameNumber)
    (usbIf : UsbInterface n) (tsLow devFrameIndex : U32) :
    (pcanUsbproHandleCalibration env usbIf tsLow devFrameIndex).2 = 0 := by
  unfold pcanUsbproHandleCalibration
  rw [if_neg (by omega)]
  simp only
  split
  · rfl
  · split <;> rfl

theorem UsbInterface.Closed.ucanDispatch {usbIf : UsbInterface n} (closed : usbIf.Closed)
    {env : DecodeEnv} (counting : 0 ≤ env.frameNumber) (kind : UcanMsg) (msg : Nat → U8) :
    (ucanDispatch env usbIf kind msg).1.Closed ∧ 0 ≤ (ucanDispatch env usbIf kind msg).2 := by
  unfold PcanDriver.ucanDispatch
  split
  · rw [pcanUsbproHandleCalibration_result counting]
    exact ⟨closed.calibration _ _ _, Int.le_refl 0⟩
  · split
    next inside =>
      have harmless := pcanUsbfdDecode_harmless env usbIf.time kind msg (usbIf.devs ⟨_, inside⟩)
      exact ⟨closed.withDev _ harmless.paths, harmless.result (closed _)⟩
    next => exact ⟨closed, Int.le_refl 0⟩

end Interface

end PcanDriver

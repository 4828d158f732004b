import PcanDriver.BusReports
import PcanDriver.Lib.StoppedRun
import PcanDriver.UsbproDecode

/-!
Channels of one USB interface. A record changes only the channel it is for, and the
others learn nothing of it but the time base; what they do learn is whether it has
been refused, since that ends the loop over the records.
-/
namespace PcanDriver
open StepSystem
variable {P : Type} {n : Nat}

/-- All that decoding may carry over from one channel to the others. -/
def Pcandev.shared (dev : Pcandev P) : TimeSync × PcanfdStatus := (dev.timeSync, dev.busState)

section Shared
variable (host : Host)

theorem shared_of_transmit {dev dev' : Pcandev P} (same : dev'.transmit = dev.transmit) :
    dev'.shared = dev.shared := by
  have sync : dev'.timeSync = dev.timeSync := congrArg TransmitSide.timeSync same
  have state : dev'.busState = dev.busState := congrArg TransmitSide.busState same
  unfold Pcandev.shared
  rw [sync, state]

theorem posted_shared (dev : Pcandev P) (rx : PcanfdRxmsg) :
    (posted host dev rx).1.shared = dev.shared :=
  shared_of_transmit (pcanChardevRx_transmit host dev rx)

theorem postUnlessNop_shared (dev : Pcandev P) (rx : PcanfdRxmsg) :
    (postUnlessNop host dev rx).1.shared = dev.shared := by
  unfold postUnlessNop
  split
  · rfl
  · exact shared_of_transmit (pcanChardevRx_transmit host dev rx)

theorem countFailure_shared (dev : Pcandev P) (err : Int) :
    (countFailure dev err).shared = dev.shared := by
  obtain ⟨count, counted⟩ := countFailure_count dev err
  rw [counted]
  rfl

theorem pcanSetBusState_timeSync (dev : Pcandev P) (state : PcanfdStatus) :
    (pcanSetBusState dev state).timeSync = dev.timeSync := by
  unfold pcanSetBusState
  split
  · rfl
  · cases state <;> rfl

theorem handleBusBits_timeSync {write : Pcandev P → Pcandev P × Int}
    (kept : ∀ dev, (write dev).1.timeSync = dev.timeSync) {dev : Pcandev P} (rx : PcanfdRxmsg)
    (busoff warning passive : Bool) :
    (handleBusBits write dev rx busoff warning passive).1.timeSync = dev.timeSync := by
  rcases @handleBusBits_cases _ write dev busoff warning passive rx with
    ⟨_, same⟩ | ⟨dev1, _, ⟨_, sync⟩, entered⟩ | ⟨_, _, rx1, active⟩
  · rw [same]
  · rw [entered, ← sync]
    exact pcanSetBusState_timeSync dev1 _
  · rw [active]
    rcases pcanHandleErrorActive_cases write dev rx1 with ⟨_, same⟩ | ⟨_, started⟩
    · rw [same, pcanSetBusState_timeSync]
    · rw [started]
      rcases pcanDevStartWriting_cases write (pcanSetBusState dev .errorActive) with
        ⟨_, same⟩ | ⟨_, _, written⟩
      · rw [same, pcanSetBusState_timeSync]
      · rw [written, kept, pcanSetBusState_timeSync]

/-- The decoder's message depends on the channel by its bus state only. -/
theorem handleBusBits_message (write : Pcandev P → Pcandev P × Int) {dev dev' : Pcandev P}
    (state : dev'.busState = dev.busState) (rx : PcanfdRxmsg) (busoff warning passive : Bool) :
    (handleBusBits write dev' rx busoff warning passive).2 =
      (handleBusBits write dev rx busoff warning passive).2 := by
  unfold handleBusBits pcanHandleBusoff pcanHandleErrorStatus pcanHandleErrorActive
  cases busoff <;> cases passive <;> cases warning <;>
    simp only [Bool.false_eq_true, if_false, if_true, state]
  · by_cases active : dev.busState = .errorActive
    · simp only [if_pos active, if_true]
    · simp only [if_neg active, Bool.false_eq_true, if_false, state]
  all_goals
    by_cases off : dev.busState = .errorBusoff
    · simp only [if_pos off]
    · simp only [if_neg off]

end Shared

section Handlers
variable (env : DecodeEnv) (time : UsbTime)

theorem noted_shared (c : UsbChannel) (done : UsbDev × Int) :
    (c.noted done).1.dev.shared = done.1.shared := countFailure_shared done.1 done.2

theorem stopIdleEngine_shared (dev : UsbDev) : (stopIdleEngine dev).shared = dev.shared := by
  unfold stopIdleEngine
  split <;> rfl

theorem pcanClearStatusBit_shared (host : Host) (dev : Pcandev P) (bits : U16) :
    (pcanClearStatusBit host dev bits).shared = dev.shared :=
  shared_of_transmit (pcanClearStatusBit_transmit host dev bits)

theorem ucanPostCanrxMsg_shared (host : Host) (dev : Pcandev P) (rm : Nat → U8)
    (ptv : Option PcanTimeval) : (ucanPostCanrxMsg host dev rm ptv).1.shared = dev.shared := by
  unfold ucanPostCanrxMsg
  simp only
  split
  · exact pcanClearStatusBit_shared host dev _
  · rw [posted_shared, pcanClearStatusBit_shared]

theorem ucanPostErrorMsg_shared (host : Host) (dev : Pcandev P) (er : Nat → U8)
    (ptv : Option PcanTimeval) : (ucanPostErrorMsg host dev er ptv).1.shared = dev.shared := by
  unfold ucanPostErrorMsg
  simp only
  split <;> exact posted_shared host _ _

theorem ucanPostOverflowMsg_shared (host : Host) (dev : Pcandev P) (ptv : Option PcanTimeval) :
    (ucanPostOverflowMsg host dev ptv).1.shared = dev.shared := by
  unfold ucanPostOverflowMsg
  simp only
  split
  · rfl
  · exact posted_shared host _ _

theorem pcanUsbfdDecodeStatus_shared (dev : UsbDev) (st : Nat → U8) (ptv : Option PcanTimeval) :
    (pcanUsbfdDecodeStatus env dev st ptv).1.shared = (dev.timeSync,
      busBitsState (st 12 &&& 0x80 ≠ 0) (st 12 &&& 0x40 ≠ 0) (st 12 &&& 0x20 ≠ 0)) := by
  unfold pcanUsbfdDecodeStatus ucanPostStatusMsg
  simp only
  rw [postUnlessNop_shared]
  exact Prod.ext (handleBusBits_timeSync (pcanUsbWrite_timeSync .ucan env.submit env.host) _ _ _ _)
    (handleBusBits_busState (pcanUsbWrite_law .ucan env.submit env.host) _)

theorem pcanUsbfdDecode_shared (kind : UcanMsg) (msg : Nat → U8) (c : UsbChannel) :
    (pcanUsbfdDecode env time kind msg c).1.dev.shared =
      let sync := time.decodedSync env.host c.dev.timeSync (u32At msg 4)
      match kind with
      | .canRx | .error | .overrun => (sync, c.dev.busState)
      | .status => (sync, busBitsState (msg 12 &&& 0x80 ≠ 0) (msg 12 &&& 0x40 ≠ 0)
          (msg 12 &&& 0x20 ≠ 0))
      | .busLoad | .calibration => c.dev.shared := by
  unfold pcanUsbfdDecode
  cases kind <;> simp only [pcanUsbproTimestampDecode_sync]
  · rw [noted_shared, ucanPostCanrxMsg_shared]
    rfl
  · rw [noted_shared, ucanPostErrorMsg_shared]
    rfl
  · rw [stopIdleEngine_shared, noted_shared, pcanUsbfdDecodeStatus_shared]
  · rw [noted_shared]
    exact posted_shared env.host _ _
  · rw [noted_shared, ucanPostOverflowMsg_shared]
    rfl

theorem pcanUsbproHandleCanmsgRx_shared (rx : Nat → U8) (c : UsbChannel) :
    (pcanUsbproHandleCanmsgRx env time rx c).1.dev.shared =
      (time.decodedSync env.host c.dev.timeSync (u32At rx 4), c.dev.busState) := by
  unfold pcanUsbproHandleCanmsgRx
  simp only [pcanUsbproTimestampDecode_sync]
  rw [noted_shared, posted_shared]
  rfl

theorem usbproErrorCounters_shared (dev : Pcandev P) (rawStatus errorFrame : U32) :
    (usbproErrorCounters dev rawStatus errorFrame).shared = dev.shared := by
  unfold usbproErrorCounters
  split <;> rfl

theorem usbproOverruns_shared (dev : Pcandev P) (f : PcanfdRxmsg) (rawStatus : U32) :
    (usbproOverruns dev f rawStatus).1.shared = dev.shared := by
  unfold usbproOverruns
  simp only
  split <;> split <;> rfl

theorem usbproOverruns_message (dev dev' : Pcandev P) (f : PcanfdRxmsg) (rawStatus : U32) :
    (usbproOverruns dev' f rawStatus).2 = (usbproOverruns dev f rawStatus).2 := by
  unfold usbproOverruns
  simp only
  split <;> split <;> rfl

theorem usbproStatus_shared {write : Pcandev P → Pcandev P × Int} {slots : Nat}
    (law : WriteLaw slots write) (kept : ∀ dev, (write dev).1.timeSync = dev.timeSync)
    (dev : Pcandev P) (rawStatus errorFrame : U32) :
    (usbproStatus write dev rawStatus errorFrame).1.shared = (dev.timeSync,
      busBitsState (rawStatus &&& fwUsbproStatusMaskBusS ≠ 0)
        (rawStatus &&& fwUsbproStatusMaskErrorS ≠ 0) (usbproPassive errorFrame)) := by
  unfold usbproStatus
  simp only
  rw [usbproOverruns_shared]
  exact Prod.ext ((handleBusBits_timeSync kept _ _ _ _).trans
    (congrArg Prod.fst (usbproErrorCounters_shared dev rawStatus errorFrame)))
    (handleBusBits_busState law _)

theorem usbproStatus_message (write : Pcandev P → Pcandev P × Int) {dev dev' : Pcandev P}
    (state : dev'.busState = dev.busState) (rawStatus errorFrame : U32) :
    (usbproStatus write dev' rawStatus errorFrame).2 =
      (usbproStatus write dev rawStatus errorFrame).2 := by
  have counted : ∀ d : Pcandev P,
      (usbproErrorCounters d rawStatus errorFrame).busState = d.busState :=
    fun d => congrArg Prod.snd (usbproErrorCounters_shared d rawStatus errorFrame)
  unfold usbproStatus
  simp only
  rw [handleBusBits_message write ((counted dev').trans (state.trans (counted dev).symm))]
  exact usbproOverruns_message _ _ _ _

theorem handleStatusErrRx_shared (er : Nat → U8) (c : UsbChannel) :
    (handleStatusErrRx env time er c).1.dev.shared =
      let raw : U32 := (u16At er 2).setWidth 32
      (if (usbproStatus (pcanUsbWrite .usbPro env.submit env.host) c.dev raw
          (u32At er 8)).2.msg.type = .nop then c.dev.timeSync
        else time.decodedSync env.host c.dev.timeSync (u32At er 4),
        busBitsState (raw &&& fwUsbproStatusMaskBusS ≠ 0) (raw &&& fwUsbproStatusMaskErrorS ≠ 0)
          (usbproPassive (u32At er 8))) := by
  have shared := usbproStatus_shared (pcanUsbWrite_law .usbPro env.submit env.host)
    (pcanUsbWrite_timeSync .usbPro env.submit env.host) c.dev ((u16At er 2).setWidth 32)
    (u32At er 8)
  unfold handleStatusErrRx pcanUsbproHandleStatusErrRx
  simp only
  split
  next => exact shared
  next =>
    have sync := congrArg Prod.fst shared
    have state := congrArg Prod.snd shared
    rw [countFailure_shared, pcanUsbproTimestampDecode_sync]
    refine (shared_of_transmit (pcanChardevRx_transmit env.host _ _)).trans ?_
    simp only [Pcandev.shared] at sync state ⊢
    rw [sync, state]

theorem pcanUsbproHandleBuslastRx_shared (bl : Nat → U8) (c : UsbChannel) :
    (pcanUsbproHandleBuslastRx env bl c).1.dev.shared = c.dev.shared :=
  posted_shared env.host _ _

end Handlers

/-- Two states of an interface that only channel `a` could tell apart. -/
structure AgreeApart (a : Fin (n + 1)) (s t : UsbInterface n) : Prop where
  others : ∀ b, b ≠ a → s.devs b = t.devs b
  shared : (s.devs a).dev.shared = (t.devs a).dev.shared
  time : s.time = t.time
  devFrameIndex : s.devFrameIndex = t.devFrameIndex
  busFrameIndex : s.busFrameIndex = t.busFrameIndex
  fragRecOffset : s.fragRecOffset = t.fragRecOffset

section Steps
variable {a : Fin (n + 1)} {s t : UsbInterface n}

theorem AgreeApart.timeSync (agree : AgreeApart a s t) (b : Fin (n + 1)) :
    (s.devs b).dev.timeSync = (t.devs b).dev.timeSync := by
  by_cases here : b = a
  · rw [here]
    exact congrArg Prod.fst agree.shared
  · rw [agree.others b here]

/-- A record is handled by its channel; for `a` the handler has to keep what the
    others may see. -/
theorem AgreeApart.withDev (agree : AgreeApart a s t) (ci : Fin (n + 1))
    {handle : UsbChannel → UsbChannel × Int}
    (keep : ∀ c c' : UsbChannel, c.dev.shared = c'.dev.shared →
      (handle c).1.dev.shared = (handle c').1.dev.shared) :
    AgreeApart a (s.withDev ci (handle (s.devs ci)).1) (t.withDev ci (handle (t.devs ci)).1) := by
  refine ⟨?_, ?_, agree.time, agree.devFrameIndex, agree.busFrameIndex, agree.fragRecOffset⟩
  · intro b other
    by_cases same : b = ci
    · subst same
      simp only [UsbInterface.withDev, Function.update_self, agree.others b other]
    · simp only [UsbInterface.withDev, Function.update_of_ne same, agree.others b other]
  · by_cases same : a = ci
    · subst same
      simp only [UsbInterface.withDev, Function.update_self]
      exact keep _ _ agree.shared
    · simp only [UsbInterface.withDev, Function.update_of_ne same]
      exact agree.shared

theorem AgreeApart.syncChannels (agree : AgreeApart a s t) (env : DecodeEnv) (dfi : Int) :
    AgreeApart a { s with devs := PcanDriver.syncChannels env s dfi }
      { t with devs := PcanDriver.syncChannels env t dfi } := by
  unfold PcanDriver.syncChannels
  simp only [agree.timeSync 0, agree.time]
  split
  · refine ⟨fun b other => ?_, ?_, rfl, agree.devFrameIndex, agree.busFrameIndex,
      agree.fragRecOffset⟩
    · show (s.devs b).withSync _ = (t.devs b).withSync _
      rw [agree.others b other]
    · have state : (s.devs a).dev.busState = (t.devs a).dev.busState :=
        congrArg Prod.snd agree.shared
      simp only [UsbChannel.withSync, Pcandev.shared, state]
  · exact ⟨agree.others, agree.shared, rfl, agree.devFrameIndex, agree.busFrameIndex,
      agree.fragRecOffset⟩

theorem AgreeApart.calibration (agree : AgreeApart a s t) (env : DecodeEnv)
    (tsLow devFrameIndex : U32) :
    AgreeApart a (pcanUsbproHandleCalibration env s tsLow devFrameIndex).1
      (pcanUsbproHandleCalibration env t tsLow devFrameIndex).1 := by
  unfold pcanUsbproHandleCalibration
  split
  · exact agree
  · simp only [agree.time, agree.devFrameIndex]
    split
    · exact ⟨agree.others, agree.shared, rfl, rfl, rfl, agree.fragRecOffset⟩
    · split
      · exact ⟨agree.others, agree.shared, rfl, rfl, rfl, agree.fragRecOffset⟩
      · refine AgreeApart.syncChannels ?_ env _
        exact ⟨agree.others, agree.shared, rfl, rfl, rfl, agree.fragRecOffset⟩

theorem AgreeApart.ucanDispatch (agree : AgreeApart a s t) (env : DecodeEnv) (kind : UcanMsg)
    (msg : Nat → U8) :
    AgreeApart a (PcanDriver.ucanDispatch env s kind msg).1
      (PcanDriver.ucanDispatch env t kind msg).1 := by
  unfold PcanDriver.ucanDispatch
  split
  · exact agree.calibration _ _ _
  · split
    · rw [agree.time]
      refine agree.withDev _ fun c c' same => ?_
      rw [pcanUsbfdDecode_shared, pcanUsbfdDecode_shared]
      have sync : c.dev.timeSync = c'.dev.timeSync := congrArg Prod.fst same
      have state : c.dev.busState = c'.dev.busState := congrArg Prod.snd same
      rw [sync, state, same]
    · exact agree

theorem AgreeApart.ucanHandleMsg (agree : AgreeApart a s t)
    (input : DecodeEnv × (Nat → U8)) :
    AgreeApart a (PcanDriver.ucanHandleMsg s input).1 (PcanDriver.ucanHandleMsg t input).1 := by
  unfold PcanDriver.ucanHandleMsg
  simp only
  split
  · exact agree
  · split
    · exact agree
    · split
      · exact agree
      · exact agree.ucanDispatch _ _ _

theorem AgreeApart.onController (agree : AgreeApart a s t) (channel : U8)
    {handle : UsbChannel → UsbChannel × Int} (result : Int → RecResult)
    (keep : ∀ c c' : UsbChannel, c.dev.shared = c'.dev.shared →
      (handle c).1.dev.shared = (handle c').1.dev.shared) :
    AgreeApart a (PcanDriver.onController s channel handle result).1
      (PcanDriver.onController t channel handle result).1 := by
  unfold PcanDriver.onController
  split
  · exact agree.withDev _ keep
  · exact agree

theorem AgreeApart.usbproHandleRec (agree : AgreeApart a s t)
    (input : DecodeEnv × (Nat → U8)) :
    AgreeApart a (PcanDriver.usbproHandleRec s input).1
      (PcanDriver.usbproHandleRec t input).1 := by
  unfold PcanDriver.usbproHandleRec
  simp only [agree.time]
  split
  · refine agree.onController _ _ fun c c' same => ?_
    rw [pcanUsbproHandleCanmsgRx_shared, pcanUsbproHandleCanmsgRx_shared]
    rw [show c.dev.timeSync = c'.dev.timeSync from congrArg Prod.fst same,
      show c.dev.busState = c'.dev.busState from congrArg Prod.snd same]
  · split
    · refine agree.onController _ _ fun c c' same => ?_
      have state : c.dev.busState = c'.dev.busState := congrArg Prod.snd same
      rw [handleStatusErrRx_shared, handleStatusErrRx_shared]
      simp only [usbproStatus_message _ state, show c.dev.timeSync = c'.dev.timeSync from
        congrArg Prod.fst same]
    · split
      · exact agree.calibration _ _ _
      · split
        · refine agree.onController _ _ fun c c' same => ?_
          rw [pcanUsbproHandleBuslastRx_shared, pcanUsbproHandleBuslastRx_shared, same]
        · exact agree

end Steps

section Buffers
variable (env : Nat → DecodeEnv)

def ucanStops (result : Int) : Bool := result ≤ 0

/-- The size of a message that others can follow. -/
def ucanNext (msg : Nat → U8) : Option Nat :=
  let type := u16At msg 2
  if u16At msg 0 = 0 then none
  else if type = 0 then some (u16At msg 0).toNat
  else if type = ucanCmdEndOfCollection ∨ type = 0xffff then none
  else (pcanUsbfdUcanHandlers type).map fun _ => (u16At msg 0).toNat

/-- All messages of a buffer, whatever their channels do with them. -/
def ucanMsgs (mem : Nat → U8) (msgLen : Nat) : Nat → Nat → Nat → List (DecodeEnv × (Nat → U8))
  | 0, _, _ => []
  | fuel + 1, i, ptr =>
    if ptr < msgLen then
      let msg := fun k => mem (ptr + k)
      (env i, msg) :: match ucanNext msg with
        | some size => ucanMsgs mem msgLen fuel (i + 1) (ptr + align4 size)
        | none => []
    else []

/-- A message that does not stop the loop moves it by its size. -/
theorem ucanHandleMsg_next (usbIf : UsbInterface n) (input : DecodeEnv × (Nat → U8))
    (goes : ¬(ucanHandleMsg usbIf input).2 ≤ 0) :
    ucanNext input.2 = some (ucanHandleMsg usbIf input).2.toNat := by
  revert goes
  unfold ucanHandleMsg ucanNext
  simp only
  by_cases empty : u16At input.2 0 = 0
  · rw [if_pos (.inl empty), empty]
    exact fun goes => absurd (Int.le_refl 0) goes
  by_cases null : u16At input.2 2 = 0
  · rw [if_pos (.inr null), if_neg empty, if_pos null]
    exact fun _ => rfl
  rw [if_neg (not_or.mpr ⟨empty, null⟩), if_neg empty, if_neg null]
  by_cases last : u16At input.2 2 = ucanCmdEndOfCollection ∨ u16At input.2 2 = 0xffff
  · rw [if_pos last]
    exact fun goes => absurd (Int.le_refl 0) goes
  rw [if_neg last, if_neg last]
  cases pcanUsbfdUcanHandlers (u16At input.2 2) with
  | none =>
    have bad : -ebadmsg ≤ 0 := by decide
    exact fun goes => absurd bad goes
  | some kind =>
    simp only
    split
    next refused => exact fun goes => absurd (Int.le_of_lt refused) goes
    next => exact fun _ => rfl

theorem ucanLoop_handled (mem : Nat → U8) (msgLen fuel i ptr : Nat) (usbIf : UsbInterface n) :
    (ucanLoop env mem msgLen fuel i ptr usbIf).handled =
      (ucanMsgs env mem msgLen fuel i ptr).take
        (reached ucanHandleMsg ucanStops usbIf (ucanMsgs env mem msgLen fuel i ptr)) := by
  induction fuel generalizing i ptr usbIf with
  | zero => rfl
  | succ fuel ih =>
    unfold ucanLoop ucanMsgs
    split
    · simp only [reached, ucanStops, decide_eq_true_eq]
      split
      next => rfl
      next goes =>
        rw [ucanHandleMsg_next usbIf _ goes]
        simp only [ih, List.take_succ_cons]
    · rfl

theorem ucanLoop_run (mem : Nat → U8) (msgLen fuel i ptr : Nat) (usbIf : UsbInterface n) :
    (ucanLoop env mem msgLen fuel i ptr usbIf).usbIf =
      (run ucanHandleMsg usbIf (ucanLoop env mem msgLen fuel i ptr usbIf).handled).1 := by
  induction fuel generalizing i ptr usbIf with
  | zero => rfl
  | succ fuel ih =>
    unfold ucanLoop
    split
    · simp only
      split
      · rfl
      · exact ih _ _ _
    · rfl

theorem ucanHandleMsgsBuffer_run (usbIf : UsbInterface n) (mem : Nat → U8) (msgLen : Nat) :
    let decoded := ucanHandleMsgsBuffer env usbIf mem msgLen
    decoded.usbIf = (run ucanHandleMsg usbIf decoded.handled).1 :=
  ucanLoop_run env mem msgLen _ _ _ usbIf

/-- All records of a USB-Pro message that end inside of the packet. -/
def usbproRecs (mem : Int → U8) (msgEnd : Int) : Nat → Nat → Int → List (DecodeEnv × (Nat → U8))
  | 0, _, _ => []
  | recCount + 1, i, recPtr =>
    match pcanUsbproSizeofRec (mem recPtr) with
    | none => []
    | some size =>
      if recPtr + size > msgEnd then []
      else (env i, fun k : Nat => mem (recPtr + k)) ::
        usbproRecs mem msgEnd recCount (i + 1) (recPtr + size)

/-- A message begins with its record counter, in front of what the last packet has
    left of it. -/
def usbproMsgRecs (fragRecOffset : Nat) (mem : Int → U8) (msgLen : Nat) :
    List (DecodeEnv × (Nat → U8)) :=
  let msgAddr : Int := -(fragRecOffset : Int)
  if msgLen + fragRecOffset < 4 then []
  else usbproRecs env mem msgLen (recCounter mem msgAddr) 0 (msgAddr + 4)

theorem usbproLoop_handled (mem : Int → U8) (msgEnd : Int) (recCount i : Nat) (recPtr err : Int)
    (usbIf : UsbInterface n) :
    (usbproLoop env mem msgEnd recCount i recPtr err usbIf).handled =
      (usbproRecs env mem msgEnd recCount i recPtr).take
        (reached usbproHandleRec RecResult.stops usbIf
          (usbproRecs env mem msgEnd recCount i recPtr)) := by
  induction recCount generalizing i recPtr err usbIf with
  | zero => rfl
  | succ recCount ih =>
    unfold usbproLoop usbproRecs
    cases pcanUsbproSizeofRec (mem recPtr) with
    | none => rfl
    | some size =>
      simp only
      split
      · rfl
      · simp only [reached]
        split <;> rename_i result <;> simp only [result, RecResult.stops, if_true,
          Bool.false_eq_true, if_false, ih, List.take_succ_cons, List.take_zero]

theorem usbproLoop_run (mem : Int → U8) (msgEnd : Int) (recCount i : Nat) (recPtr err : Int)
    (usbIf : UsbInterface n) :
    (usbproLoop env mem msgEnd recCount i recPtr err usbIf).usbIf =
      (run usbproHandleRec usbIf
        (usbproLoop env mem msgEnd recCount i recPtr err usbIf).handled).1 := by
  induction recCount generalizing i recPtr err usbIf with
  | zero => rfl
  | succ recCount ih =>
    unfold usbproLoop
    split
    · rfl
    · split
      · rfl
      · simp only
        split
        · rfl
        · rfl
        · exact ih _ _ _ _
        · exact ih _ _ _ _

theorem finish_dev (done : UsbproLoop n) (msgEnd : Int) (b : Fin (n + 1)) :
    ((done.finish msgEnd).devs b).dev = (done.usbIf.devs b).dev := by
  have woken : ((done.usbIf.wakeup).devs b).dev = (done.usbIf.devs b).dev := by
    unfold UsbInterface.wakeup
    simp only
    split <;> rfl
  unfold UsbproLoop.finish
  split
  · rfl
  · exact woken
  · exact woken

theorem pcanUsbproMsgDecode_run (usbIf : UsbInterface n) (mem : Int → U8) (msgLen : Nat)
    (b : Fin (n + 1)) :
    let decoded := pcanUsbproMsgDecode env usbIf mem msgLen
    (decoded.usbIf.devs b).dev =
      ((run usbproHandleRec usbIf.resetWakeups decoded.handled).1.devs b).dev := by
  unfold pcanUsbproMsgDecode
  simp only
  split
  · rfl
  · rw [finish_dev, usbproLoop_run]

theorem pcanUsbproMsgDecode_handled (usbIf : UsbInterface n) (mem : Int → U8) (msgLen : Nat) :
    (pcanUsbproMsgDecode env usbIf mem msgLen).handled =
      (usbproMsgRecs env usbIf.fragRecOffset mem msgLen).take
        (reached usbproHandleRec RecResult.stops usbIf.resetWakeups
          (usbproMsgRecs env usbIf.fragRecOffset mem msgLen)) := by
  unfold pcanUsbproMsgDecode usbproMsgRecs
  simp only
  split
  · rfl
  · exact usbproLoop_handled env mem _ _ _ _ _ _

end Buffers

structure Reception where
  readFifo : BoundedQueue PcanfdRxmsg
  nOpenPaths : Int
  overrun : Bool

def Pcandev.withReception (dev : Pcandev P) (r : Reception) : Pcandev P :=
  { dev with
    readFifo := r.readFifo
    nOpenPaths := r.nOpenPaths
    wCANStatus := if r.overrun then dev.wCANStatus ||| canErrOverrun
      else dev.wCANStatus &&& ~~~canErrOverrun }

def UsbInterface.withReception (usbIf : UsbInterface n) (a : Fin (n + 1)) (r : Reception) :
    UsbInterface n :=
  usbIf.withDev a { usbIf.devs a with dev := (usbIf.devs a).dev.withReception r }

def queueNews {A : Type} [DecidableEq A] : List A → List A → List A
  | x :: before, y :: after => if x = y then queueNews before after else y :: after
  | [], after => after
  | _ :: _, [] => []

/-- The messages that a step puts into the queue of channel `b`. -/
def channelNews (b : Fin (n + 1)) (s s' : UsbInterface n) : List PcanfdRxmsg :=
  queueNews (s.devs b).dev.readFifo.items (s'.devs b).dev.readFifo.items

/-- The sequence of messages that decoding a buffer posts to channel `b`. -/
def ucanPosts (b : Fin (n + 1)) (usbIf : UsbInterface n) (decoded : Decoded n) :
    List PcanfdRxmsg :=
  observed (channelNews b) (transitions ucanHandleMsg usbIf decoded.handled)

def usbproPosts (b : Fin (n + 1)) (usbIf : UsbInterface n) (decoded : UsbproDecoded n) :
    List PcanfdRxmsg :=
  observed (channelNews b) (transitions usbproHandleRec usbIf.resetWakeups decoded.handled)

/-- Input number `k`, handled after all those before it, posts to channel `a` at most. -/
def QuietElsewhere {O : Type} (a : Fin (n + 1))
    (step : UsbInterface n → DecodeEnv × (Nat → U8) → UsbInterface n × O) (s : UsbInterface n)
    (inputs : List (DecodeEnv × (Nat → U8))) (k : Nat) : Prop :=
  ∀ (inside : k < (transitions step s inputs).length), ∀ b, b ≠ a →
    channelNews b (transitions step s inputs)[k].before (transitions step s inputs)[k].after = []

section Isolation
variable {a : Fin (n + 1)} {s t : UsbInterface n}

theorem withReception_agree (usbIf : UsbInterface n) (a : Fin (n + 1)) (r r' : Reception) :
    AgreeApart a (usbIf.withReception a r) (usbIf.withReception a r') := by
  refine ⟨?_, ?_, rfl, rfl, rfl, rfl⟩
  · intro b other
    simp only [UsbInterface.withReception, UsbInterface.withDev, Function.update_of_ne other]
  · simp only [UsbInterface.withReception, UsbInterface.withDev, Function.update_self]
    rfl

theorem AgreeApart.resetWakeups (agree : AgreeApart a s t) :
    AgreeApart a s.resetWakeups t.resetWakeups := by
  refine ⟨fun b other => ?_, agree.shared, agree.time, agree.devFrameIndex, agree.busFrameIndex,
    agree.fragRecOffset⟩
  simp only [UsbInterface.resetWakeups, agree.others b other]

theorem posts_same_iff {O : Type} {stop : O → Bool}
    {step : UsbInterface n → DecodeEnv × (Nat → U8) → UsbInterface n × O}
    (keep : ∀ s t input, AgreeApart a s t → AgreeApart a (step s input).1 (step t input).1)
    (agree : AgreeApart a s t) (inputs : List (DecodeEnv × (Nat → U8))) :
    (∀ b, b ≠ a →
        observed (channelNews b) (transitions step s (inputs.take (reached step stop s inputs))) =
          observed (channelNews b)
            (transitions step t (inputs.take (reached step stop t inputs)))) ↔
      ∀ k, ReachedOnce step stop s t inputs k → QuietElsewhere a step s inputs k := by
  have news : ∀ b, b ≠ a → ∀ s t s' t' : UsbInterface n, AgreeApart a s t →
      AgreeApart a s' t' → channelNews b s s' = channelNews b t t' := by
    intro b other s t s' t' before after
    simp only [channelNews, before.others b other, after.others b other]
  constructor
  · intro same k once inside b other
    exact (stopped_runs_show_same_iff keep (news b other) agree inputs).mp (same b other) k inside
      once
  · intro quiet b other
    exact (stopped_runs_show_same_iff keep (news b other) agree inputs).mpr
      fun k inside once => quiet k once inside b other

end Isolation

/-- The channels of a USB interface and what each of them is told, when two states of
    the interface differ in how far the reader of channel `a` has come. The loops end
    with the first record that a channel refuses, so the others are told the same
    exactly if the records that are reached from one of the states only post nothing
    to them. -/
theorem channels_isolated_iff (usbIf : UsbInterface n) (a : Fin (n + 1)) (r r' : Reception)
    (env : Nat → DecodeEnv) :
    let s := usbIf.withReception a r
    let t := usbIf.withReception a r'
    (∀ (mem : Nat → U8) (msgLen : Nat),
      let msgs := ucanMsgs env mem msgLen (msgLen + 1) 0 0
      (∀ b, b ≠ a → ucanPosts b s (ucanHandleMsgsBuffer env s mem msgLen) =
          ucanPosts b t (ucanHandleMsgsBuffer env t mem msgLen)) ↔
        ∀ k, ReachedOnce ucanHandleMsg ucanStops s t msgs k →
          QuietElsewhere a ucanHandleMsg s msgs k) ∧
    (∀ (mem : Int → U8) (msgLen : Nat),
      let recs := usbproMsgRecs env usbIf.fragRecOffset mem msgLen
      (∀ b, b ≠ a → usbproPosts b s (pcanUsbproMsgDecode env s mem msgLen) =
          usbproPosts b t (pcanUsbproMsgDecode env t mem msgLen)) ↔
        ∀ k, ReachedOnce usbproHandleRec RecResult.stops s.resetWakeups t.resetWakeups recs k →
          QuietElsewhere a usbproHandleRec s.resetWakeups recs k) := by
  intro s t
  have agree : AgreeApart a s t := withReception_agree usbIf a r r'
  constructor
  · intro mem msgLen msgs
    unfold ucanPosts ucanHandleMsgsBuffer
    simp only [ucanLoop_handled]
    exact posts_same_iff (fun _ _ input agree => agree.ucanHandleMsg input) agree msgs
  · intro mem msgLen recs
    unfold usbproPosts
    simp only [pcanUsbproMsgDecode_handled]
    exact posts_same_iff (fun _ _ input agree => agree.usbproHandleRec input)
      agree.resetWakeups recs

def sampleInterface : UsbInterface 1 :=
  ⟨fun _ => ⟨{ openedChannel ⟨512, 512, 0, 0, false, []⟩ 2 2 0 with busState := .errorActive },
    false, 0, 0⟩, default, -1, 0, 0⟩

def sampleEnv : DecodeEnv := ⟨sampleHost, 0, .zero, 0⟩

def emptyQueue : Reception := ⟨BoundedQueue.empty 2, 1, false⟩

def overrunQueue : Reception := ⟨⟨2, [.zero, .zero], by decide⟩, 1, true⟩

/-- A frame for channel 0 and one for channel 1, as a USB FD device sends them. -/
def ucanSample : List U8 :=
  [28, 0, 1, 0] ++ List.replicate 16 0 ++ [0, 0, 0, 0, 0x23, 1, 0, 0] ++
    [28, 0, 1, 0] ++ List.replicate 16 0 ++ [1, 0, 0, 0, 0x23, 1, 0, 0]

def usbproSample : List U8 :=
  [2, 0, 0, 0] ++ [0x82, 0, 0, 0x00, 0, 0, 0, 0, 0x23, 1, 0, 0] ++
    [0x82, 0, 0, 0x10, 0, 0, 0, 0, 0x23, 1, 0, 0]

/-- Closing channel 0 instead of reading it changes nothing for channel 1. -/
theorem channels_isolated_sample :
    let s := sampleInterface.withReception 0 emptyQueue
    let t := sampleInterface.withReception 0 ⟨BoundedQueue.empty 2, 0, false⟩
    let mem := fun k => ucanSample.getD k 0
    (∀ b, b ≠ 0 → ucanPosts b s (ucanHandleMsgsBuffer (fun _ => sampleEnv) s mem 56) =
        ucanPosts b t (ucanHandleMsgsBuffer (fun _ => sampleEnv) t mem 56)) ∧
      (ucanPosts 1 s (ucanHandleMsgsBuffer (fun _ => sampleEnv) s mem 56)).map (·.msg.id) =
        [0x123] := by
  intro s t mem
  refine ⟨((channels_isolated_iff sampleInterface 0 emptyQueue _ (fun _ => sampleEnv)).1
    mem 56).mpr ?_, by decide +kernel⟩
  intro k once
  have both : reached ucanHandleMsg ucanStops s (ucanMsgs (fun _ => sampleEnv) mem 56 57 0 0) = 2 ∧
      reached ucanHandleMsg ucanStops t (ucanMsgs (fun _ => sampleEnv) mem 56 57 0 0) = 2 := by
    decide +kernel
  have alone : min 2 2 ≤ k ∧ k < max 2 2 := by
    have reached_once := once
    unfold ReachedOnce at reached_once
    rw [both.1, both.2] at reached_once
    exact reached_once
  omega

/-- Channel 1 is told nothing when channel 0 has an overrun. -/
theorem overrun_silences_other_channel :
    let s := sampleInterface.withReception 0 emptyQueue
    let t := sampleInterface.withReception 0 overrunQueue
    let mem := fun k => ucanSample.getD k 0
    let proMem := fun k : Int => usbproSample.getD k.toNat 0
    ¬(∀ b, b ≠ 0 → ucanPosts b s (ucanHandleMsgsBuffer (fun _ => sampleEnv) s mem 56) =
        ucanPosts b t (ucanHandleMsgsBuffer (fun _ => sampleEnv) t mem 56)) ∧
      ¬(∀ b, b ≠ 0 → usbproPosts b s (pcanUsbproMsgDecode (fun _ => sampleEnv) s proMem 28) =
        usbproPosts b t (pcanUsbproMsgDecode (fun _ => sampleEnv) t proMem 28)) := by
  decide +kernel

end PcanDriver

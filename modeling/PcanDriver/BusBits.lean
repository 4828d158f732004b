import PcanDriver.Lib.StepSystem
import PcanDriver.PciTx
import PcanDriver.Sja1000
import PcanDriver.TxSide
import PcanDriver.UsbWrite

/-!
The bus bits of `wCANStatus`. `pcan_set_bus_state` sets the bit of the state it enters,
and only entering the active or the unknown state takes bits away again; the status
ioctls (`pcan_fops_linux.c`) clear all of them.
-/
namespace PcanDriver
open StepSystem
variable {P : Type}

section Report

def busBits : U16 := canErrBusoff ||| canErrBusheavy ||| canErrBuslight

structure BusReport where
  state : PcanfdStatus
  bits : U16

def Pcandev.busReport (dev : Pcandev P) : BusReport := ⟨dev.busState, dev.wCANStatus &&& busBits⟩

theorem busReport_ext {dev dev' : Pcandev P} (state : dev'.busState = dev.busState)
    (bits : dev'.wCANStatus &&& busBits = dev.wCANStatus &&& busBits) :
    dev'.busReport = dev.busReport := by
  unfold Pcandev.busReport
  rw [state, bits]

theorem countError_report (dev : Pcandev P) {bits : U16} (other : bits &&& busBits = 0) :
    (countError dev bits).busReport = dev.busReport :=
  busReport_ext rfl (Masks.or_and_of_disjoint _ other)

theorem clearBits_report (dev : Pcandev P) {bits : U16} (other : bits &&& busBits = 0) :
    (clearBits dev bits).busReport = dev.busReport :=
  busReport_ext rfl (Masks.andNot_and_of_disjoint _ other)

theorem putRx_report (dev : Pcandev P) (rx : PcanfdRxmsg) :
    (putRx dev rx).1.busReport = dev.busReport := by
  unfold putRx
  simp only
  split
  · rfl
  · exact countError_report dev (by decide : canErrOverrun &&& busBits = 0)

theorem queueRx_report (host : Host) (dev : Pcandev P) (rx : PcanfdRxmsg) :
    (queueRx host dev rx).1.busReport = dev.busReport := by
  obtain ⟨_, gates, _⟩ := limitRx_effect dev (stampRx host dev rx)
  have limited : (limitRx dev (stampRx host dev rx)).1.busReport = dev.busReport :=
    busReport_ext gates.busState (by rw [gates.status])
  unfold queueRx
  split
  · rfl
  · split
    · rfl
    · simp only
      split
      · exact limited
      · exact (putRx_report _ _).trans limited

/-- Posting a message may set `CAN_ERR_OVERRUN` only. -/
theorem pcanChardevRx_report (host : Host) (dev : Pcandev P) (rx : PcanfdRxmsg) :
    (pcanChardevRx host dev rx).1.busReport = dev.busReport := by
  have same := admitRx_same dev rx
  have admitted : (admitRx dev rx).1.busReport = dev.busReport :=
    busReport_ext same.busState (by rw [same.status])
  unfold pcanChardevRx
  simp only
  split
  · exact (queueRx_report host _ rx).trans admitted
  · exact admitted

theorem pcanClearStatusBit_report (host : Host) (dev : Pcandev P) {bits : U16}
    (other : bits &&& busBits = 0) :
    (pcanClearStatusBit host dev bits).busReport = dev.busReport := by
  unfold pcanClearStatusBit
  split
  · rfl
  · exact (pcanChardevRx_report host _ _).trans (clearBits_report dev other)

theorem postErrorCtrl_report (host : Host) (dev : Pcandev P) (stack : PcanfdRxmsg)
    {errCtrlr : PcanfdStatus} :
    (postErrorCtrl host dev stack errCtrlr).busReport = dev.busReport := by
  unfold postErrorCtrl pcanHandleErrorCtrl
  rw [pcanChardevRx_report]
  apply countError_report
  split <;> decide

end Report

structure DeviceFunction (P : Type) where
  call : Pcandev P → Pcandev P × Int
  quiet : ∀ dev, (call dev).1.busReport = dev.busReport

section Interfaces

theorem pcanUsbWrite_report (family : UsbFamily) (submit : Int) (host : Host) (dev : UsbDev) :
    (pcanUsbWrite family submit host dev).1.busReport = dev.busReport := by
  unfold pcanUsbWrite
  split
  · rfl
  · simp only
    split
    · split
      · exact pcanClearStatusBit_report host _ (by decide)
      · rfl
    · rfl

theorem pciWriteLoop_report (host : Host) (stack : PcanfdRxmsg) (fuel : Nat) (dev : PciDev)
    (lk : Bool) : (pciWriteLoop host stack fuel dev lk).dev.busReport = dev.busReport := by
  induction fuel generalizing dev lk with
  | zero => rfl
  | succ fuel ih =>
    unfold pciWriteLoop
    split
    · exact ih (storeFrame dev _ _ _) lk
    · split
      · rfl
      · split
        · simp only
          split
          · exact postErrorCtrl_report host dev stack
          · rfl
        · exact ih (linkPage dev) true

theorem pcifdDeviceWrite_report (host : Host) (stack : PcanfdRxmsg) (dev : PciDev) :
    (pcifdDeviceWrite host stack dev).1.busReport = dev.busReport := by
  unfold pcifdDeviceWrite
  simp only
  split <;> exact pciWriteLoop_report host stack _ dev false

theorem sja1000Write_report (dev : Sja1000Dev) :
    (sja1000Write dev).1.busReport = dev.busReport := by
  unfold sja1000Write sja1000WriteNext
  split
  · rfl
  · split <;> rfl

def usbDeviceWrite (family : UsbFamily) (submit : Int) (host : Host) : DeviceFunction UsbPort where
  call := pcanUsbWrite family submit host
  quiet := pcanUsbWrite_report family submit host

def pciDeviceWrite (host : Host) (stack : PcanfdRxmsg) : DeviceFunction PciPort where
  call := pcifdDeviceWrite host stack
  quiet := pcifdDeviceWrite_report host stack

def sja1000DeviceWrite : DeviceFunction Sja1000Port where
  call := sja1000Write
  quiet := sja1000Write_report

end Interfaces

section Ioctls

/-- A channel with the last error of an ioctl or a write. -/
structure StatusChannel (P : Type) where
  dev : Pcandev P
  nLastError : Int

structure TpStatus where
  wErrorFlag : U16
  nLastError : Int
deriving Repr, DecidableEq

structure TpExtendedStatus where
  wErrorFlag : U16
  nLastError : Int
  nPendingReads : Nat
  nPendingWrites : Nat
deriving Repr, DecidableEq

/-- What `wErrorFlag` says besides `wCANStatus` is read off the FIFOs. -/
def fifoFlags (dev : Pcandev P) : U16 :=
  (if dev.readFifo.items.isEmpty then canErrQrcvempty else 0) |||
    (if dev.writeFifo.capacity ≤ dev.writeFifo.items.length then canErrQxmtfull else 0)

def pcanIoctlStatusCommon (c : StatusChannel P) : TpStatus :=
  ⟨c.dev.wCANStatus ||| fifoFlags c.dev, c.nLastError⟩

def pcanIoctlExtendedStatusCommon (c : StatusChannel P) : TpExtendedStatus :=
  ⟨c.dev.wCANStatus ||| fifoFlags c.dev, c.nLastError, c.dev.readFifo.items.length,
    c.dev.writeFifo.items.length⟩

def StatusChannel.cleared (c : StatusChannel P) : StatusChannel P :=
  ⟨{ c.dev with wCANStatus := 0 }, 0⟩

/-- `copied` says whether `copy_to_user` reaches the user's structure. -/
def pcanIoctlStatus (copied : Bool) (c : StatusChannel P) : StatusChannel P × TpStatus × Int :=
  let status := pcanIoctlStatusCommon c
  if copied then (c.cleared, status, 0) else (c, status, -efault)

def pcanIoctlExtendedStatus (copied : Bool) (c : StatusChannel P) :
    StatusChannel P × TpExtendedStatus × Int :=
  let status := pcanIoctlExtendedStatusCommon c
  if copied then (c.cleared, status, 0) else (c, status, -efault)

end Ioctls

section Levels

def higherBits : PcanfdStatus → U16
  | .errorBusoff => 0
  | .errorPassive => canErrBusoff
  | .errorWarning => canErrBusheavy ||| canErrBusoff
  | _ => busBits

structure Pcandev.BitsReportState (dev : Pcandev P) : Prop where
  busoff : dev.wCANStatus &&& canErrBusoff ≠ 0 → dev.busState = .errorBusoff
  heavy : dev.wCANStatus &&& canErrBusheavy ≠ 0 →
    dev.busState = .errorPassive ∨ dev.busState = .errorBusoff
  light : dev.wCANStatus &&& canErrBuslight ≠ 0 →
    dev.busState = .errorWarning ∨ dev.busState = .errorPassive ∨ dev.busState = .errorBusoff

def BusReport.Honest (r : BusReport) : Prop := r.bits &&& higherBits r.state = 0

theorem and_or_zero_iff (w a b : U16) : w &&& (a ||| b) = 0 ↔ w &&& a = 0 ∧ w &&& b = 0 := by
  rw [BitVec.and_or_distrib_left]
  exact BitVec.or_eq_zero_iff

theorem higherBits_inside (state : PcanfdStatus) :
    busBits &&& higherBits state = higherBits state := by
  cases state <;> decide

theorem higherBits_clear_iff (w : U16) (state : PcanfdStatus) : w &&& higherBits state = 0 ↔
    (w &&& canErrBusoff ≠ 0 → state = .errorBusoff) ∧
      (w &&& canErrBusheavy ≠ 0 → state = .errorPassive ∨ state = .errorBusoff) ∧
      (w &&& canErrBuslight ≠ 0 →
        state = .errorWarning ∨ state = .errorPassive ∨ state = .errorBusoff) := by
  cases state with
  | errorBusoff => exact iff_of_true BitVec.and_zero (by simp)
  | errorPassive => simp [higherBits]
  | errorWarning =>
    rw [higherBits, and_or_zero_iff]
    simp [and_comm]
  | unknown | errorActive | rxEmpty | rxOverflow | txEmpty | txOverflow | busError | busLoad =>
    rw [higherBits, busBits, and_or_zero_iff, and_or_zero_iff]
    · simp [and_assoc]
    all_goals exact nofun

theorem bitsReportState_iff (dev : Pcandev P) : dev.BitsReportState ↔ dev.busReport.Honest := by
  unfold BusReport.Honest Pcandev.busReport
  simp only
  rw [BitVec.and_assoc, higherBits_inside, higherBits_clear_iff]
  constructor
  · rintro ⟨busoff, heavy, light⟩
    exact ⟨busoff, heavy, light⟩
  · rintro ⟨busoff, heavy, light⟩
    exact ⟨busoff, heavy, light⟩

inductive BusEvent where
  | enter (state : PcanfdStatus)
  | read
  | other

def BusReport.after (r : BusReport) : BusEvent → BusReport
  | .enter state =>
    if state = r.state then r
    else
      match state with
      | .errorActive => ⟨state, 0⟩
      | .errorWarning => ⟨state, r.bits ||| canErrBuslight⟩
      | .errorPassive => ⟨state, r.bits ||| canErrBusheavy⟩
      | .errorBusoff => ⟨state, r.bits ||| canErrBusoff⟩
      | .unknown => ⟨state, 0⟩
      | _ => r
  | .read => { r with bits := 0 }
  | .other => r

/-- The warning or the passive state is entered without the bit of a worse one. -/
def BusReport.Cleared (r : BusReport) : BusEvent → Prop
  | .enter .errorWarning => r.bits &&& (canErrBusheavy ||| canErrBusoff) = 0
  | .enter .errorPassive => r.bits &&& canErrBusoff = 0
  | _ => True

theorem honest_after_iff {r : BusReport} (honest : r.Honest) (event : BusEvent) :
    (r.after event).Honest ↔ r.Cleared event := by
  cases event with
  | read => exact iff_of_true BitVec.zero_and trivial
  | other => exact iff_of_true honest trivial
  | enter state =>
    unfold BusReport.after
    simp only
    split
    next same =>
      refine iff_of_true honest ?_
      unfold BusReport.Honest at honest
      rw [← same] at honest
      cases state with
      | errorWarning | errorPassive => exact honest
      | unknown | errorActive | errorBusoff | rxEmpty | rxOverflow | txEmpty | txOverflow |
        busError | busLoad => trivial
    next changed =>
      cases state with
      | errorActive | unknown => exact iff_of_true BitVec.zero_and trivial
      | errorBusoff => exact iff_of_true BitVec.and_zero trivial
      | errorWarning =>
        unfold BusReport.Honest BusReport.Cleared higherBits
        simp only
        rw [Masks.or_and_of_disjoint _ (by decide)]
      | errorPassive =>
        unfold BusReport.Honest BusReport.Cleared higherBits
        simp only
        rw [Masks.or_and_of_disjoint _ (by decide)]
      | rxEmpty | rxOverflow | txEmpty | txOverflow | busError | busLoad =>
        exact iff_of_true honest trivial

end Levels

section Runs

theorem pcanSetBusState_report (dev : Pcandev P) (state : PcanfdStatus) :
    (pcanSetBusState dev state).busReport = dev.busReport.after (.enter state) := by
  unfold pcanSetBusState BusReport.after
  by_cases same : state = dev.busState
  · rw [if_pos same]
    exact (if_pos same).symm
  · rw [if_neg same]
    refine Eq.trans ?_ (if_neg same).symm
    cases state with
    | errorActive | unknown => exact congrArg (BusReport.mk _) (Masks.andNot_and_self _ busBits)
    | errorWarning | errorPassive | errorBusoff =>
      refine congrArg (BusReport.mk _) ?_
      exact BitVec.and_or_distrib_right
    | rxEmpty | rxOverflow | txEmpty | txOverflow | busError | busLoad => rfl

theorem pcanHandleBusoff_report (dev : Pcandev P) (rx : PcanfdRxmsg) :
    (pcanHandleBusoff dev rx).1.busReport = dev.busReport.after (.enter .errorBusoff) := by
  unfold pcanHandleBusoff
  split
  next off => exact (if_pos off.symm).symm
  next => exact pcanSetBusState_report dev .errorBusoff

theorem pcanHandleErrorActive_report (write : DeviceFunction P) (dev : Pcandev P)
    (rx : PcanfdRxmsg) : (pcanHandleErrorActive write.call dev rx).1.busReport =
      dev.busReport.after (.enter .errorActive) := by
  rw [← pcanSetBusState_report]
  rcases pcanHandleErrorActive_cases write.call dev rx with ⟨_, same⟩ | ⟨_, started⟩
  · rw [same]
  · rw [started]
    rcases pcanDevStartWriting_cases write.call (pcanSetBusState dev .errorActive) with
      ⟨_, same⟩ | ⟨_, _, written⟩
    · rw [same]
    · rw [written, write.quiet]

/-- An operation on a channel that has to do with the bus state or the status word. -/
inductive BusOp (P : Type) where
  | setBusState (busState : PcanfdStatus)
  | handleBusoff (rx : PcanfdRxmsg)
  | handleErrorActive (write : DeviceFunction P) (rx : PcanfdRxmsg)
  | handleErrorStatus (rx : PcanfdRxmsg) (errWarning errPassive : Bool)
  | devReset (release : DeviceFunction P)
  | status (copied : Bool)
  | extendedStatus (copied : Bool)

def BusOp.event : BusOp P → BusEvent
  | .setBusState busState => .enter busState
  | .handleBusoff _ => .enter .errorBusoff
  | .handleErrorActive _ _ => .enter .errorActive
  | .handleErrorStatus _ errWarning errPassive =>
    if errPassive then .enter .errorPassive
    else if errWarning then .enter .errorWarning
    else .other
  | .devReset _ => .enter .unknown
  | .status copied | .extendedStatus copied => if copied then .read else .other

/-- The output is the `wErrorFlag` that the user gets. -/
def busStep (c : StatusChannel P) : BusOp P → StatusChannel P × Option U16
  | .setBusState busState => ({ c with dev := pcanSetBusState c.dev busState }, none)
  | .handleBusoff rx => ({ c with dev := (pcanHandleBusoff c.dev rx).1 }, none)
  | .handleErrorActive write rx =>
    ({ c with dev := (pcanHandleErrorActive write.call c.dev rx).1 }, none)
  | .handleErrorStatus rx errWarning errPassive =>
    ({ c with dev := (pcanHandleErrorStatus c.dev rx errWarning errPassive).1 }, none)
  | .devReset release =>
    ({ c with dev := (pcanfdDevReset (fun dev => (release.call dev).1) c.dev).1 }, none)
  | .status copied =>
    let done := pcanIoctlStatus copied c
    (done.1, if copied then some done.2.1.wErrorFlag else none)
  | .extendedStatus copied =>
    let done := pcanIoctlExtendedStatus copied c
    (done.1, if copied then some done.2.1.wErrorFlag else none)

theorem pcanfdDevReset_report (release : DeviceFunction P) (dev : Pcandev P) :
    (pcanfdDevReset (fun dev => (release.call dev).1) dev).1.busReport =
      dev.busReport.after (.enter .unknown) := by
  have released : (if (pcanSetTxEngine dev .closed).nOpenPaths ≠ 0 then
      (release.call (pcanSetTxEngine dev .closed)).1
      else pcanSetTxEngine dev .closed).busReport = dev.busReport := by
    split
    · exact release.quiet _
    · rfl
  have emptied : ∀ d : Pcandev P, ({ d with
      writeFifo := d.writeFifo.clear
      readFifo := d.readFifo.clear
      wCANStatus := d.wCANStatus &&& ~~~(canErrOverrun ||| canErrXmtfull) } :
        Pcandev P).busReport = d.busReport :=
    fun d => busReport_ext rfl (Masks.andNot_and_of_disjoint _ (by decide))
  exact (emptied _).trans ((pcanSetBusState_report _ .unknown).trans
    (congrArg (·.after (.enter .unknown)) released))

theorem busStep_report (c : StatusChannel P) (op : BusOp P) :
    (busStep c op).1.dev.busReport = c.dev.busReport.after op.event := by
  cases op with
  | setBusState busState => exact pcanSetBusState_report c.dev busState
  | handleBusoff rx => exact pcanHandleBusoff_report c.dev rx
  | handleErrorActive write rx => exact pcanHandleErrorActive_report write c.dev rx
  | handleErrorStatus rx errWarning errPassive =>
    cases errPassive with
    | true => exact pcanSetBusState_report _ .errorPassive
    | false =>
      cases errWarning with
      | true => exact pcanSetBusState_report _ .errorWarning
      | false =>
        show (pcanHandleErrorStatus c.dev rx false false).1.busReport = c.dev.busReport
        unfold pcanHandleErrorStatus
        simp only [Bool.false_eq_true, if_false]
        split <;> rfl
  | devReset release => exact pcanfdDevReset_report release c.dev
  | status copied | extendedStatus copied =>
    cases copied with
    | true => exact congrArg (BusReport.mk _) BitVec.zero_and
    | false => rfl

/-- The bits say no more than the bus state along a run exactly as long as the warning
    state is not entered with the bit of the passive or the bus-off state standing, nor the
    passive state with that of the bus-off state. -/
theorem status_bits_report_iff {c : StatusChannel P} (start : c.dev.BitsReportState)
    (ops : List (BusOp P)) :
    (∀ t ∈ states busStep c ops, t.dev.BitsReportState) ↔
      Admitted (fun c op => c.dev.busReport.Cleared op.event) busStep c ops := by
  have each : ∀ (c : StatusChannel P) (op : BusOp P), c.dev.BitsReportState → True →
      ((busStep c op).1.dev.BitsReportState ↔ c.dev.busReport.Cleared op.event) := by
    intro c op honest _
    rw [bitsReportState_iff, busStep_report]
    exact honest_after_iff ((bitsReportState_iff c.dev).mp honest) op.event
  exact states_iff_admitted each start (admitted_true _ _ _)

end Runs

section Samples

def idleChannel : StatusChannel UsbPort := ⟨openedChannel ⟨64, 64, 0, 0, false, []⟩ 4 4 0, 0⟩

/-- A read between the two states takes the bit of the passive one away. -/
theorem status_bits_report_after_read :
    idleChannel.dev.BitsReportState ∧
      ∀ t ∈ states busStep idleChannel [.setBusState .errorPassive, .status true,
        .setBusState .errorWarning], t.dev.BitsReportState := by
  have start : idleChannel.dev.BitsReportState :=
    (bitsReportState_iff idleChannel.dev).mpr (by decide : _ = _)
  exact ⟨start, (status_bits_report_iff start _).mpr ⟨rfl, trivial, rfl, trivial⟩⟩

/-- A bus that recovers from passive to warning, and one that leaves bus-off for passive,
    are still reported as they were. -/
theorem recovered_bus_reports_worse :
    let warning := (run busStep idleChannel
      [.handleErrorStatus .zero false true, .handleErrorStatus .zero true false]).1.dev
    let passive := (run busStep idleChannel
      [.handleBusoff .zero, .handleErrorStatus .zero false true]).1.dev
    warning.busState = .errorWarning ∧ warning.wCANStatus &&& canErrBusheavy ≠ 0 ∧
      passive.busState = .errorPassive ∧ passive.wCANStatus &&& canErrBusoff ≠ 0 := by
  decide

end Samples

end PcanDriver

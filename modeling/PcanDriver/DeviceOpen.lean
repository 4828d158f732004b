import PcanDriver.OpenInit
import PcanDriver.OpenPaths
import PcanDriver.Acceptance

/-!
What `pcanfd_dev_open` and `pcanfd_ioctl_set_init` (`pcanfd_core.c`) do to the channel
around the checks of the settings. The channel is reset before the settings are looked
at, and nothing takes the reset back when they are refused.
-/
namespace PcanDriver
variable {P : Type}

def pcanfdAllowedMsgDefault : U32 :=
  pcanfdAllowedMsgCan ||| pcanfdAllowedMsgRtr ||| pcanfdAllowedMsgExt ||| pcanfdAllowedMsgStatus

def pcanfdDevOpenInit (dev : Pcandev P) : Pcandev P :=
  { pcanfdDevOpenInitAcc dev with
    txIframeDelayUs := 0
    allowedMsgs := pcanfdAllowedMsgDefault
    rxFramesCounter := 0
    txFramesCounter := 0
    dwErrorCounter := 0 }

structure OpenFunctions (P : Type) where
  deviceOpen : U16 → U8 → U8 → DevCallback P
  deviceOpenFd : PcanfdInit → DevCallback P

/-- The clock before and after the device's open function, and what `init_settings` holds
    meanwhile. -/
structure OpenMoments where
  before : Timeval
  after : Timeval
  copied : PcanfdInit

/-- `__pcanfd_dev_open` around the call of the device's open function. -/
def callDeviceOpen (moments : OpenMoments) (settings : PcanfdInit) (callback : DevCallback P)
    (dev : Pcandev P) : Pcandev P × Int :=
  let prepared := pcanfdDevOpenInit
    { dev with initTimestamp := moments.before, initSettings := moments.copied }
  let called := prepared.called callback
  if called.2 = 0 then
    let dev : Pcandev P :=
      { called.1 with
        flags := called.1.flags ||| pcanDevOpened
        initTimestamp := moments.after
        initSettings := settings }
    (if dev.lockedTxEngineState = .closed then pcanSetTxEngine dev .stopped else dev, 0)
  else ({ called.1 with initSettings := dev.initSettings }, called.2)

/-- What follows the checks of `pcanfd_dev_open`. -/
def performOpen (functions : OpenFunctions P) (moments : OpenMoments) (dev : Pcandev P) :
    OpenResult → Pcandev P × Int
  | .refused err => (dev, err)
  | .deviceOpen settings wBTR0BTR1 ucCANMsgType ucListenOnly =>
    callDeviceOpen moments settings (functions.deviceOpen wBTR0BTR1 ucCANMsgType ucListenOnly) dev
  | .deviceOpenFd settings => callDeviceOpen moments settings (functions.deviceOpenFd settings) dev

/-- What the checks read of the channel itself. -/
def Pcandev.timing (dev : Pcandev P) (hw : TimingDevice) : TimingDevice :=
  { hw with flags := dev.flags, sysclockHz := dev.sysclockHz }

/-- `pcanfd_ioctl_set_init`; no result where a division by zero ends the call. -/
def setInitOn (deviceRelease : Pcandev P → Pcandev P) (functions : OpenFunctions P)
    (moments : OpenMoments) (hw : TimingDevice) (dev : Pcandev P) (pfdi : PcanfdInit) :
    Option (Pcandev P × Int) :=
  let reset := pcanfdDevReset deviceRelease dev
  if reset.2 ≠ 0 then some reset
  else (pcanfdIoctlSetInit (reset.1.timing hw) pfdi).map (performOpen functions moments reset.1)

def RefusedInit (deviceRelease : Pcandev P → Pcandev P) (hw : TimingDevice) (dev : Pcandev P)
    (pfdi : PcanfdInit) (err : Int) : Prop :=
  pcanfdIoctlSetInit ((pcanfdDevReset deviceRelease dev).1.timing hw) pfdi = some (.refused err)

structure HarmlessInit (dev dev' : Pcandev P) : Prop where
  initSettings : dev'.initSettings = dev.initSettings
  allowedMsgs : dev'.allowedMsgs = dev.allowedMsgs
  acc11b : dev'.acc11b = dev.acc11b
  acc29b : dev'.acc29b = dev.acc29b
  readFifo : dev'.readFifo = dev.readFifo
  writeFifo : dev'.writeFifo = dev.writeFifo
  engine : dev'.lockedTxEngineState = dev.lockedTxEngineState
  opened : dev'.flags &&& pcanDevOpened = dev.flags &&& pcanDevOpened
  busState : dev'.busState = dev.busState

theorem pcanfdDevReset_unopened (deviceRelease : Pcandev P → Pcandev P) (dev : Pcandev P) :
    (pcanfdDevReset deviceRelease dev).1.flags &&& pcanDevOpened = 0 := by
  simp only [pcanfdDevReset, pcanSetBusState_flags]
  exact Masks.andNot_and_self _ _

theorem pcanSetBusState_unknown (dev : Pcandev P) :
    (pcanSetBusState dev .unknown).busState = .unknown := by
  unfold pcanSetBusState
  split
  · exact Eq.symm ‹_›
  · rfl

section Refusals
variable {dev : TimingDevice} {pfdi : PcanfdInit} {err : Int}

theorem pcanfdDevOpenChecked_performs (dev : TimingDevice) (pfdi : PcanfdInit) (err : Int) :
    pcanfdDevOpenChecked dev pfdi ≠ some (.refused err) := by
  intro refused
  simp only [pcanfdDevOpenChecked, Option.pure_def, Option.bind_eq_bind] at refused
  split at refused
  · cases word : legacyWord dev pfdi.nominal with
    | none => simp [word] at refused
    | some _ => simp [word] at refused
  · simp at refused

theorem unlessRefused_err {holds : Int → Prop} {step : Option (Int × PcanfdInit)}
    {next : PcanfdInit → Option OpenResult}
    (first : ∀ done, step = some done → done.1 ≠ 0 → holds done.1)
    (later : ∀ pfdi, next pfdi = some (.refused err) → holds err)
    (refused : unlessRefused step next = some (.refused err)) : holds err := by
  cases step with
  | none => simp [unlessRefused] at refused
  | some done =>
    by_cases failed : done.1 = 0
    · simp only [unlessRefused, Option.bind_eq_bind, Option.bind_some, failed, ne_eq,
        not_true_eq_false, if_false] at refused
      exact later _ refused
    · simp only [unlessRefused, Option.bind_eq_bind, Option.bind_some, ne_eq, failed,
        not_false_eq_true, if_true, Option.pure_def, Option.some.injEq, OpenResult.refused.injEq]
        at refused
      exact refused ▸ first done rfl failed

theorem pcanfdDevOpen_err {holds : Int → Prop} (arguments : holds (-einval))
    (clock : ∀ pfdi done, fixClock dev pfdi = some done → done.1 ≠ 0 → holds done.1)
    (nominal : ∀ pfdi done, setupNominal dev pfdi = some done → done.1 ≠ 0 → holds done.1)
    (data : ∀ pfdi done, setupData dev pfdi = some done → done.1 ≠ 0 → holds done.1)
    (refused : pcanfdDevOpen dev pfdi = some (.refused err)) : holds err := by
  have never := pcanfdDevOpenChecked_performs dev
  unfold pcanfdDevOpen at refused
  split at refused
  · exact absurd refused (never pfdi err)
  split at refused
  · cases refused
    exact arguments
  · apply unlessRefused_err (clock _) _ refused
    intro pfdi refused
    apply unlessRefused_err (nominal _) _ refused
    intro pfdi refused
    apply unlessRefused_err (data _) _ refused
    intro pfdi refused
    exact absurd refused (never _ err)

theorem pcanfdDevOpen_refused (refused : pcanfdDevOpen dev pfdi = some (.refused err)) :
    err ≠ 0 :=
  @pcanfdDevOpen_err dev pfdi err (· ≠ 0) (by decide) (fun _ _ _ failed => failed)
    (fun _ _ _ failed => failed) (fun _ _ _ failed => failed) refused

end Refusals

structure LeftReset (dev : Pcandev P) : Prop where
  unopened : dev.flags &&& pcanDevOpened = 0
  readFifo : dev.readFifo.items = []
  writeFifo : dev.writeFifo.items = []
  busState : dev.busState = .unknown

theorem pcanfdDevReset_left (deviceRelease : Pcandev P → Pcandev P) (dev : Pcandev P) :
    LeftReset (pcanfdDevReset deviceRelease dev).1 where
  unopened := pcanfdDevReset_unopened deviceRelease dev
  readFifo := rfl
  writeFifo := rfl
  busState := pcanSetBusState_unknown _

theorem setInitOn_refused {deviceRelease : Pcandev P → Pcandev P} {hw : TimingDevice}
    {dev : Pcandev P} {pfdi : PcanfdInit} {err : Int} (functions : OpenFunctions P)
    (moments : OpenMoments) (refused : RefusedInit deviceRelease hw dev pfdi err) :
    setInitOn deviceRelease functions moments hw dev pfdi =
      some ((pcanfdDevReset deviceRelease dev).1, err) := by
  have succeeded : (pcanfdDevReset deviceRelease dev).2 = 0 := rfl
  rw [RefusedInit] at refused
  simp only [setInitOn, succeeded, ne_eq, not_true_eq_false, if_false, refused]
  rfl

/-- No `device_release` function of the driver writes the settings of the channel. -/
def releaseKeepingSettings (deviceRelease : Pcandev P → Pcandev P) (dev : Pcandev P) :
    Pcandev P :=
  { deviceRelease dev with
    initSettings := dev.initSettings
    allowedMsgs := dev.allowedMsgs
    acc11b := dev.acc11b
    acc29b := dev.acc29b }

structure KeptSettings (dev dev' : Pcandev P) : Prop where
  initSettings : dev'.initSettings = dev.initSettings
  allowedMsgs : dev'.allowedMsgs = dev.allowedMsgs
  acc11b : dev'.acc11b = dev.acc11b
  acc29b : dev'.acc29b = dev.acc29b

theorem KeptSettings.trans {dev dev' dev'' : Pcandev P} (first : KeptSettings dev dev')
    (second : KeptSettings dev' dev'') : KeptSettings dev dev'' where
  initSettings := second.initSettings.trans first.initSettings
  allowedMsgs := second.allowedMsgs.trans first.allowedMsgs
  acc11b := second.acc11b.trans first.acc11b
  acc29b := second.acc29b.trans first.acc29b

theorem pcanSetBusState_settings (dev : Pcandev P) (state : PcanfdStatus) :
    KeptSettings dev (pcanSetBusState dev state) := by
  unfold pcanSetBusState
  split
  · constructor <;> rfl
  · cases state <;> constructor <;> rfl

theorem pcanfdDevReset_settings (deviceRelease : Pcandev P → Pcandev P) (dev : Pcandev P) :
    KeptSettings dev (pcanfdDevReset (releaseKeepingSettings deviceRelease) dev).1 := by
  let released : Pcandev P :=
    if (pcanSetTxEngine dev .closed).nOpenPaths ≠ 0 then
      releaseKeepingSettings deviceRelease (pcanSetTxEngine dev .closed)
    else pcanSetTxEngine dev .closed
  have kept : KeptSettings dev { released with flags := released.flags &&& ~~~pcanDevOpened } := by
    simp only [released]
    split <;> constructor <;> rfl
  have states := kept.trans (pcanSetBusState_settings _ .unknown)
  exact ⟨states.initSettings, states.allowedMsgs, states.acc11b, states.acc29b⟩

/-- Refused settings end the channel's session: the settings of before stay, but the
    channel is left as the reset has made it. -/
theorem refused_init_resets (deviceRelease : Pcandev P → Pcandev P)
    (functions : OpenFunctions P) (moments : OpenMoments) (hw : TimingDevice) (dev : Pcandev P)
    (pfdi : PcanfdInit) (err : Int)
    (refused : RefusedInit (releaseKeepingSettings deviceRelease) hw dev pfdi err) :
    ∃ dev', setInitOn (releaseKeepingSettings deviceRelease) functions moments hw dev pfdi =
        some (dev', err) ∧ err ≠ 0 ∧ KeptSettings dev dev' ∧ LeftReset dev' := by
  refine ⟨(pcanfdDevReset (releaseKeepingSettings deviceRelease) dev).1,
    setInitOn_refused functions moments refused, ?_, ?_, ?_⟩
  · exact pcanfdDevOpen_refused refused
  · exact pcanfdDevReset_settings deviceRelease dev
  · exact pcanfdDevReset_left _ dev

/-- An opened channel of a classic controller, with a frame that waits to be sent. -/
def classicChannel : Pcandev Unit :=
  { openedChannel () 4 4 pcanDevOpened with
    busState := .errorActive
    lockedTxEngineState := .started
    writeFifo := ⟨4, [⟨PcanfdMsg.zero, ⟨0, 0⟩⟩], by decide⟩ }

def classicTiming : TimingDevice := Controller.sja1000.device 0 default

def fdSettings : PcanfdInit := { (default : PcanfdInit) with flags := pcanfdInitFd }

theorem fdSettings_refused :
    RefusedInit (releaseKeepingSettings fun dev : Pcandev Unit => dev) classicTiming classicChannel
      fdSettings (-einval) := by
  unfold RefusedInit
  decide +kernel

def idleFunctions : OpenFunctions Unit where
  deviceOpen _ _ _ dev := (dev, 0)
  deviceOpenFd _ dev := (dev, 0)

def epoch : OpenMoments := ⟨⟨0, 0⟩, ⟨0, 0⟩, default⟩

theorem refused_fd_resets_channel :
    ∃ dev', setInitOn (releaseKeepingSettings fun dev => dev) idleFunctions epoch classicTiming
        classicChannel fdSettings = some (dev', -einval) ∧ -einval ≠ 0 ∧
      KeptSettings classicChannel dev' ∧ LeftReset dev' :=
  refused_init_resets (fun dev => dev) idleFunctions epoch classicTiming classicChannel
    fdSettings (-einval) fdSettings_refused

/-- CAN FD is refused on a classic controller: the frame is lost, the transmit engine
    closed and the bus state forgotten. -/
theorem refused_fd_closes_channel :
    ∃ dev', setInitOn (releaseKeepingSettings fun dev => dev) idleFunctions epoch classicTiming
        classicChannel fdSettings = some (dev', -einval) ∧
      (classicChannel.writeFifo.items.length, classicChannel.lockedTxEngineState,
        classicChannel.busState) = (1, .started, .errorActive) ∧
      (dev'.writeFifo.items.length, dev'.lockedTxEngineState, dev'.busState) =
        (0, .closed, .unknown) ∧ ¬HarmlessInit classicChannel dev' := by
  refine ⟨_, setInitOn_refused idleFunctions epoch fdSettings_refused, by decide +kernel,
    by decide +kernel, ?_⟩
  intro harmless
  exact absurd harmless.engine (by decide +kernel)

end PcanDriver

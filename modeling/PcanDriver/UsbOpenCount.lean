import PcanDriver.Lib.SharedCount
import PcanDriver.DeviceOpen
import PcanDriver.PathAccounting

/-!
The channels of one USB interface and the counter of the opened ones that they share:
`pcan_usb_device_open_fd`, `pcan_usb_device_open` and `pcan_usb_stop` (`pcan_usb_core.c`),
`pcan_usbfd_close` (`pcanfd_usb.c`), behind the open handles of every channel.
-/
namespace PcanDriver
open SharedCount StepSystem

def pcanDevCleaned : U32 := 0x00000010

/-- What the ports of the channels share through `usb_if`; `lastActions` says how often
    the sync time of all channels has been reset. -/
structure UsbShared where
  openedCount : Int
  lastActions : Nat
deriving Repr, DecidableEq

/-- A command to the device: what it answers and what happens to the channel meanwhile. -/
structure UsbCommand where
  err : Int
  effect : Pcandev UsbShared → Pcandev UsbShared

/-- The flags that only opening, closing and cleaning write. -/
def pcanDevState : U32 := pcanDevOpened ||| pcanDevCleaned

def Pcandev.commanded (dev : Pcandev UsbShared) (command : UsbCommand) : Pcandev UsbShared × Int :=
  ({ command.effect dev with
      flags := (command.effect dev).flags &&& ~~~pcanDevState ||| dev.flags &&& pcanDevState
      port := dev.port }, command.err)

structure UsbStop where
  close : UsbCommand
  killUrb : UsbCommand
  setBusOff : UsbCommand

/-- What one open of the device finds; `verdict` is what the checks of `pcanfd_dev_open`
    answer. -/
structure UsbOpening where
  moments : OpenMoments
  verdict : OpenResult
  setBusOff : UsbCommand
  ctrlOpen : U16 → U8 → U8 → UsbCommand
  ctrlOpenFd : PcanfdInit → UsbCommand
  setBusOn : UsbCommand

/-- The last device opened clears what regards the whole interface. -/
def lastChannel (shared : UsbShared) : Bool := shared.openedCount ≤ 1

def UsbShared.closeLast (shared : UsbShared) : UsbShared :=
  if lastChannel shared then { shared with lastActions := shared.lastActions + 1 } else shared

def UsbShared.countDown (shared : UsbShared) : UsbShared :=
  if 0 < shared.openedCount then { shared with openedCount := shared.openedCount - 1 } else shared

def UsbShared.countUp (shared : UsbShared) : UsbShared :=
  { shared with openedCount := shared.openedCount + 1 }

def pcanUsbfdClose (close : UsbCommand) (dev : Pcandev UsbShared) : Pcandev UsbShared × Int :=
  { dev with port := dev.port.closeLast }.commanded close

/-- Only the interfaces of CAN FD adapters set `device_ctrl_close`. -/
def deviceCtrlClose (hasClose : Bool) (close : UsbCommand) (dev : Pcandev UsbShared) :
    Pcandev UsbShared :=
  if hasClose then (pcanUsbfdClose close dev).1 else dev

def pcanUsbStop (hasClose : Bool) (env : UsbStop) (dev : Pcandev UsbShared) :
    Pcandev UsbShared × Int :=
  if dev.flags &&& pcanDevCleaned ≠ 0 then (dev, 0)
  else if dev.flags &&& pcanDevOpened = 0 then (dev, 0)
  else
    let dev := deviceCtrlClose hasClose env.close dev
    ({ dev with port := dev.port.countDown }.commanded env.killUrb).1.commanded env.setBusOff

def usbDeviceOpen (env : UsbOpening) (ctrlOpen : UsbCommand) (dev : Pcandev UsbShared) :
    Pcandev UsbShared × Int :=
  let off := dev.commanded env.setBusOff
  if off.2 ≠ 0 then off
  else
    let opened := off.1.commanded ctrlOpen
    if opened.2 ≠ 0 then opened
    else
      { opened.1 with port := opened.1.port.countUp }.commanded env.setBusOn

def pcanUsbDeviceOpen (env : UsbOpening) (btr0btr1 : U16) (bExtended bListenOnly : U8) :
    DevCallback UsbShared :=
  usbDeviceOpen env (env.ctrlOpen btr0btr1 bExtended bListenOnly)

def pcanUsbDeviceOpenFd (env : UsbOpening) (pfdi : PcanfdInit) : DevCallback UsbShared :=
  usbDeviceOpen env (env.ctrlOpenFd pfdi)

def UsbOpening.functions (env : UsbOpening) : OpenFunctions UsbShared where
  deviceOpen := pcanUsbDeviceOpen env
  deviceOpenFd := pcanUsbDeviceOpenFd env

/-- `pcanfd_dev_open` on a channel of a USB interface. -/
def UsbOpening.device (env : UsbOpening) (dev : Pcandev UsbShared) : Pcandev UsbShared × Int :=
  performOpen env.functions env.moments dev env.verdict

/-- `pcanfd_ioctl_set_init` on such a channel. -/
def usbSetInit (hasClose : Bool) (stop : UsbStop) (opening : UsbOpening) (dev : Pcandev UsbShared) :
    Pcandev UsbShared × Int :=
  let reset := pcanfdDevReset (fun dev => (dev.called (pcanUsbStop hasClose stop)).1) dev
  if reset.2 ≠ 0 then reset else reset.1.called opening.device

def usbPathInterface : PathInterface where
  hasOpen := false
  hasRelease := false
  hasReqIrq := false
  hasFreeIrq := true
  hasDeviceRelease := true
  dongle := false
  releases := both_unset
  freesIrq unset := absurd unset (by decide)
  opensDongle := both_unset

/-- A callback that has nothing to do: `pcan_usb_free_irq` on a plugged device. -/
def idleCallback {P : Type} : DevCallback P := fun dev => (dev, 0)

/-- The buffers that an open asks for and whether there is memory. -/
structure FifoMemory where
  txqsize : Nat
  rxqsize : Nat
  wMsg : Bool
  rMsg : Bool

def usbOpenEnv (hasClose : Bool) (memory : FifoMemory) (stop : UsbStop) (opening : UsbOpening) :
    OpenEnv UsbShared where
  txqsize := memory.txqsize
  rxqsize := memory.rxqsize
  wMsg := memory.wMsg
  rMsg := memory.rMsg
  interface := idleCallback
  probe := idleCallback
  release := idleCallback
  reqIrq := idleCallback
  deviceRelease := pcanUsbStop hasClose stop
  device := opening.device
  freeIrq := idleCallback

def usbReleaseEnv (hasClose : Bool) (wait : UsbCommand) (stop : UsbStop) : ReleaseEnv UsbShared where
  wait dev := dev.commanded wait
  deviceRelease := pcanUsbStop hasClose stop
  release := idleCallback
  freeIrq := idleCallback

/-- The channels with the open handles of each, what they share, and the counter of
    their adapter. -/
structure UsbChannels (n : Nat) where
  shared : UsbShared
  adapterCount : Int
  channels : Fin n → PathState UsbShared

inductive UsbAction where
  | openPath (memory : FifoMemory) (stop : UsbStop) (opening : UsbOpening)
  | setInit (stop : UsbStop) (opening : UsbOpening)
  | releasePath (wait : UsbCommand) (stop : UsbStop)

structure UsbInput (n : Nat) where
  channel : Fin n
  action : UsbAction

def UsbChannels.view {n : Nat} (s : UsbChannels n) (i : Fin n) : PathState UsbShared :=
  let c := s.channels i
  { c with
    d := { c.d with
      dev := { c.d.dev with port := s.shared }
      openedCount := s.adapterCount } }

def UsbChannels.store {n : Nat} (s : UsbChannels n) (i : Fin n) (c : PathState UsbShared) :
    UsbChannels n where
  shared := c.d.dev.port
  adapterCount := c.d.openedCount
  channels := Function.update s.channels i c

def usbChannelStep (hasClose : Bool) (c : PathState UsbShared) : UsbAction → PathState UsbShared × Int
  | .openPath memory stop opening =>
    pathStep usbPathInterface c (.openPath (usbOpenEnv hasClose memory stop opening))
  | .setInit stop opening =>
    let result := usbSetInit hasClose stop opening c.d.dev
    ({ c with d := c.d.setDev result.1 }, result.2)
  | .releasePath wait stop =>
    pathStep usbPathInterface c (.releasePath (usbReleaseEnv hasClose wait stop))

def usbStep {n : Nat} (hasClose : Bool) (s : UsbChannels n) (input : UsbInput n) :
    UsbChannels n × Int :=
  let result := usbChannelStep hasClose (s.view input.channel) input.action
  (s.store input.channel result.1, result.2)

section Flags

def Pcandev.isOpened (dev : Pcandev UsbShared) : Bool := dev.flags &&& pcanDevOpened ≠ 0

def Pcandev.isCleaned (dev : Pcandev UsbShared) : Bool := dev.flags &&& pcanDevCleaned ≠ 0

structure SameOpening (dev dev' : Pcandev UsbShared) : Prop where
  port : dev'.port = dev.port
  opened : dev'.isOpened = dev.isOpened
  cleaned : dev'.isCleaned = dev.isCleaned

theorem SameOpening.refl (dev : Pcandev UsbShared) : SameOpening dev dev := ⟨rfl, rfl, rfl⟩

theorem SameOpening.trans {dev dev' dev'' : Pcandev UsbShared} (first : SameOpening dev dev')
    (second : SameOpening dev' dev'') : SameOpening dev dev'' :=
  ⟨second.port.trans first.port, second.opened.trans first.opened,
    second.cleaned.trans first.cleaned⟩

theorem sameOpening_of_flags {dev dev' : Pcandev UsbShared} (port : dev'.port = dev.port)
    (flags : dev'.flags = dev.flags) : SameOpening dev dev' := by
  refine ⟨port, ?_, ?_⟩
  · rw [Pcandev.isOpened, Pcandev.isOpened, flags]
  · rw [Pcandev.isCleaned, Pcandev.isCleaned, flags]

theorem commanded_err (dev : Pcandev UsbShared) (command : UsbCommand) :
    (dev.commanded command).2 = command.err := rfl

theorem commanded_same (dev : Pcandev UsbShared) (command : UsbCommand) :
    SameOpening dev (dev.commanded command).1 := by
  refine ⟨rfl, ?_, ?_⟩
  · simp only [Pcandev.isOpened, Pcandev.commanded,
      Masks.merged_and _ _ (by decide : pcanDevOpened &&& pcanDevState = pcanDevOpened)]
  · simp only [Pcandev.isCleaned, Pcandev.commanded,
      Masks.merged_and _ _ (by decide : pcanDevCleaned &&& pcanDevState = pcanDevCleaned)]

theorem called_same {dev : Pcandev UsbShared} {callback : DevCallback UsbShared}
    (same : SameOpening dev (callback dev).1) : SameOpening dev (dev.called callback).1 :=
  ⟨same.port, same.opened, same.cleaned⟩

theorem pcanSetBusState_same (dev : Pcandev UsbShared) (state : PcanfdStatus) :
    SameOpening dev (pcanSetBusState dev state) := by
  apply sameOpening_of_flags _ (pcanSetBusState_flags dev state)
  unfold pcanSetBusState
  split
  · rfl
  · cases state <;> rfl

end Flags

section Effects
variable {dev dev' : Pcandev UsbShared}

/-- A step of one channel moves the counter with the flag, but for what a failed open
    leaks; `closed` says whether `pcan_usbfd_close` is called. -/
structure UsbEffect (leaked closed : Bool) (dev dev' : Pcandev UsbShared) : Prop where
  cleaned : dev'.isCleaned = dev.isCleaned
  count : dev'.port.openedCount - dev'.isOpened.toNat =
    dev.port.openedCount - dev.isOpened.toNat + leaked.toNat
  actions : dev'.port.lastActions = dev.port.lastActions + (closed && lastChannel dev.port).toNat

theorem SameOpening.effect (same : SameOpening dev dev') : UsbEffect false false dev dev' := by
  refine ⟨same.cleaned, ?_, ?_⟩
  · rw [same.port, same.opened]
    simp
  · rw [same.port]
    simp

def Counted (dev : Pcandev UsbShared) : Prop := dev.isOpened = true → 0 < dev.port.openedCount

theorem pcanUsbStop_unopened (hasClose : Bool) (stop : UsbStop) (unopened : dev.isOpened = false) :
    (pcanUsbStop hasClose stop dev).1 = dev := by
  have clear : dev.flags &&& pcanDevOpened = 0 := by simpa [Pcandev.isOpened] using unopened
  unfold pcanUsbStop
  rw [if_pos clear]
  split <;> rfl

def stoppedPort (hasClose : Bool) (shared : UsbShared) : UsbShared :=
  (if hasClose then shared.closeLast else shared).countDown

theorem stoppedPort_count (hasClose : Bool) {shared : UsbShared} (counted : 0 < shared.openedCount) :
    (stoppedPort hasClose shared).openedCount = shared.openedCount - 1 := by
  have kept : (if hasClose then shared.closeLast else shared).openedCount = shared.openedCount := by
    unfold UsbShared.closeLast
    split
    · split <;> rfl
    · rfl
  rw [stoppedPort, UsbShared.countDown, if_pos (kept.symm ▸ counted), kept]

theorem stoppedPort_actions (hasClose : Bool) (shared : UsbShared) :
    (stoppedPort hasClose shared).lastActions =
      shared.lastActions + (hasClose && lastChannel shared).toNat := by
  have kept : ∀ shared : UsbShared, shared.countDown.lastActions = shared.lastActions := by
    intro shared
    unfold UsbShared.countDown
    split <;> rfl
  rw [stoppedPort, kept]
  cases hasClose with
  | false => rfl
  | true =>
    simp only [UsbShared.closeLast, Bool.true_and, if_true]
    cases lastChannel shared <;> rfl

theorem deviceCtrlClose_spec (hasClose : Bool) (close : UsbCommand) (dev : Pcandev UsbShared) :
    (deviceCtrlClose hasClose close dev).port =
        (if hasClose then dev.port.closeLast else dev.port) ∧
      (deviceCtrlClose hasClose close dev).isCleaned = dev.isCleaned := by
  unfold deviceCtrlClose
  cases hasClose with
  | false => exact ⟨rfl, rfl⟩
  | true =>
    have same := commanded_same { dev with port := dev.port.closeLast } close
    exact ⟨same.port, same.cleaned⟩

theorem pcanUsbStop_opened (hasClose : Bool) (stop : UsbStop) (opened : dev.isOpened = true)
    (uncleaned : dev.isCleaned = false) :
    (pcanUsbStop hasClose stop dev).1.port = stoppedPort hasClose dev.port ∧
      (pcanUsbStop hasClose stop dev).1.isCleaned = false := by
  have set : dev.flags &&& pcanDevOpened ≠ 0 := by simpa [Pcandev.isOpened] using opened
  have clear : dev.flags &&& pcanDevCleaned = 0 := by simpa [Pcandev.isCleaned] using uncleaned
  unfold pcanUsbStop
  rw [if_neg (not_not.mpr clear), if_neg set]
  obtain ⟨port, cleaned⟩ := deviceCtrlClose_spec hasClose stop.close dev
  let closed := deviceCtrlClose hasClose stop.close dev
  have same := (commanded_same { closed with port := closed.port.countDown } stop.killUrb).trans
    (commanded_same _ stop.setBusOff)
  refine ⟨?_, same.cleaned.trans (cleaned.trans uncleaned)⟩
  rw [stoppedPort, ← port]
  exact same.port

theorem stopped_effect {hasClose : Bool} (stop : UsbStop) {ready closed : Pcandev UsbShared}
    (same : SameOpening dev ready) (uncleaned : dev.isCleaned = false) (counted : Counted dev)
    (port : closed.port = (pcanUsbStop hasClose stop ready).1.port)
    (opened : closed.isOpened = false)
    (cleaned : closed.isCleaned = (pcanUsbStop hasClose stop ready).1.isCleaned) :
    UsbEffect false (hasClose && dev.isOpened) dev closed := by
  have readyClean : ready.isCleaned = false := same.cleaned.trans uncleaned
  cases flag : dev.isOpened with
  | false =>
    have unopened : ready.isOpened = false := same.opened.trans flag
    have unchanged : closed.port = dev.port := by
      rw [port, pcanUsbStop_unopened hasClose stop unopened, same.port]
    have clean : closed.isCleaned = dev.isCleaned := by
      rw [cleaned, pcanUsbStop_unopened hasClose stop unopened, same.cleaned]
    refine ⟨clean, ?_, ?_⟩
    · rw [unchanged, opened, flag]
      simp
    · rw [unchanged]
      simp
  | true =>
    have held : ready.isOpened = true := same.opened.trans flag
    have stopped := pcanUsbStop_opened hasClose stop held readyClean
    have left : closed.port = stoppedPort hasClose dev.port := by
      rw [port, ← same.port]
      exact stopped.1
    refine ⟨(cleaned.trans stopped.2).trans uncleaned.symm, ?_, ?_⟩
    · rw [left, opened, flag, stoppedPort_count hasClose (counted flag)]
      simp
    · rw [left, stoppedPort_actions, Bool.and_true]

theorem pcanfdDevReset_same (release : Pcandev UsbShared → Pcandev UsbShared)
    (counted : dev.nOpenPaths ≠ 0) :
    let released := release (pcanSetTxEngine dev .closed)
    SameOpening { released with flags := released.flags &&& ~~~pcanDevOpened }
      (pcanfdDevReset release dev).1 := by
  intro released
  have states := pcanSetBusState_same
    { released with flags := released.flags &&& ~~~pcanDevOpened } .unknown
  have kept : (pcanSetTxEngine dev .closed).nOpenPaths ≠ 0 := counted
  unfold pcanfdDevReset
  simp only
  rw [if_pos kept]
  exact states.trans (sameOpening_of_flags rfl rfl)

theorem cleared_flags (dev : Pcandev UsbShared) {bits : U32}
    (opened : bits &&& pcanDevOpened = pcanDevOpened)
    (other : bits &&& pcanDevCleaned = 0) :
    let cleared : Pcandev UsbShared := { dev with flags := dev.flags &&& ~~~bits }
    cleared.isOpened = false ∧ cleared.isCleaned = dev.isCleaned := by
  intro cleared
  constructor
  · have zero : dev.flags &&& ~~~bits &&& pcanDevOpened = 0 := by
      rw [← opened, ← BitVec.and_assoc, Masks.andNot_and_self]
      exact BitVec.zero_and
    simp [cleared, Pcandev.isOpened, zero]
  · simp only [cleared, Pcandev.isCleaned, Masks.andNot_and_of_disjoint _ other]

theorem usbReset_effect (hasClose : Bool) (stop : UsbStop) (counted : dev.nOpenPaths ≠ 0)
    (uncleaned : dev.isCleaned = false) (flag : Counted dev) :
    UsbEffect false (hasClose && dev.isOpened) dev
      (pcanfdDevReset (fun dev => (dev.called (pcanUsbStop hasClose stop)).1) dev).1 := by
  have states := pcanfdDevReset_same (fun dev => (dev.called (pcanUsbStop hasClose stop)).1) counted
  have cleared := cleared_flags ((pcanSetTxEngine dev .closed).called (pcanUsbStop hasClose stop)).1
    (by decide : pcanDevOpened &&& pcanDevOpened = pcanDevOpened) (by decide)
  exact stopped_effect stop (sameOpening_of_flags rfl rfl : SameOpening dev (pcanSetTxEngine dev .closed))
    uncleaned flag states.port (states.opened.trans cleared.1) (states.cleaned.trans cleared.2)

/-- What a failed open leaves in the counter: it has been counted up before the last
    command, which fails. -/
def UsbOpening.busOnFails (env : UsbOpening) : Bool :=
  match env.verdict with
  | .refused _ => false
  | .deviceOpen _ btr0btr1 bExtended bListenOnly =>
    env.setBusOff.err = 0 && (env.ctrlOpen btr0btr1 bExtended bListenOnly).err = 0 &&
      env.setBusOn.err ≠ 0
  | .deviceOpenFd settings =>
    env.setBusOff.err = 0 && (env.ctrlOpenFd settings).err = 0 && env.setBusOn.err ≠ 0

/-- Where the open functions return: the device is counted before the last command. -/
theorem usbDeviceOpen_spec (env : UsbOpening) (ctrlOpen : UsbCommand) (dev : Pcandev UsbShared) :
    SameOpening { dev with
        port := if env.setBusOff.err = 0 ∧ ctrlOpen.err = 0 then dev.port.countUp else dev.port }
      (usbDeviceOpen env ctrlOpen dev).1 ∧
    ((usbDeviceOpen env ctrlOpen dev).2 = 0 ↔
      env.setBusOff.err = 0 ∧ ctrlOpen.err = 0 ∧ env.setBusOn.err = 0) := by
  have off := commanded_same dev env.setBusOff
  have opened := off.trans (commanded_same (dev.commanded env.setBusOff).1 ctrlOpen)
  unfold usbDeviceOpen
  simp only
  by_cases silent : (dev.commanded env.setBusOff).2 ≠ 0
  · rw [if_pos silent, if_neg (fun both => silent both.1)]
    exact ⟨off, iff_of_false silent (fun all => silent all.1)⟩
  by_cases refused : ((dev.commanded env.setBusOff).1.commanded ctrlOpen).2 ≠ 0
  · rw [if_neg silent, if_pos refused, if_neg (fun both => refused both.2)]
    exact ⟨opened, iff_of_false refused (fun all => refused all.2.1)⟩
  rw [if_neg silent, if_neg refused]
  rw [not_not, commanded_err] at silent refused
  rw [if_pos ⟨silent, refused⟩]
  let counted : Pcandev UsbShared :=
    { ((dev.commanded env.setBusOff).1.commanded ctrlOpen).1 with
      port := ((dev.commanded env.setBusOff).1.commanded ctrlOpen).1.port.countUp }
  have on := commanded_same counted env.setBusOn
  refine ⟨⟨on.port, on.opened.trans opened.opened, on.cleaned.trans opened.cleaned⟩, ?_⟩
  simp [commanded_err, silent, refused]

theorem set_flag (dev : Pcandev UsbShared) :
    let opened : Pcandev UsbShared := { dev with flags := dev.flags ||| pcanDevOpened }
    opened.isOpened = true ∧ opened.isCleaned = dev.isCleaned := by
  intro opened
  constructor
  · have set : pcanDevOpened ≠ 0 := by decide
    simp only [opened, Pcandev.isOpened, Masks.or_and_self, decide_eq_true_eq]
    exact set
  · have other : pcanDevOpened &&& pcanDevCleaned = 0 := by decide
    simp only [opened, Pcandev.isCleaned, Masks.or_and_of_disjoint _ other]

/-- An open that leaves the channel opened has counted it, and one that fails has counted
    it only if the last command failed. -/
theorem openedEffect (env : UsbOpening) (ctrlOpen : UsbCommand) {called : Pcandev UsbShared}
    (unopened : dev.isOpened = false)
    (port : called.port =
      if env.setBusOff.err = 0 ∧ ctrlOpen.err = 0 then dev.port.countUp else dev.port)
    (opened : called.isOpened =
      decide (env.setBusOff.err = 0 ∧ ctrlOpen.err = 0 ∧ env.setBusOn.err = 0))
    (cleaned : called.isCleaned = dev.isCleaned) :
    UsbEffect (env.setBusOff.err = 0 && ctrlOpen.err = 0 && env.setBusOn.err ≠ 0) false dev called := by
  refine ⟨cleaned, ?_, ?_⟩
  · rw [port, opened, unopened]
    by_cases counts : env.setBusOff.err = 0 ∧ ctrlOpen.err = 0
    · by_cases on : env.setBusOn.err = 0 <;> simp [counts.1, counts.2, on, UsbShared.countUp]
    · have fails : ¬(env.setBusOff.err = 0 ∧ ctrlOpen.err = 0 ∧ env.setBusOn.err = 0) :=
        fun all => counts ⟨all.1, all.2.1⟩
      rw [if_neg counts, decide_eq_false fails]
      simp [← Bool.decide_and, counts]
  · rw [port]
    split <;> simp [UsbShared.countUp]

/-- `__pcanfd_dev_open` around one of the open functions. -/
theorem callDeviceOpen_effect (env : UsbOpening) (ctrlOpen : UsbCommand) (settings : PcanfdInit)
    (unopened : dev.isOpened = false) :
    let result := callDeviceOpen env.moments settings (usbDeviceOpen env ctrlOpen) dev
    UsbEffect (env.setBusOff.err = 0 && ctrlOpen.err = 0 && env.setBusOn.err ≠ 0) false dev result.1 ∧
      (result.1.isOpened = true → result.2 = 0) := by
  let prepared : Pcandev UsbShared := pcanfdDevOpenInit
    { dev with initTimestamp := env.moments.before, initSettings := env.moments.copied }
  let called : Pcandev UsbShared := (prepared.called (usbDeviceOpen env ctrlOpen)).1
  obtain ⟨same, succeeds⟩ := usbDeviceOpen_spec env ctrlOpen prepared
  simp only [callDeviceOpen]
  by_cases answered : (prepared.called (usbDeviceOpen env ctrlOpen)).2 = 0
  · rw [if_pos answered]
    refine ⟨?_, fun _ => rfl⟩
    let flagged : Pcandev UsbShared :=
      { called with
        flags := called.flags ||| pcanDevOpened
        initTimestamp := env.moments.after
        initSettings := settings }
    obtain ⟨set, kept⟩ := set_flag called
    have engine : SameOpening flagged
        (if flagged.lockedTxEngineState = .closed then pcanSetTxEngine flagged .stopped else flagged) := by
      split
      · exact sameOpening_of_flags rfl rfl
      · exact SameOpening.refl flagged
    apply openedEffect env ctrlOpen unopened
    case port => exact engine.port.trans same.port
    case opened =>
      rw [decide_eq_true (succeeds.mp answered)]
      exact engine.opened.trans set
    case cleaned => exact engine.cleaned.trans (kept.trans same.cleaned)
  · rw [if_neg answered]
    have closed : called.isOpened = false := same.opened.trans unopened
    refine ⟨?_, fun opened => absurd (closed.symm.trans opened) Bool.false_ne_true⟩
    apply openedEffect env ctrlOpen unopened
    case port => exact same.port
    case opened =>
      rw [decide_eq_false fun all => answered (succeeds.mpr all)]
      exact closed
    case cleaned => exact same.cleaned

theorem device_effect (env : UsbOpening) (unopened : dev.isOpened = false) :
    UsbEffect env.busOnFails false dev (env.device dev).1 ∧
      ((env.device dev).1.isOpened = true → (env.device dev).2 = 0) := by
  unfold UsbOpening.device performOpen UsbOpening.busOnFails
  cases env.verdict with
  | refused err =>
    refine ⟨(SameOpening.refl dev).effect, ?_⟩
    intro opened
    exact absurd (unopened.symm.trans opened) Bool.false_ne_true
  | deviceOpen settings btr0btr1 bExtended bListenOnly =>
    exact callDeviceOpen_effect env (env.ctrlOpen btr0btr1 bExtended bListenOnly) settings unopened
  | deviceOpenFd settings =>
    exact callDeviceOpen_effect env (env.ctrlOpenFd settings) settings unopened

theorem UsbEffect.trans {leaked closed : Bool} {dev'' : Pcandev UsbShared}
    (first : UsbEffect false closed dev dev') (second : UsbEffect leaked false dev' dev'') :
    UsbEffect leaked closed dev dev'' := by
  refine ⟨second.cleaned.trans first.cleaned, ?_, ?_⟩
  · rw [second.count, first.count]
    simp
  · rw [second.actions, first.actions]
    simp

theorem isOpened_of_reset (release : Pcandev UsbShared → Pcandev UsbShared) (dev : Pcandev UsbShared) :
    (pcanfdDevReset release dev).1.isOpened = false := by
  simp [Pcandev.isOpened, pcanfdDevReset_unopened]

theorem usbSetInit_effect (hasClose : Bool) (stop : UsbStop) (opening : UsbOpening)
    (counted : dev.nOpenPaths ≠ 0)
    (uncleaned : dev.isCleaned = false) (flag : Counted dev) :
    UsbEffect opening.busOnFails (hasClose && dev.isOpened) dev
      (usbSetInit hasClose stop opening dev).1 := by
  have reset := usbReset_effect hasClose stop counted uncleaned flag
  have unopened := isOpened_of_reset (fun dev => (dev.called (pcanUsbStop hasClose stop)).1) dev
  have device := (device_effect opening unopened).1
  exact reset.trans ⟨device.cleaned, device.count, device.actions⟩

section FirstOpen
variable {d : PathDev UsbShared} (hasClose : Bool) (memory : FifoMemory) (stop : UsbStop)
  (opening : UsbOpening)

theorem usbOpenDevice_effect (unopened : d.dev.isOpened = false) (uncleaned : d.dev.isCleaned = false) :
    let result := openDevice usbPathInterface (usbOpenEnv hasClose memory stop opening) d
    UsbEffect opening.busOnFails false d.dev result.d.dev ∧
      (result.d.dev.isOpened = true → result.err = 0) := by
  intro result
  let counted : Pcandev UsbShared := { d.dev with nOpenPaths := 1 }
  let reset := resetCounted usbPathInterface (usbOpenEnv hasClose memory stop opening) d.dev
  have first : UsbEffect false false d.dev reset := by
    have positive : counted.nOpenPaths ≠ 0 := by simp [counted]
    have effect := usbReset_effect hasClose stop positive uncleaned
      (fun opened => absurd (unopened.symm.trans opened) Bool.false_ne_true)
    rw [show counted.isOpened = false from unopened, Bool.and_false] at effect
    exact ⟨effect.cleaned, effect.count, effect.actions⟩
  have closed : reset.isOpened = false := isOpened_of_reset _ _
  obtain ⟨device, success⟩ := device_effect opening closed
  have both := first.trans device
  simp only [result, openDevice]
  split
  · exact ⟨⟨both.cleaned, both.count, both.actions⟩, fun _ => rfl⟩
  · rename_i failed
    refine ⟨⟨both.cleaned, both.count, both.actions⟩, ?_⟩
    intro opened
    exact absurd (success opened) failed

theorem callOpen_usb (env : OpenEnv UsbShared) (d : PathDev UsbShared) :
    callOpen usbPathInterface env d = openDevice usbPathInterface env d := rfl

theorem usbOpenPath_effect (closed : ¬0 < d.dev.nOpenPaths) (unopened : d.dev.isOpened = false)
    (uncleaned : d.dev.isCleaned = false) :
    let result := pcanOpenPath usbPathInterface (usbOpenEnv hasClose memory stop opening) d
    UsbEffect (memory.wMsg && memory.rMsg && opening.busOnFails) false d.dev result.d.dev ∧
      (result.d.dev.isOpened = true → result.err = 0) := by
  have silent : ∀ dev', SameOpening d.dev dev' →
      UsbEffect false false d.dev dev' ∧ (dev'.isOpened = true → (-enomem : Int) = 0) := by
    intro dev' same
    exact ⟨same.effect,
      fun opened => absurd ((same.opened.trans unopened).symm.trans opened) Bool.false_ne_true⟩
  intro result
  simp only [result, pcanOpenPath]
  rw [if_neg closed]
  cases w : memory.wMsg with
  | false =>
    simp only [usbOpenEnv, w, Bool.false_eq_true, if_false, Bool.false_and]
    exact silent d.dev (SameOpening.refl d.dev)
  | true =>
    cases r : memory.rMsg with
    | false =>
      simp only [usbOpenEnv, w, r, allocateReadFifo, Bool.false_eq_true, if_false, if_true,
        Bool.and_false, Bool.false_and]
      exact silent _ (sameOpening_of_flags rfl rfl)
    | true =>
      let allocated := d.allocated (usbOpenEnv hasClose memory stop opening)
      have unopened' : allocated.dev.isOpened = false := unopened
      have effect := usbOpenDevice_effect hasClose memory stop opening unopened' uncleaned
      simp only [usbOpenEnv, w, r, allocateReadFifo, if_true, Bool.true_and]
      have same : SameOpening d.dev allocated.dev := sameOpening_of_flags rfl rfl
      rw [callOpen_usb]
      exact ⟨same.effect.trans effect.1, effect.2⟩

end FirstOpen

theorem releaseCount_same (d : PathDev UsbShared) : SameOpening d.dev (releaseCount d).dev := by
  unfold releaseCount
  split
  · exact sameOpening_of_flags rfl rfl
  · exact SameOpening.refl d.dev

theorem closing_same (dev : Pcandev UsbShared) :
    SameOpening dev { dev with flags := dev.flags ||| pcanDevClosing } := by
  refine ⟨rfl, ?_, ?_⟩
  · simp only [Pcandev.isOpened,
      Masks.or_and_of_disjoint _ (by decide : pcanDevClosing &&& pcanDevOpened = 0)]
  · simp only [Pcandev.isCleaned,
      Masks.or_and_of_disjoint _ (by decide : pcanDevClosing &&& pcanDevCleaned = 0)]

theorem usbReleaseDevice_effect (hasClose : Bool) {d : PathDev UsbShared} (wait : UsbCommand)
    (stop : UsbStop) (uncleaned : d.dev.isCleaned = false) (flag : Counted d.dev) :
    let released := (releaseDevice usbPathInterface (usbReleaseEnv hasClose wait stop) d).dev
    UsbEffect false (hasClose && d.dev.isOpened) d.dev released ∧ released.isOpened = false := by
  let closing : Pcandev UsbShared := { d.dev with flags := d.dev.flags ||| pcanDevClosing }
  let waited : Pcandev UsbShared := (closing.called fun dev => dev.commanded wait).1
  let ready : Pcandev UsbShared :=
    pcanSetTxEngine { waited with nOpenPaths := waited.nOpenPaths - 1 } .closed
  have waiting : SameOpening closing waited := called_same (commanded_same closing wait)
  have counted : SameOpening waited ready := sameOpening_of_flags rfl rfl
  have same : SameOpening d.dev ready := ((closing_same d.dev).trans waiting).trans counted
  let stopped : Pcandev UsbShared := (ready.called (pcanUsbStop hasClose stop)).1
  obtain ⟨unopened, kept⟩ := cleared_flags stopped
    (by decide : (pcanDevOpened ||| pcanDevClosing) &&& pcanDevOpened = pcanDevOpened) (by decide)
  have states := pcanSetBusState_same
    { stopped with flags := stopped.flags &&& ~~~(pcanDevOpened ||| pcanDevClosing) } .unknown
  have freed := @called_same _ idleCallback (SameOpening.refl (pcanSetBusState
    { stopped with flags := stopped.flags &&& ~~~(pcanDevOpened ||| pcanDevClosing) } .unknown))
  have ends := states.trans freed
  exact ⟨stopped_effect stop same uncleaned flag ends.port (ends.opened.trans unopened)
    (ends.cleaned.trans kept), ends.opened.trans unopened⟩

theorem usbReleasePath_effect (hasClose : Bool) {d : PathDev UsbShared} (wait : UsbCommand)
    (stop : UsbStop) (last : d.dev.nOpenPaths = 1) (uncleaned : d.dev.isCleaned = false)
    (flag : Counted d.dev) :
    let released := (pcanReleasePath usbPathInterface (usbReleaseEnv hasClose wait stop) d).1.dev
    UsbEffect false (hasClose && d.dev.isOpened) d.dev released ∧ released.isOpened = false := by
  obtain ⟨effect, unopened⟩ := usbReleaseDevice_effect hasClose wait stop uncleaned flag
  intro released
  have same := releaseCount_same
    (releaseFifos (releaseDevice usbPathInterface (usbReleaseEnv hasClose wait stop) d))
  have ends : released = (releaseCount (releaseFifos
      (releaseDevice usbPathInterface (usbReleaseEnv hasClose wait stop) d))).dev := by
    simp only [released, pcanReleasePath]
    rw [if_pos last]
  rw [ends]
  exact ⟨effect.trans same.effect, same.opened.trans unopened⟩

end Effects

section Runs
variable {n : Nat}

/-- The channels whose flags contain `PCAN_DEV_OPENED`. -/
def UsbChannels.opened (s : UsbChannels n) : Finset (Fin n) :=
  marked (fun c : PathState UsbShared => c.d.dev.isOpened) s.channels

/-- A handle is needed to initialise the channel again and to release it. -/
def HoldsHandle (s : UsbChannels n) (input : UsbInput n) : Prop :=
  match input.action with
  | .openPath .. => True
  | _ => 0 < (s.channels input.channel).handles

/-- Whether the call gets to the last command of an open and it fails. -/
def countLeaks (c : PathState UsbShared) : UsbAction → Bool
  | .openPath memory _ opening =>
    decide (c.handles = 0) && (memory.wMsg && memory.rMsg && opening.busOnFails)
  | .setInit _ opening => opening.busOnFails
  | .releasePath .. => false

def BusOnHolds (s : UsbChannels n) (input : UsbInput n) : Prop :=
  countLeaks (s.channels input.channel) input.action = false

def closesChannel (c : PathState UsbShared) : UsbAction → Bool
  | .openPath .. => false
  | .setInit .. => c.d.dev.isOpened
  | .releasePath .. => decide (c.handles = 1) && c.d.dev.isOpened

/-- What the counter is there for: a channel that is closed can tell whether it is the
    last one. -/
structure CountsOpened (s : UsbChannels n) : Prop where
  count : s.shared.openedCount = s.opened.card
  last : ∀ i ∈ s.opened, lastChannel s.shared = true ↔ ∀ j ∈ s.opened, j = i

/-- The last channel's actions are taken in the steps that close the last opened channel. -/
def ClosesLast (hasClose : Bool) (t : Transition (UsbChannels n) (UsbInput n) Int) : Prop :=
  t.after.shared.lastActions = t.before.shared.lastActions +
    if hasClose = true ∧ closesChannel (t.before.channels t.input.channel) t.input.action = true ∧
      (∀ j ∈ t.before.opened, j = t.input.channel) then 1 else 0

structure UsbChannels.Fresh (s : UsbChannels n) : Prop where
  count : s.shared.openedCount = 0
  paths : ∀ i, (s.channels i).d.Fresh
  handles : ∀ i, (s.channels i).handles = 0
  unopened : ∀ i, (s.channels i).d.dev.isOpened = false
  uncleaned : ∀ i, (s.channels i).d.dev.isCleaned = false

structure UsbChannelInv (c : PathState UsbShared) : Prop where
  paths : PathInv c
  uncleaned : c.d.dev.isCleaned = false
  held : c.d.dev.isOpened = true → 0 < c.handles

structure UsbInv (s : UsbChannels n) : Prop where
  channels : ∀ i, UsbChannelInv (s.channels i)
  counted : s.opened.card ≤ s.shared.openedCount

theorem view_inv {s : UsbChannels n} {i : Fin n} (inv : UsbChannelInv (s.channels i)) :
    UsbChannelInv (s.view i) :=
  ⟨⟨inv.paths.closed, inv.paths.opened⟩, inv.uncleaned, inv.held⟩

theorem usbSetInit_paths (hasClose : Bool) (stop : UsbStop) (opening : UsbOpening)
    (dev : Pcandev UsbShared) : (usbSetInit hasClose stop opening dev).1.nOpenPaths = dev.nOpenPaths :=
  pcanfdDevReset_paths (fun dev => called_paths dev _) dev

section ChannelSteps
variable {c : PathState UsbShared} (inv : UsbChannelInv c)
include inv

theorem openPath_effect (hasClose : Bool) (memory : FifoMemory) (stop : UsbStop)
    (opening : UsbOpening) :
    let next := (usbChannelStep hasClose c (.openPath memory stop opening)).1
    UsbChannelInv next ∧
      UsbEffect (countLeaks c (.openPath memory stop opening)) false c.d.dev next.d.dev := by
  intro next
  have paths : PathInv next := openPath_inv usbPathInterface inv.paths _
  rcases Nat.eq_zero_or_pos c.handles with none | some
  · have closed : ¬0 < c.d.dev.nOpenPaths := by
      have left := (inv.paths.closed none).1
      omega
    have unopened : c.d.dev.isOpened = false := by
      by_contra opened
      have positive := inv.held (by simpa using opened)
      omega
    obtain ⟨effect, success⟩ :=
      usbOpenPath_effect hasClose memory stop opening closed unopened inv.uncleaned
    refine ⟨⟨paths, effect.cleaned.trans inv.uncleaned, ?_⟩, ?_⟩
    · intro opened
      simp [next, usbChannelStep, pathStep, success opened]
    · have leaks : countLeaks c (.openPath memory stop opening) =
          (memory.wMsg && memory.rMsg && opening.busOnFails) := by simp [countLeaks, none]
      rw [leaks]
      exact effect
  · have more : 0 < c.d.dev.nOpenPaths := by
      have same := (inv.paths.opened some).1
      omega
    have same : SameOpening c.d.dev next.d.dev := by
      simp only [next, usbChannelStep, pathStep, pcanOpenPath_more _ more]
      exact sameOpening_of_flags rfl rfl
    refine ⟨⟨paths, same.cleaned.trans inv.uncleaned, ?_⟩, ?_⟩
    · intro _
      simp [next, usbChannelStep, pathStep, pcanOpenPath_more _ more]
    · have several : c.handles ≠ 0 := by omega
      simpa [countLeaks, several] using same.effect

theorem setInit_effect (hasClose : Bool) (stop : UsbStop) (opening : UsbOpening)
    (flag : Counted c.d.dev) (held : 0 < c.handles) :
    let next := (usbChannelStep hasClose c (.setInit stop opening)).1
    UsbChannelInv next ∧
      UsbEffect opening.busOnFails (hasClose && c.d.dev.isOpened) c.d.dev next.d.dev := by
  intro next
  obtain ⟨same, w, r⟩ := inv.paths.opened held
  have counted : c.d.dev.nOpenPaths ≠ 0 := by omega
  have effect := usbSetInit_effect hasClose stop opening counted inv.uncleaned flag
  have kept := usbSetInit_paths hasClose stop opening c.d.dev
  refine ⟨⟨⟨?_, ?_⟩, effect.cleaned.trans inv.uncleaned, fun _ => held⟩, effect⟩
  · intro none
    exact absurd none held.ne'
  · intro _
    exact ⟨kept.trans same, w, r⟩

theorem releasePath_effect (hasClose : Bool) (wait : UsbCommand) (stop : UsbStop)
    (flag : Counted c.d.dev) (held : 0 < c.handles) :
    let next := (usbChannelStep hasClose c (.releasePath wait stop)).1
    UsbChannelInv next ∧
      UsbEffect false (hasClose && closesChannel c (.releasePath wait stop)) c.d.dev next.d.dev := by
  intro next
  have paths : PathInv next := releasePath_inv usbPathInterface inv.paths _ held
  have count := (inv.paths.opened held).1
  by_cases last : c.handles = 1
  · have one : c.d.dev.nOpenPaths = 1 := by omega
    obtain ⟨effect, unopened⟩ := usbReleasePath_effect hasClose wait stop one inv.uncleaned flag
    refine ⟨⟨paths, effect.cleaned.trans inv.uncleaned, ?_⟩, ?_⟩
    · intro opened
      exact absurd (unopened.symm.trans opened) Bool.false_ne_true
    · have closes : closesChannel c (.releasePath wait stop) = c.d.dev.isOpened := by
        simp [closesChannel, last]
      rw [closes]
      exact effect
  · have more : 1 < c.d.dev.nOpenPaths := by omega
    have same : SameOpening c.d.dev next.d.dev := by
      simp only [next, usbChannelStep, pathStep, pcanReleasePath_other _ more]
      exact sameOpening_of_flags rfl rfl
    refine ⟨⟨paths, same.cleaned.trans inv.uncleaned, ?_⟩, ?_⟩
    · intro _
      simp only [next, usbChannelStep, pathStep]
      omega
    · simpa [closesChannel, last] using same.effect

end ChannelSteps

theorem usbStep_effect (hasClose : Bool) {s : UsbChannels n} (inv : UsbInv s) {input : UsbInput n}
    (held : HoldsHandle s input) :
    let next := (usbChannelStep hasClose (s.view input.channel) input.action).1
    UsbChannelInv next ∧
      UsbEffect (countLeaks (s.channels input.channel) input.action)
        (hasClose && closesChannel (s.channels input.channel) input.action)
        (s.view input.channel).d.dev next.d.dev := by
  obtain ⟨i, action⟩ := input
  have channel := view_inv (inv.channels i)
  have flag : Counted (s.view i).d.dev := by
    intro opened
    have member : (s.channels i).d.dev.isOpened = true := opened
    have positive : 0 < s.opened.card := card_marked_pos member
    have counted := inv.counted
    show 0 < s.shared.openedCount
    omega
  cases action with
  | openPath memory stop opening =>
    rw [closesChannel, Bool.and_false]
    exact openPath_effect channel hasClose memory stop opening
  | setInit stop opening => exact setInit_effect channel hasClose stop opening flag held
  | releasePath wait stop => exact releasePath_effect channel hasClose wait stop flag held

/-- How far the counter is ahead of the opened channels. -/
def UsbChannels.excess (s : UsbChannels n) : Int := s.shared.openedCount - s.opened.card

theorem usbStep_excess (hasClose : Bool) {s : UsbChannels n} (inv : UsbInv s) {input : UsbInput n}
    (held : HoldsHandle s input) :
    (usbStep hasClose s input).1.excess =
      s.excess + (countLeaks (s.channels input.channel) input.action).toNat := by
  let next := (usbChannelStep hasClose (s.view input.channel) input.action).1
  have count : next.d.dev.port.openedCount - (next.d.dev.isOpened.toNat : Int) =
      s.shared.openedCount - ((s.channels input.channel).d.dev.isOpened.toNat : Int) +
        (countLeaks (s.channels input.channel) input.action).toNat :=
    (usbStep_effect hasClose inv held).2.count
  have cards : (s.store input.channel next).opened.card +
      (s.channels input.channel).d.dev.isOpened.toNat = s.opened.card + next.d.dev.isOpened.toNat :=
    card_marked_update _ s.channels input.channel next
  show next.d.dev.port.openedCount - ((s.store input.channel next).opened.card : Int) =
    s.shared.openedCount - s.opened.card + _
  omega

theorem usbStep_inv (hasClose : Bool) (s : UsbChannels n) (input : UsbInput n) (inv : UsbInv s)
    (held : HoldsHandle s input) : UsbInv (usbStep hasClose s input).1 := by
  constructor
  case channels =>
    intro i
    by_cases same : i = input.channel
    · subst same
      simpa [usbStep, UsbChannels.store] using (usbStep_effect hasClose inv held).1
    · simpa [usbStep, UsbChannels.store, same] using inv.channels i
  case counted =>
    have excess := usbStep_excess hasClose inv held
    have counted := inv.counted
    simp only [UsbChannels.excess] at excess
    omega

theorem busOn_of_counts (hasClose : Bool) (s : UsbChannels n) (input : UsbInput n) (inv : UsbInv s)
    (held : HoldsHandle s input) (counts : CountsOpened (usbStep hasClose s input).1) :
    BusOnHolds s input := by
  have excess := usbStep_excess hasClose inv held
  have counted := inv.counted
  have count := counts.count
  simp only [UsbChannels.excess] at excess
  unfold BusOnHolds
  cases leaks : countLeaks (s.channels input.channel) input.action with
  | false => rfl
  | true =>
    rw [leaks, Bool.toNat_true] at excess
    omega

structure UsbCounted (s : UsbChannels n) : Prop where
  inv : UsbInv s
  excess : s.excess = 0

theorem usbStep_counted (hasClose : Bool) (s : UsbChannels n) (input : UsbInput n) (counted : UsbCounted s)
    (allowed : HoldsHandle s input ∧ BusOnHolds s input) : UsbCounted (usbStep hasClose s input).1 := by
  refine ⟨usbStep_inv hasClose s input counted.inv allowed.1, ?_⟩
  rw [usbStep_excess hasClose counted.inv allowed.1, counted.excess, allowed.2]
  rfl

theorem UsbCounted.counts {s : UsbChannels n} (counted : UsbCounted s) : CountsOpened s := by
  have count : s.shared.openedCount = s.opened.card := by
    have excess := counted.excess
    simp only [UsbChannels.excess] at excess
    omega
  refine ⟨count, ?_⟩
  intro i member
  have few : lastChannel s.shared = true ↔ s.opened.card ≤ 1 := by
    simp only [lastChannel, decide_eq_true_eq, count]
    omega
  rw [few, UsbChannels.opened, card_marked_le_one (mem_marked.mp member)]
  simp only [mem_marked]

theorem isOpened_of_closes {c : PathState UsbShared} {action : UsbAction}
    (closes : closesChannel c action = true) : c.d.dev.isOpened = true := by
  cases action with
  | openPath => cases closes
  | setInit => exact closes
  | releasePath => exact (Bool.and_eq_true_iff.mp closes).2

theorem usbStep_closes (hasClose : Bool) (s : UsbChannels n) (input : UsbInput n) (counted : UsbCounted s)
    (allowed : HoldsHandle s input ∧ BusOnHolds s input) :
    ClosesLast hasClose ⟨s, input, (usbStep hasClose s input).2, (usbStep hasClose s input).1⟩ := by
  have actions := (usbStep_effect hasClose counted.inv allowed.1).2.actions
  unfold ClosesLast
  refine actions.trans ?_
  show s.shared.lastActions + _ = s.shared.lastActions + _
  congr 1
  cases closes : closesChannel (s.channels input.channel) input.action with
  | false => simp
  | true =>
    have member : input.channel ∈ s.opened := mem_marked.mpr (isOpened_of_closes closes)
    have last := counted.counts.last input.channel member
    cases hasClose with
    | false => simp
    | true =>
      simp only [Bool.true_and, true_and, ← last]
      show (lastChannel s.shared).toNat = _
      cases lastChannel s.shared <;> rfl

theorem UsbChannels.Fresh.start {s : UsbChannels n} (fresh : s.Fresh) : UsbCounted s := by
  have none : s.opened = ∅ := by
    ext i
    simp [UsbChannels.opened, fresh.unopened i]
  have channels : ∀ i, UsbChannelInv (s.channels i) := by
    intro i
    obtain ⟨paths, w, r⟩ := fresh.paths i
    refine ⟨⟨fun _ => ⟨.inl paths, w, r⟩, ?_⟩, fresh.uncleaned i, ?_⟩
    · intro held
      exact absurd (fresh.handles i) held.ne'
    · intro opened
      exact absurd ((fresh.unopened i).symm.trans opened) Bool.false_ne_true
  constructor
  case inv => exact ⟨channels, by rw [none, fresh.count]; rfl⟩
  case excess =>
    rw [UsbChannels.excess, none, fresh.count]
    rfl

/-- The counter of an interface says how many of its channels are opened, and the last one
    closed knows that it is the last, exactly as long as no open of a device fails to turn
    the bus on. -/
theorem opened_count_iff (hasClose : Bool) (s : UsbChannels n) (fresh : s.Fresh)
    (inputs : List (UsbInput n)) (admitted : Admitted HoldsHandle (usbStep hasClose) s inputs) :
    ((∀ t ∈ states (usbStep hasClose) s inputs, CountsOpened t) ∧
      ∀ t ∈ transitions (usbStep hasClose) s inputs, ClosesLast hasClose t) ↔
      Admitted BusOnHolds (usbStep hasClose) s inputs := by
  have start := fresh.start
  constructor
  · intro ⟨counts, _⟩
    exact admitted_of_states (usbStep_inv hasClose) (busOn_of_counts hasClose) start.inv admitted counts
  · intro holds
    have both := admitted.and holds
    constructor
    · intro t mem
      exact (states_invariant (usbStep_counted hasClose) start both t mem).counts
    · exact transitions_invariant (usbStep_counted hasClose) (usbStep_closes hasClose) start both

end Runs

section Samples

def answered : UsbCommand := ⟨0, id⟩

def quietStop : UsbStop := ⟨answered, answered, answered⟩

def grantedOpening : UsbOpening where
  moments := epoch
  verdict := .deviceOpenFd default
  setBusOff := answered
  ctrlOpen _ _ _ := answered
  ctrlOpenFd _ := answered
  setBusOn := answered

def busOnError : UsbOpening := { grantedOpening with setBusOn := ⟨-enodev, id⟩ }

def smallFifos : FifoMemory := ⟨4, 4, true, true⟩

def unopenedUsb : PathState UsbShared :=
  PathDev.start
    { dev := { openedChannel ⟨0, 0⟩ 4 4 0 with nOpenPaths := 0 }
      wMsg := false
      rMsg := false
      openedIndex := 0
      openedCount := 0 }

def unopenedAdapter : UsbChannels 2 := ⟨⟨0, 0⟩, 0, fun _ => unopenedUsb⟩

theorem unopenedAdapter_fresh : unopenedAdapter.Fresh := by
  constructor
  case count => rfl
  case paths => exact fun _ => ⟨rfl, rfl, rfl⟩
  case handles => exact fun _ => rfl
  case unopened => exact fun _ => (by decide +kernel : unopenedUsb.d.dev.isOpened = false)
  case uncleaned => exact fun _ => (by decide +kernel : unopenedUsb.d.dev.isCleaned = false)

def openClose (opening : UsbOpening) : List (UsbInput 2) :=
  [⟨⟨0, Nat.two_pos⟩, .openPath smallFifos quietStop opening⟩,
    ⟨⟨1, Nat.one_lt_two⟩, .openPath smallFifos quietStop grantedOpening⟩,
    ⟨⟨1, Nat.one_lt_two⟩, .releasePath answered quietStop⟩]

/-- The first channel cannot be turned on: the counter keeps it, and closing the second
    channel does not take the last channel's actions though no channel is left opened. -/
theorem failed_bus_on_stays_counted :
    (run (usbStep true) unopenedAdapter (openClose busOnError)).2 = [-enodev, 0, 0] ∧
      (run (usbStep true) unopenedAdapter (openClose busOnError)).1.shared = ⟨1, 0⟩ ∧
      ¬((∀ t ∈ states (usbStep true) unopenedAdapter (openClose busOnError), CountsOpened t) ∧
        ∀ t ∈ transitions (usbStep true) unopenedAdapter (openClose busOnError), ClosesLast true t) := by
  have shared : (run (usbStep true) unopenedAdapter (openClose busOnError)).1.shared = ⟨1, 0⟩ := by
    decide +kernel
  have opened : (run (usbStep true) unopenedAdapter (openClose busOnError)).1.opened.card = 0 := by
    decide +kernel
  refine ⟨by decide +kernel, shared, ?_⟩
  intro ⟨counts, _⟩
  have count := (counts _ (final_state_mem _ _ _)).count
  rw [shared, opened] at count
  exact absurd count (by decide)

theorem opened_count_two :
    ((∀ t ∈ states (usbStep true) unopenedAdapter (openClose grantedOpening), CountsOpened t) ∧
      ∀ t ∈ transitions (usbStep true) unopenedAdapter (openClose grantedOpening), ClosesLast true t) ↔
      Admitted BusOnHolds (usbStep true) unopenedAdapter (openClose grantedOpening) :=
  opened_count_iff true unopenedAdapter unopenedAdapter_fresh (openClose grantedOpening)
    ⟨trivial, trivial, by show 0 < PathState.handles _; decide +kernel, trivial⟩

end Samples

end PcanDriver

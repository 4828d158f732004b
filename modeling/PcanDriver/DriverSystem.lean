import PcanDriver.BasicChannels
import PcanDriver.InitReadBack

/-!
The driver under PCAN-Basic, with one device: `open`, `close` and the requests for its settings
and filters. The functions of the device's own may do anything to the hardware, but none of
them writes what applications have set.
-/
namespace PcanDriver
variable {P : Type}

section Source

def readyFlags : U32 := pcanDevFdRdy ||| pcanDevBusloadRdy

structure DeviceKept (dev dev' : Pcandev P) : Prop where
  filter : dev'.filter = dev.filter
  sysclockHz : dev'.sysclockHz = dev.sysclockHz
  ready : dev'.flags &&& readyFlags = dev.flags &&& readyFlags

structure OptionsKept (dev dev' : Pcandev P) : Prop where
  acc11b : dev'.acc11b = dev.acc11b
  acc29b : dev'.acc29b = dev.acc29b
  allowedMsgs : dev'.allowedMsgs = dev.allowedMsgs
  txIframeDelayUs : dev'.txIframeDelayUs = dev.txIframeDelayUs

structure OwnFunction (P : Type) where
  call : DevCallback P
  device : ∀ dev, DeviceKept dev (call dev).1
  options : ∀ dev, OptionsKept dev (call dev).1

/-- What one call of the driver finds. `found` is whether there is the device and memory for
    the file, `checked` what the checks of an open, which work on the channel's own settings,
    make of them. -/
structure DriverMoment (P : Type) where
  found : Bool
  fd : Nat
  txqsize : Nat
  rxqsize : Nat
  wMsg : Bool
  rMsg : Bool
  checked : PcanfdInit
  moments : OpenMoments
  interface : OwnFunction P
  probe : OwnFunction P
  release : OwnFunction P
  reqIrq : OwnFunction P
  freeIrq : OwnFunction P
  wait : OwnFunction P
  deviceRelease : OwnFunction P
  deviceOpen : U16 → U8 → U8 → OwnFunction P
  deviceOpenFd : PcanfdInit → OwnFunction P

def DriverMoment.functions (moment : DriverMoment P) : OpenFunctions P where
  deviceOpen word type listenOnly := (moment.deviceOpen word type listenOnly).call
  deviceOpenFd settings := (moment.deviceOpenFd settings).call

/-- A division by zero ends the call, and the settings are not used. -/
def DriverMoment.openEnv (moment : DriverMoment P) (hw : TimingDevice) : OpenEnv P where
  txqsize := moment.txqsize
  rxqsize := moment.rxqsize
  wMsg := moment.wMsg
  rMsg := moment.rMsg
  interface := moment.interface.call
  probe := moment.probe.call
  release := moment.release.call
  reqIrq := moment.reqIrq.call
  deviceRelease := moment.deviceRelease.call
  device dev :=
    match pcanfdDevOpen (dev.timing hw) dev.initSettings with
    | some result =>
      performOpen moment.functions moment.moments { dev with initSettings := moment.checked } result
    | none => (dev, -einval)
  freeIrq := moment.freeIrq.call

def DriverMoment.releaseEnv (moment : DriverMoment P) : ReleaseEnv P where
  wait := moment.wait.call
  deviceRelease := moment.deviceRelease.call
  release := moment.release.call
  freeIrq := moment.freeIrq.call

def DriverMoment.releaseIf (moment : DriverMoment P) (iface : PathInterface) (dev : Pcandev P) :
    Pcandev P :=
  (dev.callIf iface.hasDeviceRelease moment.deviceRelease.call).1

/-- `time` counts the calls. -/
structure DriverState (P : Type) where
  time : Nat
  d : PathDev P

def DriverState.next (s : DriverState P) (d : PathDev P) : DriverState P := ⟨s.time + 1, d⟩

/-- `pcan_open`, `pcan_release` and the ioctls; `others` are those that are not about the
    settings. -/
def driverSystem (others : System (DriverState P)) (iface : PathInterface) (hw : TimingDevice)
    (env : Nat → DriverMoment P) : System (DriverState P) :=
  { others with
    openFile := fun s _ _ =>
      if (env s.time).found then
        let dev := { s.d.dev with initSettings := userSettings s.d.dev.initSettings }
        let opened := pcanOpenPath iface ((env s.time).openEnv hw) (s.d.setDev dev)
        (s.next opened.d,
          if opened.err = 0 then ((env s.time).fd : Int) else -(opened.err.natAbs : Int))
      else (s.next s.d, -enodev)
    closeFile := fun s _ => s.next (pcanReleasePath iface (env s.time).releaseEnv s.d).1
    getInit := fun s _ => (s, pcanfdIoctlGetInit s.d.dev)
    setInit := fun s _ pfdi =>
      match setInitOn ((env s.time).releaseIf iface) (env s.time).functions (env s.time).moments hw
          s.d.dev pfdi with
      | some (dev, err) => (s.next (s.d.setDev dev), err.natAbs)
      | none => (s.next s.d, einval.natAbs)
    delFilters := fun s _ =>
      s.next (s.d.setDev { s.d.dev with filter := pcanDeleteFilterAll s.d.dev.filter }) }

end Source

section Device

theorem DeviceKept.refl (dev : Pcandev P) : DeviceKept dev dev := ⟨rfl, rfl, rfl⟩

theorem DeviceKept.trans {dev dev' dev'' : Pcandev P} (first : DeviceKept dev dev')
    (second : DeviceKept dev' dev'') : DeviceKept dev dev'' where
  filter := second.filter.trans first.filter
  sysclockHz := second.sysclockHz.trans first.sysclockHz
  ready := second.ready.trans first.ready

theorem OptionsKept.trans {dev dev' dev'' : Pcandev P} (first : OptionsKept dev dev')
    (second : OptionsKept dev' dev'') : OptionsKept dev dev'' where
  acc11b := second.acc11b.trans first.acc11b
  acc29b := second.acc29b.trans first.acc29b
  allowedMsgs := second.allowedMsgs.trans first.allowedMsgs
  txIframeDelayUs := second.txIframeDelayUs.trans first.txIframeDelayUs

theorem called_kept (dev : Pcandev P) (function : OwnFunction P) :
    DeviceKept dev (dev.called function.call).1 ∧ OptionsKept dev (dev.called function.call).1 := by
  obtain ⟨filter, sysclockHz, ready⟩ := function.device dev
  obtain ⟨acc11b, acc29b, allowedMsgs, txIframeDelayUs⟩ := function.options dev
  exact ⟨⟨filter, sysclockHz, ready⟩, ⟨acc11b, acc29b, allowedMsgs, txIframeDelayUs⟩⟩

theorem callIf_kept (dev : Pcandev P) (isSet : Bool) (function : OwnFunction P) :
    DeviceKept dev (dev.callIf isSet function.call).1 := by
  cases isSet with
  | true => exact (called_kept dev function).1
  | false => exact .refl dev

theorem pcanSetBusState_kept (dev : Pcandev P) (state : PcanfdStatus) :
    DeviceKept dev (pcanSetBusState dev state) := by
  unfold pcanSetBusState
  split
  · exact ⟨rfl, rfl, rfl⟩
  · cases state <;> exact ⟨rfl, rfl, rfl⟩

theorem pcanSetTxEngine_kept (dev : Pcandev P) (state : TxEngine) :
    DeviceKept dev (pcanSetTxEngine dev state) := ⟨rfl, rfl, rfl⟩

theorem cleared_kept (dev : Pcandev P) {bits : U32} (disjoint : bits &&& readyFlags = 0) :
    DeviceKept dev { dev with flags := dev.flags &&& ~~~bits } :=
  ⟨rfl, rfl, Masks.andNot_and_of_disjoint dev.flags disjoint⟩

theorem set_kept (dev : Pcandev P) {bits : U32} (disjoint : bits &&& readyFlags = 0) :
    DeviceKept dev { dev with flags := dev.flags ||| bits } :=
  ⟨rfl, rfl, Masks.or_and_of_disjoint dev.flags disjoint⟩

theorem counted_kept (dev : Pcandev P) (nOpenPaths : Int) :
    DeviceKept dev { dev with nOpenPaths } := ⟨rfl, rfl, rfl⟩

theorem pcanfdDevReset_kept {deviceRelease : Pcandev P → Pcandev P}
    (keeps : ∀ dev, DeviceKept dev (deviceRelease dev)) (dev : Pcandev P) :
    DeviceKept dev (pcanfdDevReset deviceRelease dev).1 := by
  have closed := pcanSetTxEngine_kept dev .closed
  have released : DeviceKept dev (if (pcanSetTxEngine dev .closed).nOpenPaths ≠ 0 then
      deviceRelease (pcanSetTxEngine dev .closed) else pcanSetTxEngine dev .closed) := by
    split
    · exact closed.trans (keeps _)
    · exact closed
  have cleared := released.trans (cleared_kept _ (by decide : pcanDevOpened &&& readyFlags = 0))
  obtain ⟨filter, sysclockHz, ready⟩ := cleared.trans (pcanSetBusState_kept _ .unknown)
  exact ⟨filter, sysclockHz, ready⟩

theorem callDeviceOpen_kept (moments : OpenMoments) (settings : PcanfdInit)
    (function : OwnFunction P) (dev : Pcandev P) :
    DeviceKept dev (callDeviceOpen moments settings function.call dev).1 := by
  have prepared : DeviceKept dev (pcanfdDevOpenInit
      { dev with initTimestamp := moments.before, initSettings := moments.copied }) :=
    ⟨rfl, rfl, rfl⟩
  have called := prepared.trans (called_kept _ function).1
  unfold callDeviceOpen
  dsimp only
  split
  · have opened := called.trans (set_kept _ (by decide : pcanDevOpened &&& readyFlags = 0))
    obtain ⟨filter, sysclockHz, ready⟩ := opened
    dsimp only
    split
    · exact ⟨filter, sysclockHz, ready⟩
    · exact ⟨filter, sysclockHz, ready⟩
  · obtain ⟨filter, sysclockHz, ready⟩ := called
    exact ⟨filter, sysclockHz, ready⟩

theorem performOpen_kept (moment : DriverMoment P) (dev : Pcandev P) (result : OpenResult) :
    DeviceKept dev (performOpen moment.functions moment.moments dev result).1 := by
  cases result with
  | refused err => exact .refl dev
  | deviceOpen settings word type listenOnly => exact callDeviceOpen_kept _ _ _ dev
  | deviceOpenFd settings => exact callDeviceOpen_kept _ _ _ dev

theorem releaseIf_kept (moment : DriverMoment P) (iface : PathInterface) (dev : Pcandev P) :
    DeviceKept dev (moment.releaseIf iface dev) :=
  callIf_kept dev iface.hasDeviceRelease moment.deviceRelease

theorem setInitOn_kept (moment : DriverMoment P) (iface : PathInterface) (hw : TimingDevice)
    {dev dev' : Pcandev P} {pfdi : PcanfdInit} {err : Int}
    (done : setInitOn (moment.releaseIf iface) moment.functions moment.moments hw dev pfdi =
      some (dev', err)) : DeviceKept dev dev' := by
  have reset := pcanfdDevReset_kept (releaseIf_kept moment iface) dev
  unfold setInitOn at done
  dsimp only at done
  split at done
  next failed => exact absurd rfl failed
  next =>
    obtain ⟨result, -, performed⟩ := Option.map_eq_some_iff.mp done
    have opened := reset.trans (performOpen_kept moment _ result)
    rwa [performed] at opened

end Device

section Paths
variable (moment : DriverMoment P) (iface : PathInterface) (hw : TimingDevice)

theorem resetCounted_kept (dev : Pcandev P) :
    DeviceKept dev (resetCounted iface (moment.openEnv hw) dev) := by
  obtain ⟨filter, sysclockHz, ready⟩ := pcanfdDevReset_kept (releaseIf_kept moment iface)
    { dev with nOpenPaths := 1 }
  exact ⟨filter, sysclockHz, ready⟩

theorem openEnv_device_kept (dev : Pcandev P) :
    DeviceKept dev (dev.called (moment.openEnv hw).device).1 := by
  have opened : DeviceKept dev ((moment.openEnv hw).device dev).1 := by
    unfold DriverMoment.openEnv
    dsimp only
    split
    next result checked =>
      obtain ⟨filter, sysclockHz, ready⟩ := performOpen_kept moment
        { dev with initSettings := moment.checked } result
      exact ⟨filter, sysclockHz, ready⟩
    next => exact .refl dev
  obtain ⟨filter, sysclockHz, ready⟩ := opened
  exact ⟨filter, sysclockHz, ready⟩

theorem openDevice_kept (d : PathDev P) :
    DeviceKept d.dev (openDevice iface (moment.openEnv hw) d).d.dev := by
  have called := (resetCounted_kept moment iface hw d.dev).trans (openEnv_device_kept moment hw _)
  unfold openDevice
  dsimp only
  split
  · exact called
  · have counted (paths : Int) := called.trans (counted_kept _ paths)
    exact (counted _).trans (callIf_kept _ iface.hasFreeIrq moment.freeIrq)

theorem requestIrq_kept (d : PathDev P) :
    DeviceKept d.dev (requestIrq iface (moment.openEnv hw) d).d.dev := by
  have called := callIf_kept d.dev iface.hasReqIrq moment.reqIrq
  unfold requestIrq
  dsimp only
  split
  · exact called
  · exact called.trans (openDevice_kept moment iface hw (d.setDev _))

theorem probeDongle_kept (d : PathDev P) :
    DeviceKept d.dev (probeDongle iface (moment.openEnv hw) d).d.dev := by
  have called := callIf_kept d.dev iface.dongle moment.probe
  unfold probeDongle
  dsimp only
  split
  · exact called.trans (called_kept _ moment.release).1
  · exact called.trans (requestIrq_kept moment iface hw (d.setDev _))

theorem callOpen_kept (d : PathDev P) :
    DeviceKept d.dev (callOpen iface (moment.openEnv hw) d).d.dev := by
  have called := callIf_kept d.dev iface.hasOpen moment.interface
  unfold callOpen
  dsimp only
  split
  · exact called
  · exact called.trans (probeDongle_kept moment iface hw (d.setDev _))

theorem pcanOpenPath_kept (d : PathDev P) :
    DeviceKept d.dev (pcanOpenPath iface (moment.openEnv hw) d).d.dev := by
  unfold pcanOpenPath
  split
  · exact ⟨rfl, rfl, rfl⟩
  split
  · unfold allocateReadFifo
    split
    · obtain ⟨filter, sysclockHz, ready⟩ := callOpen_kept moment iface hw _
      exact ⟨filter, sysclockHz, ready⟩
    · exact ⟨rfl, rfl, rfl⟩
  · exact .refl d.dev

theorem releaseDevice_kept (d : PathDev P) :
    DeviceKept d.dev (releaseDevice iface moment.releaseEnv d).dev := by
  have closing := set_kept d.dev (by decide : pcanDevClosing &&& readyFlags = 0)
  have waited := closing.trans (called_kept _ moment.wait).1
  have counted (paths : Int) := waited.trans (counted_kept _ paths)
  have released (paths : Int) := ((counted paths).trans (pcanSetTxEngine_kept _ .closed)).trans
    (callIf_kept _ iface.hasDeviceRelease moment.deviceRelease)
  have cleared (paths : Int) := (released paths).trans
    (cleared_kept _ (by decide : (pcanDevOpened ||| pcanDevClosing) &&& readyFlags = 0))
  have unknown (paths : Int) := (cleared paths).trans (pcanSetBusState_kept _ .unknown)
  have freed (paths : Int) := (unknown paths).trans
    (callIf_kept _ iface.hasRelease moment.release)
  exact (freed _).trans (callIf_kept _ iface.hasFreeIrq moment.freeIrq)

theorem releaseCount_kept (d : PathDev P) : DeviceKept d.dev (releaseCount d).dev := by
  unfold releaseCount
  split
  · exact ⟨rfl, rfl, rfl⟩
  · exact .refl d.dev

theorem pcanReleasePath_kept (d : PathDev P) :
    DeviceKept d.dev (pcanReleasePath iface moment.releaseEnv d).1.dev := by
  unfold pcanReleasePath
  split
  · have released := releaseDevice_kept moment iface d
    have counted := releaseCount_kept (releaseFifos (releaseDevice iface moment.releaseEnv d))
    exact released.trans counted
  split
  · exact releaseCount_kept (releaseFifos d)
  · exact releaseCount_kept d

end Paths

section Calls
variable (others : System (DriverState P)) (iface : PathInterface) (hw : TimingDevice)
  (env : Nat → DriverMoment P)

theorem openFile_kept (s : DriverState P) (path : String) (mode : OpenMode) :
    DeviceKept s.d.dev ((driverSystem others iface hw env).openFile s path mode).1.d.dev := by
  unfold driverSystem
  dsimp only
  split
  · obtain ⟨filter, sysclockHz, ready⟩ := pcanOpenPath_kept (env s.time) iface hw
      (s.d.setDev { s.d.dev with initSettings := userSettings s.d.dev.initSettings })
    exact ⟨filter, sysclockHz, ready⟩
  · exact .refl s.d.dev

theorem closeFile_kept (s : DriverState P) (fd : Int) :
    DeviceKept s.d.dev ((driverSystem others iface hw env).closeFile s fd).d.dev :=
  pcanReleasePath_kept (env s.time) iface s.d

theorem setInit_kept (s : DriverState P) (fd : Int) (pfdi : PcanfdInit) :
    DeviceKept s.d.dev ((driverSystem others iface hw env).setInit s fd pfdi).1.d.dev := by
  unfold driverSystem
  dsimp only
  split
  next dev err done => exact setInitOn_kept (env s.time) iface hw done
  next => exact .refl s.d.dev

theorem pcanfdSetInit_kept (s : DriverState P) (fd : Int) (pfdi : PcanfdInit) :
    DeviceKept s.d.dev (pcanfdSetInit (driverSystem others iface hw env) s fd pfdi).1.d.dev :=
  setInit_kept others iface hw env s fd _

theorem pcanfdOpen_kept (s : DriverState P) (path : String) (flags : U32) (args : List U32) :
    DeviceKept s.d.dev
      (pcanfdOpen (driverSystem others iface hw env) s path flags args).1.d.dev := by
  obtain ⟨mode, init, ways⟩ := pcanfdOpen_cases (driverSystem others iface hw env) s path flags args
  have opened := openFile_kept others iface hw env s path mode
  have set := opened.trans (pcanfdSetInit_kept others iface hw env _
    ((driverSystem others iface hw env).openFile s path mode).2 init)
  rcases ways with ⟨-, same⟩ | ⟨-, -, same⟩ | ⟨-, -, same⟩
  · rw [same]
    exact opened
  · rw [same]
    exact set.trans (closeFile_kept others iface hw env _
      ((driverSystem others iface hw env).openFile s path mode).2)
  · rw [same]
    exact set

end Calls

end PcanDriver

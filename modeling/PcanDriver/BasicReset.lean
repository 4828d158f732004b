import PcanDriver.DriverSystem

/-!
A reset of a channel of PCAN-Basic on the driver: the settings are read, the file is closed and
opened again, which gives the channel default settings, and the settings that were read are set
again. What was set in other ways is not set again.
-/
namespace PcanDriver
open KeyedList
variable {P : Type}

section Statement

inductive ChannelSetting where
  | addFilter (filter : FilterElement)
  | deleteFilters
  | accFilter11b (value : AccFilter)
  | accFilter29b (value : AccFilter)
  | allowedMsgs (mask : U32)
  | iframeDelay (us : U32)

def ChannelSetting.apply (dev : Pcandev P) : ChannelSetting → Pcandev P
  | .addFilter filter => { dev with filter := (pcanAddFilter dev.filter filter).1 }
  | .deleteFilters => { dev with filter := pcanDeleteFilterAll dev.filter }
  | .accFilter11b value => pcanSetAccFilter11b dev value
  | .accFilter29b value => pcanSetAccFilter29b dev value
  | .allowedMsgs mask => { dev with allowedMsgs := mask }
  | .iframeDelay us => { dev with txIframeDelayUs := us }

/-- A channel that is open with settings that were accepted, whatever has been set, sent and
    received since. -/
inductive ReachedChannel (hw : TimingDevice) : Pcandev P → Prop
  | opened (moment : DriverMoment P) (iface : PathInterface) (before dev : Pcandev P)
      (pfdi : PcanfdInit) (done : setInitOn (moment.releaseIf iface) moment.functions
        moment.moments hw before pfdi = some (dev, 0)) : ReachedChannel hw dev
  | set (dev : Pcandev P) (reached : ReachedChannel hw dev) (setting : ChannelSetting) :
      ReachedChannel hw (setting.apply dev)
  | running (dev dev' : Pcandev P) (reached : ReachedChannel hw dev)
      (initSettings : dev'.initSettings = dev.initSettings)
      (sysclockHz : dev'.sysclockHz = dev.sysclockHz)
      (ready : dev'.flags &&& readyFlags = dev.flags &&& readyFlags) : ReachedChannel hw dev'

/-- A reset, or the parameter that resets a channel that is open; `listenOnly` is the channel's
    parameter then. -/
inductive ResetCall {S : Type} (sys : System S) (b : Pcanbasic S) (channel : U16) (listenOnly : U8)
    (result : BasicResult S) : Prop where
  | reset (pchan : PcanbasicChannel) (opened : (pcanbasicGetChannel sys b channel true).2 = some pchan)
      (parameter : pchan.listenOnly = listenOnly) (called : pcanbasicReset sys b channel = result)
  | setValue (pchan : PcanbasicChannel)
      (opened : (pcanbasicGetChannel sys b channel true).2 = some pchan)
      (called : pcanbasicSetValue sys b channel .listenOnly (some listenOnly) = result)

/-- The channel has the rates, filters and options of before, and the mode asked for. A bit
    lasts as many ticks of the clock as the product says. -/
structure ResetFrame (listenOnly : U8) (dev dev' : Pcandev P) : Prop where
  clock : dev'.initSettings.clockHz = dev.initSettings.clockHz
  fd : WantsFd dev'.initSettings ↔ WantsFd dev.initSettings
  nominal : quantaProduct dev'.initSettings.nominal = quantaProduct dev.initSettings.nominal
  data : WantsFd dev.initSettings →
    quantaProduct dev'.initSettings.data = quantaProduct dev.initSettings.data
  filter : dev'.filter = dev.filter
  options : OptionsKept dev dev'
  listenOnly : dev'.initSettings.flags &&& pcanfdInitListenOnly ≠ 0 ↔ listenOnly = pcanParameterOn

structure DefaultOptions (dev : Pcandev P) : Prop where
  acc11b : dev.acc11b = ⟨canMaxStandardId, 0⟩
  acc29b : dev.acc29b = ⟨canMaxExtendedId, 0⟩
  allowedMsgs : dev.allowedMsgs = pcanfdAllowedMsgDefault
  txIframeDelayUs : dev.txIframeDelayUs = 0

/-- No first segment is empty, no option has been set, and the channel is not in the
    listen-only mode if that is to be left. -/
structure Resettable (listenOnly : U8) (dev : Pcandev P) : Prop where
  nominal : dev.initSettings.nominal.tseg1 ≠ 0
  data : WantsFd dev.initSettings → dev.initSettings.data.tseg1 ≠ 0
  options : DefaultOptions dev
  mode : listenOnly = pcanParameterOn ∨
    listenOnly = 0 ∧ dev.initSettings.flags &&& pcanfdInitListenOnly = 0

end Statement

section Settings
variable {dev : TimingDevice} {settings : PcanfdInit}

/-- The settings as `pcanfd_set_init` gives them to the driver. -/
def PcanfdInit.masked (settings : PcanfdInit) : PcanfdInit :=
  { settings with flags := settings.flags &&& ofdPcanfdMask }

def resetSettings (settings : PcanfdInit) (listenOnly : U8) : PcanfdInit :=
  { settings with
    flags := (settings.flags ||| if listenOnly ≠ 0 then pcanfdInitListenOnly else 0) &&&
      ofdPcanfdMask }

theorem resetSettings_flags (settings : PcanfdInit) (listenOnly : U8) {bits : U32}
    (disjoint : pcanfdInitListenOnly &&& bits = 0) (inside : ofdPcanfdMask &&& bits = bits) :
    (resetSettings settings listenOnly).flags &&& bits = settings.flags &&& bits := by
  unfold resetSettings
  rw [BitVec.and_assoc, inside]
  split
  · exact Masks.or_and_of_disjoint settings.flags disjoint
  · exact Masks.or_and_of_disjoint settings.flags (BitVec.zero_and)

theorem resetSettings_listenOnly (settings : PcanfdInit) (listenOnly : U8) :
    (resetSettings settings listenOnly).flags &&& pcanfdInitListenOnly ≠ 0 ↔
      listenOnly ≠ 0 ∨ settings.flags &&& pcanfdInitListenOnly ≠ 0 := by
  have inside : ofdPcanfdMask &&& pcanfdInitListenOnly = pcanfdInitListenOnly := by decide
  unfold resetSettings
  rw [BitVec.and_assoc, inside]
  split
  next on =>
    rw [Masks.or_and_self]
    exact ⟨fun _ => .inl on, fun _ => by decide⟩
  next off =>
    have same : (settings.flags ||| 0) &&& pcanfdInitListenOnly =
        settings.flags &&& pcanfdInitListenOnly :=
      Masks.or_and_of_disjoint settings.flags (BitVec.zero_and)
    rw [same]
    exact ⟨.inr, fun either => either.resolve_left off⟩

theorem resetSettings_fd (settings : PcanfdInit) (listenOnly : U8) :
    WantsFd (resetSettings settings listenOnly) ↔ WantsFd settings := by
  unfold WantsFd
  rw [resetSettings_flags settings listenOnly (by decide) (by decide)]

structure CleanFlags (dev : TimingDevice) (settings : PcanfdInit) : Prop where
  busLoad : dev.flags &&& pcanDevBusloadRdy = 0 → settings.flags &&& pcanfdInitBusLoadInfo = 0
  legacy : settings.clockHz = 8 * mhz →
    settings.flags &&& (pcanfdInitFd ||| pcanfdInitFdNonIso) = 0 ∧ settings.data = PcanBittiming.zero

theorem andNot_of_and_eq_zero {x bits : U32} (clear : x &&& bits = 0) : x &&& ~~~bits = x := by
  ext i hi
  have bit : (x &&& bits)[i] = false := by simp [clear]
  simp only [BitVec.getElem_and, BitVec.getElem_not] at bit ⊢
  cases hx : x[i] <;> cases hb : bits[i] <;> simp_all

theorem cleanFlags_iff : CleanFlags dev settings ↔ openedSettings dev settings = settings := by
  constructor
  · rintro ⟨busLoad, legacy⟩
    have sanitized : sanitizedFlags dev settings.flags = settings.flags := by
      unfold sanitizedFlags
      split
      next unready => exact andNot_of_and_eq_zero (busLoad unready)
      next => rfl
    unfold openedSettings
    rw [sanitized]
    split
    next old =>
      rw [andNot_of_and_eq_zero (legacy old).1, ← (legacy old).2]
    next => rfl
  · intro opened
    unfold openedSettings at opened
    constructor
    · intro unready
      have sanitized : sanitizedFlags dev settings.flags =
          settings.flags &&& ~~~pcanfdInitBusLoadInfo := if_pos unready
      rw [sanitized] at opened
      split at opened
      · rw [← congrArg PcanfdInit.flags opened]
        exact (Masks.andNot_and_of_disjoint _ (by decide)).trans (Masks.andNot_and_self _ _)
      · rw [← congrArg PcanfdInit.flags opened]
        exact Masks.andNot_and_self _ _
    · intro old
      rw [if_pos old] at opened
      have flags := congrArg PcanfdInit.flags opened
      have data := congrArg PcanfdInit.data opened
      dsimp only at flags data
      refine ⟨?_, data.symm⟩
      rw [← flags]
      exact Masks.andNot_and_self _ _

theorem Stored.reset (stored : Stored dev settings) (listenOnly : U8) :
    Stored dev (resetSettings settings listenOnly) where
  clock := stored.clock
  user := by
    unfold resetSettings
    have outside : ofdPcanfdMask &&& pcanfdInitUser = 0 := by decide
    dsimp only
    rw [BitVec.and_assoc, outside]
    exact BitVec.and_zero
  opened := by
    obtain ⟨busLoad, legacy⟩ := cleanFlags_iff.mpr stored.opened
    refine cleanFlags_iff.mp ⟨fun unready => ?_, fun old => ⟨?_, (legacy old).2⟩⟩
    · rw [resetSettings_flags settings listenOnly (by decide) (by decide)]
      exact busLoad unready
    · rw [resetSettings_flags settings listenOnly (by decide) (by decide)]
      exact (legacy old).1
  nominal := stored.nominal
  payload fd := stored.payload ((resetSettings_fd settings listenOnly).mp fd)

theorem givenTiming_product_iff {caps : PcanfdBittimingRange} {bt : PcanBittiming}
    (regular : caps.Regular) (clk : U32) (inRange : InRange caps bt) :
    quantaProduct (givenTiming caps clk bt) = quantaProduct bt ↔ bt.tseg1 ≠ 0 := by
  obtain ⟨clampBrp, clampTseg1, clampTseg2⟩ := clampTiming_toNat regular bt
  have brpMax := regular.brpMax
  have segments := regular.segments
  have ⟨prescales, firstMax, secondMax, _⟩ := inRange
  constructor
  · intro same empty
    have before := @quantaProduct_toNat bt (by omega) (by omega) (by omega)
    have after := @quantaProduct_toNat (givenTiming caps clk bt)
      (show (clampTiming bt caps).brp.toNat ≤ 1024 by omega)
      (show (clampTiming bt caps).tseg1.toNat ≤ 256 by omega)
      (show (clampTiming bt caps).tseg2.toNat ≤ 256 by omega)
    have brp : (givenTiming caps clk bt).brp.toNat = bt.brp.toNat := clampBrp.trans (by omega)
    have first : bt.tseg1.toNat = 0 := congrArg BitVec.toNat empty
    have longer : 1 + bt.tseg1.toNat + bt.tseg2.toNat <
        1 + (clampTiming bt caps).tseg1.toNat + (clampTiming bt caps).tseg2.toNat := by omega
    have grows := Nat.mul_lt_mul_of_pos_left longer prescales.1
    have equal := after.symm.trans ((congrArg BitVec.toNat same).trans before)
    rw [brp] at equal
    exact absurd equal (Nat.ne_of_gt grows)
  · intro nonempty
    exact quantaProduct_congr (givenTiming_quanta regular clk inRange nonempty)

end Settings

section Reached
variable {hw : TimingDevice} {dev dev' : Pcandev P}

theorem timing_sound (same : dev'.sysclockHz = dev.sysclockHz) (sound : (dev.timing hw).Sound) :
    (dev'.timing hw).Sound where
  caps := sound.caps
  dataCaps := sound.dataCaps
  clocks := sound.clocks
  sysclock := by
    have known := sound.sysclock
    unfold Pcandev.timing at known ⊢
    dsimp only at known ⊢
    rw [same]
    exact known

theorem ready_bits (same : dev'.flags &&& readyFlags = dev.flags &&& readyFlags) {bits : U32}
    (inside : readyFlags &&& bits = bits) : dev'.flags &&& bits = dev.flags &&& bits := by
  rw [← inside, ← BitVec.and_assoc, ← BitVec.and_assoc, same]

theorem timing_stored (ready : dev'.flags &&& readyFlags = dev.flags &&& readyFlags)
    {settings : PcanfdInit} (stored : Stored (dev.timing hw) settings) :
    Stored (dev'.timing hw) settings where
  clock := stored.clock
  user := stored.user
  opened := by
    obtain ⟨busLoad, legacy⟩ := cleanFlags_iff.mpr stored.opened
    refine cleanFlags_iff.mp ⟨fun unready => busLoad ?_, legacy⟩
    exact (ready_bits ready (by decide)).symm.trans unready
  nominal := stored.nominal
  payload fd := by
    obtain ⟨caps, known, able, inRange⟩ := stored.payload fd
    refine ⟨caps, known, ?_, inRange⟩
    exact fun unable => able ((ready_bits ready (by decide)).symm.trans unable)

theorem setting_kept (setting : ChannelSetting) :
    (setting.apply dev).initSettings = dev.initSettings ∧
      (setting.apply dev).sysclockHz = dev.sysclockHz ∧
      (setting.apply dev).flags = dev.flags := by
  cases setting <;> exact ⟨rfl, rfl, rfl⟩

theorem reached_stored (reached : ReachedChannel hw dev) (sound : (dev.timing hw).Sound) :
    Stored (dev.timing hw) dev.initSettings := by
  induction reached with
  | opened moment iface before dev pfdi done =>
    obtain ⟨called, accepted, remembered⟩ := setInitOn_stores done
    have whole := setInitOn_kept moment iface hw done
    have reset := pcanfdDevReset_kept (releaseIf_kept moment iface) before
    have clock := reset.sysclockHz.trans whole.sysclockHz.symm
    obtain ⟨stored, -⟩ := accepted_stored (timing_sound clock sound) accepted remembered
    exact timing_stored (whole.ready.trans reset.ready.symm) stored
  | set dev reached setting ih =>
    obtain ⟨initSettings, sysclockHz, flags⟩ := @setting_kept P dev setting
    have stored := ih (timing_sound sysclockHz.symm sound)
    rw [initSettings]
    exact timing_stored (congrArg (· &&& readyFlags) flags) stored
  | running dev dev' reached initSettings sysclockHz ready ih =>
    have stored := ih (timing_sound sysclockHz.symm sound)
    rw [initSettings]
    exact timing_stored ready stored

end Reached

section Opened
variable {hw : TimingDevice} {dev dev' : Pcandev P}

theorem DefaultOptions.kept {dev dev' : Pcandev P} (kept : OptionsKept dev dev')
    (options : DefaultOptions dev) : DefaultOptions dev' where
  acc11b := kept.acc11b.trans options.acc11b
  acc29b := kept.acc29b.trans options.acc29b
  allowedMsgs := kept.allowedMsgs.trans options.allowedMsgs
  txIframeDelayUs := kept.txIframeDelayUs.trans options.txIframeDelayUs

theorem callDeviceOpen_options (moments : OpenMoments) (settings : PcanfdInit)
    (function : OwnFunction P) (dev : Pcandev P)
    (succeeds : (callDeviceOpen moments settings function.call dev).2 = 0) :
    DefaultOptions (callDeviceOpen moments settings function.call dev).1 := by
  have prepared : DefaultOptions (pcanfdDevOpenInit
      { dev with initTimestamp := moments.before, initSettings := moments.copied }) :=
    ⟨rfl, rfl, rfl, rfl⟩
  obtain ⟨acc11b, acc29b, allowedMsgs, txIframeDelayUs⟩ :=
    prepared.kept (called_kept _ function).2
  unfold callDeviceOpen at succeeds ⊢
  dsimp only at succeeds ⊢
  split
  · dsimp only
    split
    · exact ⟨acc11b, acc29b, allowedMsgs, txIframeDelayUs⟩
    · exact ⟨acc11b, acc29b, allowedMsgs, txIframeDelayUs⟩
  next failed =>
    rw [if_neg failed] at succeeds
    exact absurd succeeds failed

theorem setInitOn_options (moment : DriverMoment P) (iface : PathInterface) {pfdi : PcanfdInit}
    (done : setInitOn (moment.releaseIf iface) moment.functions moment.moments hw dev pfdi =
      some (dev', 0)) : DefaultOptions dev' := by
  unfold setInitOn at done
  dsimp only at done
  split at done
  next failed => exact absurd rfl failed
  next =>
    obtain ⟨result, checked, performed⟩ := Option.map_eq_some_iff.mp done
    cases result with
    | refused err =>
      have zero : err = 0 := congrArg Prod.snd performed
      exact absurd zero (pcanfdDevOpen_refused checked)
    | deviceOpen settings word type listenOnly =>
      have options := callDeviceOpen_options moment.moments settings
        (moment.deviceOpen word type listenOnly) _ (congrArg Prod.snd performed)
      obtain rfl : _ = dev' := congrArg Prod.fst performed
      exact options
    | deviceOpenFd settings =>
      have options := callDeviceOpen_options moment.moments settings
        (moment.deviceOpenFd settings) _ (congrArg Prod.snd performed)
      obtain rfl : _ = dev' := congrArg Prod.fst performed
      exact options

theorem setInitOn_again (moment : DriverMoment P) (iface : PathInterface)
    {settings : PcanfdInit} (sound : (dev.timing hw).Sound)
    (stored : Stored (dev.timing hw) settings)
    (done : setInitOn (moment.releaseIf iface) moment.functions moment.moments hw dev settings =
      some (dev', 0)) : dev'.initSettings = readBack (dev.timing hw) settings := by
  have reset := pcanfdDevReset_kept (releaseIf_kept moment iface) dev
  have sound' := timing_sound reset.sysclockHz sound
  have stored' := timing_stored reset.ready stored
  obtain ⟨called, accepted, remembered⟩ := setInitOn_stores done
  rw [setInit_stored sound' stored'] at accepted
  split at accepted
  · obtain rfl := Option.some.inj accepted
    cases remembered
  · have kept := checked_settings accepted
    rw [readBack_opened stored', remembered] at kept
    exact Option.some.inj kept

end Opened

section Reset
variable {others : System (DriverState P)} {iface : PathInterface} {hw : TimingDevice}
  {env : Nat → DriverMoment P} {b : Pcanbasic (DriverState P)} {channel : U16}
  {pchan : PcanbasicChannel}

theorem getChannel_found {S : Type} {sys : System S} {b : Pcanbasic S}
    (opened : (pcanbasicGetChannel sys b channel true).2 = some pchan) :
    pcanbasicGetChannel sys b channel true = (b, some pchan) := by
  refine Prod.ext ?_ opened
  unfold pcanbasicGetChannel at opened ⊢
  split
  · rfl
  next unstarted =>
    rw [if_neg unstarted] at opened
    cases opened

theorem resetSettings_eq (settings : PcanfdInit) (listenOnly : U8) :
    (if listenOnly ≠ 0 then { settings with flags := settings.flags ||| pcanfdInitListenOnly }
      else settings).masked = resetSettings settings listenOnly := by
  unfold resetSettings PcanfdInit.masked
  split
  · rfl
  · rw [BitVec.ofNat_eq_ofNat, BitVec.or_zero]

theorem pcanfdSetInit_done {s : DriverState P} {fd : Int} {pfdi : PcanfdInit}
    (accepted : ¬(pcanfdSetInit (driverSystem others iface hw env) s fd pfdi).2 < 0) :
    setInitOn ((env s.time).releaseIf iface) (env s.time).functions (env s.time).moments hw s.d.dev
        pfdi.masked =
      some ((pcanfdSetInit (driverSystem others iface hw env) s fd pfdi).1.d.dev, 0) := by
  unfold pcanfdSetInit driverSystem at accepted ⊢
  unfold PcanfdInit.masked
  dsimp only at accepted ⊢
  generalize setInitOn ((env s.time).releaseIf iface) (env s.time).functions
    (env s.time).moments hw s.d.dev { pfdi with flags := pfdi.flags &&& ofdPcanfdMask } = done
    at accepted ⊢
  cases done with
  | none =>
    have negative : -(einval.natAbs : Int) < 0 := by decide
    exact absurd negative accepted
  | some done =>
    obtain ⟨dev, err⟩ := done
    dsimp only at accepted ⊢
    obtain rfl : err = 0 := by omega
    rfl

theorem pcanbasicReset_succeeds
    (opened : (pcanbasicGetChannel (driverSystem others iface hw env) b channel true).2 =
      some pchan)
    (succeeds : (pcanbasicReset (driverSystem others iface hw env) b channel).status =
      pcanErrorOk) :
    ∃ (moment : DriverMoment P) (dev : Pcandev P), DeviceKept b.system.d.dev dev ∧
      setInitOn (moment.releaseIf iface) moment.functions moment.moments hw dev
          (resetSettings b.system.d.dev.initSettings pchan.listenOnly) =
        some ((pcanbasicReset (driverSystem others iface hw env) b channel).b.system.d.dev, 0) := by
  have found := getChannel_found opened
  unfold pcanbasicReset at succeeds ⊢
  rw [found] at succeeds ⊢
  dsimp only at succeeds ⊢
  have closed := closeFile_kept others iface hw env b.system pchan.fd
  have read : ((driverSystem others iface hw env).getInit b.system pchan.fd) =
      (b.system, b.system.d.dev.initSettings) := rfl
  rw [read] at succeeds ⊢
  dsimp only at succeeds ⊢
  have reopened := closed.trans (pcanfdOpen_kept others iface hw env
    ((driverSystem others iface hw env).closeFile b.system pchan.fd) pchan.pinfo.path
    ofdNonblocking [])
  generalize pcanfdOpen (driverSystem others iface hw env)
    ((driverSystem others iface hw env).closeFile b.system pchan.fd) pchan.pinfo.path
    ofdNonblocking [] = again at succeeds reopened ⊢
  split at succeeds
  next => exact absurd succeeds (by decide : pcanErrorIlloperation ≠ pcanErrorOk)
  next well =>
    rw [if_neg well]
    dsimp only at succeeds ⊢
    have settings := resetSettings_eq b.system.d.dev.initSettings pchan.listenOnly
    generalize (if pchan.listenOnly ≠ 0 then
      { b.system.d.dev.initSettings with
        flags := b.system.d.dev.initSettings.flags ||| pcanfdInitListenOnly }
      else b.system.d.dev.initSettings) = pfdinit at succeeds settings ⊢
    split at succeeds
    next => exact absurd succeeds (by decide : pcanErrorIlloperation ≠ pcanErrorOk)
    next accepted =>
      refine ⟨env again.1.time, again.1.d.dev, reopened, ?_⟩
      rw [← settings]
      exact pcanfdSetInit_done accepted

theorem setValue_resets {S : Type} {sys : System S} {b : Pcanbasic S} {value : U8}
    (opened : (pcanbasicGetChannel sys b channel true).2 = some pchan)
    (succeeds : (pcanbasicSetValue sys b channel .listenOnly (some value)).status = pcanErrorOk) :
    (pcanbasicGetChannel sys (b.write channel (PreInit.listenOnly.set value)) channel true).2 =
        some { pchan with listenOnly := value } ∧
      pcanbasicSetValue sys b channel .listenOnly (some value) =
        pcanbasicReset sys (b.write channel (PreInit.listenOnly.set value)) channel := by
  have started : b.initialized = true := by
    by_contra unstarted
    unfold pcanbasicGetChannel at opened
    rw [if_neg unstarted] at opened
    cases opened
  have entry := opened
  unfold pcanbasicGetChannel at entry
  rw [if_pos started] at entry
  obtain ⟨found, accepted⟩ := Option.filter_eq_some_iff.mp entry
  have descriptor : -1 < pchan.fd := of_decide_eq_true accepted
  have any : pcanbasicGetChannel sys b channel false = (b, some pchan) := by
    unfold pcanbasicGetChannel
    rw [if_pos started, found]
    rfl
  constructor
  · have keeps : ∀ item : PcanbasicChannel, item.channel = channel →
        (PreInit.listenOnly.set value item).channel = channel := fun _ named => named
    unfold pcanbasicGetChannel
    have still : (b.write channel (PreInit.listenOnly.set value)).initialized = true := started
    rw [if_pos still, Pcanbasic.write, find_modify keeps, if_pos rfl, found]
    exact if_pos (decide_eq_true descriptor)
  · unfold pcanbasicSetValue at succeeds ⊢
    dsimp only at succeeds ⊢
    split at succeeds
    next => exact absurd succeeds (by decide : pcanErrorIllparamval ≠ pcanErrorOk)
    next valid =>
      rw [if_neg valid, any]
      exact if_pos ⟨rfl, descriptor⟩

theorem ResetCall.resets {S : Type} {sys : System S} {b : Pcanbasic S} {listenOnly : U8}
    {result : BasicResult S} (call : ResetCall sys b channel listenOnly result)
    (succeeds : result.status = pcanErrorOk) :
    ∃ (written : Pcanbasic S) (pchan : PcanbasicChannel), written.system = b.system ∧
      (pcanbasicGetChannel sys written channel true).2 = some pchan ∧
      pchan.listenOnly = listenOnly ∧ pcanbasicReset sys written channel = result := by
  cases call with
  | reset pchan opened parameter called => exact ⟨b, pchan, rfl, opened, parameter, called⟩
  | setValue pchan opened called =>
    obtain ⟨found, same⟩ := setValue_resets opened (called ▸ succeeds)
    exact ⟨b.write channel (PreInit.listenOnly.set listenOnly), { pchan with listenOnly }, rfl, found,
      rfl, same.symm.trans called⟩

theorem mode_iff (listenOnly : U8) (flag : U32) :
    ((listenOnly ≠ 0 ∨ flag ≠ 0) ↔ listenOnly = pcanParameterOn) ↔
      (listenOnly = pcanParameterOn ∨ listenOnly = 0 ∧ flag = 0) := by
  have nonzero : pcanParameterOn ≠ 0 := by decide
  by_cases on : listenOnly = pcanParameterOn
  · exact ⟨fun _ => .inl on, fun _ => ⟨fun _ => on, fun _ => .inl (on ▸ nonzero)⟩⟩
  · constructor
    · intro same
      have off := not_or.mp (mt same.mp on)
      exact .inr ⟨not_not.mp off.1, not_not.mp off.2⟩
    · intro either
      obtain ⟨off, clear⟩ := either.resolve_left on
      exact ⟨fun set => absurd set (not_or.mpr ⟨not_not.mpr off, not_not.mpr clear⟩),
        fun same => absurd same on⟩

theorem resetFrame_iff {dev mid dev' : Pcandev P} (moment : DriverMoment P)
    (sound : (dev.timing hw).Sound) (stored : Stored (dev.timing hw) dev.initSettings)
    (kept : DeviceKept dev mid) {listenOnly : U8}
    (done : setInitOn (moment.releaseIf iface) moment.functions moment.moments hw mid
      (resetSettings dev.initSettings listenOnly) = some (dev', 0)) :
    ResetFrame listenOnly dev dev' ↔ Resettable listenOnly dev := by
  have sound' := timing_sound kept.sysclockHz sound
  have stored' := timing_stored kept.ready (stored.reset listenOnly)
  have settings := setInitOn_again moment iface sound' stored' done
  have options := setInitOn_options moment iface done
  have filter := (setInitOn_kept moment iface hw done).filter.trans kept.filter
  have nominal : quantaProduct dev'.initSettings.nominal =
      quantaProduct dev.initSettings.nominal ↔ dev.initSettings.nominal.tseg1 ≠ 0 := by
    rw [settings]
    exact givenTiming_product_iff sound.caps _ stored.nominal
  have data : WantsFd dev.initSettings → (quantaProduct dev'.initSettings.data =
      quantaProduct dev.initSettings.data ↔ dev.initSettings.data.tseg1 ≠ 0) := by
    intro fd
    have again := (resetSettings_fd dev.initSettings listenOnly).mpr fd
    obtain ⟨caps, known, -, inRange⟩ := stored'.payload again
    rw [settings, readBack_data known again]
    exact givenTiming_product_iff (sound'.dataCaps caps known) _ inRange
  have mode : (dev'.initSettings.flags &&& pcanfdInitListenOnly ≠ 0 ↔
      listenOnly = pcanParameterOn) ↔ (listenOnly = pcanParameterOn ∨
        listenOnly = 0 ∧ dev.initSettings.flags &&& pcanfdInitListenOnly = 0) := by
    rw [settings]
    have flag := resetSettings_listenOnly dev.initSettings listenOnly
    exact (iff_congr flag Iff.rfl).trans (mode_iff listenOnly _)
  constructor
  · intro frame
    exact {
      nominal := nominal.mp frame.nominal
      data := fun fd => (data fd).mp (frame.data fd)
      options := {
        acc11b := frame.options.acc11b.symm.trans options.acc11b
        acc29b := frame.options.acc29b.symm.trans options.acc29b
        allowedMsgs := frame.options.allowedMsgs.symm.trans options.allowedMsgs
        txIframeDelayUs := frame.options.txIframeDelayUs.symm.trans options.txIframeDelayUs }
      mode := mode.mp frame.listenOnly }
  · intro resettable
    exact {
      clock := by rw [settings]; rfl
      fd := by
        rw [settings]
        exact resetSettings_fd dev.initSettings listenOnly
      nominal := nominal.mpr resettable.nominal
      data := fun fd => (data fd).mpr (resettable.data fd)
      filter := filter
      options := {
        acc11b := options.acc11b.trans resettable.options.acc11b.symm
        acc29b := options.acc29b.trans resettable.options.acc29b.symm
        allowedMsgs := options.allowedMsgs.trans resettable.options.allowedMsgs.symm
        txIframeDelayUs := options.txIframeDelayUs.trans resettable.options.txIframeDelayUs.symm }
      listenOnly := mode.mpr resettable.mode }

/-- A reset that succeeds only clears the queues and sets the mode exactly if no option has
    been set, the mode is not to be left and no first segment is empty. -/
theorem basic_reset_iff (sound : (b.system.d.dev.timing hw).Sound)
    (reached : ReachedChannel hw b.system.d.dev) {listenOnly : U8}
    {result : BasicResult (DriverState P)}
    (call : ResetCall (driverSystem others iface hw env) b channel listenOnly result)
    (succeeds : result.status = pcanErrorOk) :
    ResetFrame listenOnly b.system.d.dev result.b.system.d.dev ↔
      Resettable listenOnly b.system.d.dev := by
  obtain ⟨written, pchan, system, opened, rfl, rfl⟩ := call.resets succeeds
  obtain ⟨moment, mid, kept, done⟩ := pcanbasicReset_succeeds opened succeeds
  rw [system] at kept done
  exact resetFrame_iff moment sound (reached_stored reached sound) kept done

end Reset

section Samples

def idleFunction : OwnFunction Unit where
  call dev := (dev, 0)
  device dev := .refl dev
  options _ := ⟨rfl, rfl, rfl, rfl⟩

def idleMoment : DriverMoment Unit where
  found := true
  fd := 3
  txqsize := 4
  rxqsize := 4
  wMsg := true
  rMsg := true
  checked := default
  moments := epoch
  interface := idleFunction
  probe := idleFunction
  release := idleFunction
  reqIrq := idleFunction
  freeIrq := idleFunction
  wait := idleFunction
  deviceRelease := idleFunction
  deviceOpen _ _ _ := idleFunction
  deviceOpenFd _ := idleFunction

def bareInterface : PathInterface where
  hasOpen := false
  hasRelease := false
  hasReqIrq := false
  hasFreeIrq := false
  hasDeviceRelease := false
  dongle := false
  releases := both_unset
  freesIrq := both_unset
  opensDongle := both_unset

/-- 500 kbit/s and 2 Mbit/s. -/
def givenRates (flags : U32) : PcanfdInit where
  flags := flags
  clockHz := 80 * mhz
  nominal := { PcanBittiming.zero with brp := 2, tseg1 := 63, tseg2 := 16, sjw := 16 }
  data := { PcanBittiming.zero with brp := 2, tseg1 := 15, tseg2 := 4, sjw := 4 }

def ratedDevice : TimingDevice := Controller.ucan.device pcanDevFdRdy (givenRates 0)

def ratedSystem : System (DriverState Unit) :=
  driverSystem ⟨fun s _ _ => (s, 0), fun s _ => s, fun s _ => (s, default), fun s _ _ => (s, 0),
    fun s _ => s, fun s _ _ => (s, 0), fun s _ => (s, .error 11), fun _ => [], fun _ info => info,
    fun _ => false, fun s => (s, true)⟩ bareInterface ratedDevice fun _ => idleMoment

def ratedOpening (flags : U32) : Option (Pcandev Unit × Int) :=
  setInitOn (idleMoment.releaseIf bareInterface) idleMoment.functions idleMoment.moments ratedDevice
    (openedChannel () 4 4 pcanDevFdRdy) (givenRates (pcanfdInitFd ||| flags))

def ratedChannel (flags : U32) : Pcandev Unit :=
  ((ratedOpening flags).map Prod.fst).getD (openedChannel () 4 4 pcanDevFdRdy)

theorem opening_done {opening : Option (Pcandev Unit × Int)} {dev : Pcandev Unit}
    (done : opening.map Prod.snd = some 0) : opening = some ((opening.map Prod.fst).getD dev, 0) := by
  obtain ⟨⟨dev', err⟩, rfl, rfl⟩ := Option.map_eq_some_iff.mp done
  rfl

theorem ratedChannel_reached (flags : U32) (done : (ratedOpening flags).map Prod.snd = some 0) :
    ReachedChannel ratedDevice (ratedChannel flags) :=
  .opened idleMoment bareInterface _ _ _ (opening_done done)

theorem ratedDevice_sound (dev : Pcandev Unit) (sysclock : dev.sysclockHz = 80 * mhz) :
    (dev.timing ratedDevice).Sound := by
  have sound : ratedDevice.Sound := Controller.ucan.device_sound _ _
  refine ⟨sound.caps, sound.dataCaps, sound.clocks, ?_⟩
  unfold Pcandev.timing
  rw [sysclock]
  exact sound.sysclock

/-- The channel of an application that has it open. -/
def ratedBasic (dev : Pcandev Unit) : Pcanbasic (DriverState Unit) :=
  ⟨true, [], [{ newChannel pcanUsbbus1 with fd := 3 }], ⟨0, ⟨dev, true, true, 0, 1⟩⟩⟩

/-- A reset of the channel while its `listen_only` is off. -/
def ratedReset (dev : Pcandev Unit) : BasicResult (DriverState Unit) :=
  pcanbasicReset ratedSystem (ratedBasic dev) pcanUsbbus1

theorem plain_channel_resets :
    ResetFrame 0 (ratedChannel 0) (ratedReset (ratedChannel 0)).b.system.d.dev := by
  have opened : (ratedOpening 0).map Prod.snd = some 0 := by decide +kernel
  have resets (dev : Pcandev Unit) (sound : (dev.timing ratedDevice).Sound)
      (reached : ReachedChannel ratedDevice dev)
      (succeeds : (ratedReset dev).status = pcanErrorOk) :
      ResetFrame 0 dev (ratedReset dev).b.system.d.dev ↔ Resettable 0 dev :=
    @basic_reset_iff _ _ bareInterface ratedDevice _ (ratedBasic dev) pcanUsbbus1 sound reached 0 _
      (.reset { newChannel pcanUsbbus1 with fd := 3 } rfl rfl rfl) succeeds
  refine (resets (ratedChannel 0) (ratedDevice_sound _ (by decide +kernel))
    (ratedChannel_reached 0 opened) (by decide +kernel)).mpr ⟨by decide +kernel, ?_, ?_, ?_⟩
  · exact fun _ => by decide +kernel
  · exact setInitOn_options idleMoment bareInterface (opening_done opened)
  · exact .inr ⟨rfl, by decide +kernel⟩

/-- An inter-frame delay is lost, and a channel that was opened to listen only listens on. -/
theorem reset_loses_settings :
    (¬∀ dev : Pcandev Unit, ReachedChannel ratedDevice dev →
      (ratedReset dev).status = pcanErrorOk →
      OptionsKept dev (ratedReset dev).b.system.d.dev) ∧
    ¬∀ dev : Pcandev Unit, ReachedChannel ratedDevice dev →
      (ratedReset dev).status = pcanErrorOk →
      ((ratedReset dev).b.system.d.dev.initSettings.flags &&& pcanfdInitListenOnly ≠ 0 ↔
        (0 : U8) = pcanParameterOn) := by
  constructor
  · intro all
    have kept := all (ChannelSetting.apply (ratedChannel 0) (.iframeDelay 100))
      (.set _ (ratedChannel_reached 0 (by decide +kernel)) _) (by decide +kernel)
    have delay := kept.txIframeDelayUs
    exact absurd delay (by decide +kernel)
  · intro all
    have mode := all (ratedChannel pcanfdInitListenOnly)
      (ratedChannel_reached _ (by decide +kernel)) (by decide +kernel)
    exact absurd (mode.mp (by decide +kernel)) (by decide)

end Samples

end PcanDriver

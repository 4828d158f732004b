import PcanDriver.DeviceOpen
import PcanDriver.OpenSpec

/-!
Settings given back as they were read: what `pcanfd_ioctl_set_init` makes of the settings
that `pcanfd_ioctl_get_init` returns after it. They name a prescaler, so the second call
trusts it and computes the rate where the first one may have searched for it.
-/
namespace PcanDriver
variable {P : Type}

def pcanfdIoctlGetInit (dev : Pcandev P) : PcanfdInit := dev.initSettings

structure Quanta where
  brp : U32
  tseg1 : U32
  tseg2 : U32
  sjw : U32
deriving Repr, DecidableEq

def PcanBittiming.quanta (bt : PcanBittiming) : Quanta := ⟨bt.brp, bt.tseg1, bt.tseg2, bt.sjw⟩

structure Programmed where
  clockHz : U32
  fd : Bool
  listenOnly : Bool
  nominal : Quanta
  data : Option Quanta
  word : Option (U16 × U8 × U8)
deriving Repr, DecidableEq

def PcanfdInit.programmed (settings : PcanfdInit) (word : Option (U16 × U8 × U8)) : Programmed where
  clockHz := settings.clockHz
  fd := WantsFd settings
  listenOnly := settings.flags &&& pcanfdInitListenOnly ≠ 0
  nominal := settings.nominal.quanta
  data := if WantsFd settings then some settings.data.quanta else none
  word := word

def OpenResult.programmed : OpenResult → Option Programmed
  | .refused _ => none
  | .deviceOpen settings word ucCANMsgType ucListenOnly =>
    some (settings.programmed (some (word, ucCANMsgType, ucListenOnly)))
  | .deviceOpenFd settings => some (settings.programmed none)

/-- The settings that are read back are accepted and programmed as before, and read back
    once more they do not change at all. -/
def SurvivesReadBack (dev : TimingDevice) (called : OpenResult) (settings : PcanfdInit) : Prop :=
  ∃ again, pcanfdIoctlSetInit dev settings = some again ∧
    again.programmed = called.programmed ∧
    ∃ settings', again.settings = some settings' ∧
      ∃ third, pcanfdIoctlSetInit dev settings' = some third ∧ third.settings = some settings'

/-- No first segment is empty, and for CAN FD the data rate that the settings really mean
    is at least the nominal one that they really mean. -/
def ReadsBack (settings : PcanfdInit) : Prop :=
  settings.nominal.tseg1 ≠ 0 ∧
    (WantsFd settings → settings.data.tseg1 ≠ 0 ∧
      settings.clockHz / quantaProduct settings.nominal ≤
        settings.clockHz / quantaProduct settings.data)

instance (settings : PcanfdInit) : Decidable (ReadsBack settings) :=
  inferInstanceAs (Decidable (_ ∧ _))

section Timing
variable {caps : PcanfdBittimingRange} {clk : U32} {bt timing : PcanBittiming}

/-- What `pcan_bittiming_normalize` makes of a timing with a prescaler. -/
def givenTiming (caps : PcanfdBittimingRange) (clk : U32) (bt : PcanBittiming) : PcanBittiming :=
  { ratedTiming (clampTiming bt caps) clk with
    bitrateReal := clk / quantaProduct (clampTiming bt caps) }

theorem normalize_given_eq (regular : caps.Regular) (positive : clk ≠ 0) (brp : bt.brp ≠ 0) :
    pcanBittimingNormalize bt clk caps = some (0, givenTiming caps clk bt) := by
  obtain ⟨clampBrp, clampTseg1, clampTseg2⟩ := clampTiming_toNat regular bt
  have brpMax := regular.brpMax
  have segments := regular.segments
  have sjwMax := regular.sjwMax
  have nonzero : quantaProduct (clampTiming bt caps) ≠ 0 :=
    quantaProduct_ne_zero (by omega) (by omega) (by omega)
  have real : divU32 clk ((ratedTiming (clampTiming bt caps) clk).brp *
      ((ratedTiming (clampTiming bt caps) clk).tseg1 +
        (ratedTiming (clampTiming bt caps) clk).tseg2 + 1)) =
      some (clk / quantaProduct (clampTiming bt caps)) := realRate_eq nonzero
  simp only [pcanBittimingNormalize, if_pos brp, bittimingToBitrate_eq positive nonzero,
    Option.bind_eq_bind, Option.bind_some, ne_eq, not_true_eq_false, if_false, real,
    Option.pure_def]
  rfl

structure InRange (caps : PcanfdBittimingRange) (bt : PcanBittiming) : Prop where
  brp : 1 ≤ bt.brp.toNat ∧ bt.brp.toNat ≤ caps.brpMax.toNat
  tseg1 : bt.tseg1.toNat ≤ caps.tseg1Max.toNat
  tseg2 : bt.tseg2.toNat ≤ caps.tseg2Max.toNat
  complete : bt.tseg1 ≠ 0 → bt.tseg2 ≠ 0 ∧ bt.sjw ≠ 0

theorem sanitizedSjw_ne_zero (regular : caps.Regular) {sjw tseg2 : U32} (second : tseg2 ≠ 0) :
    sanitizedSjw caps sjw tseg2 ≠ 0 := by
  have sjwMax := regular.sjwMax
  unfold sanitizedSjw
  split
  next => decide
  next given =>
    rw [not_or] at given
    dsimp only
    split
    next =>
      split
      next => exact second
      next => exact given.2
    next =>
      split
      next => exact second
      next => exact given.1

theorem Normalized.inRange (regular : caps.Regular) (normalized : Normalized caps clk bt timing) :
    InRange caps timing := by
  have brpMax := regular.brpMax
  have segments := regular.segments
  have sjwMax := regular.sjwMax
  cases normalized with
  | given brp real =>
    obtain ⟨clampBrp, clampTseg1, clampTseg2⟩ := clampTiming_toNat regular bt
    refine ⟨?_, ?_, ?_, fun _ => ⟨?_, ?_⟩⟩
    · show 1 ≤ (clampTiming bt caps).brp.toNat ∧ (clampTiming bt caps).brp.toNat ≤ _
      omega
    · show (clampTiming bt caps).tseg1.toNat ≤ _
      omega
    · show (clampTiming bt caps).tseg2.toNat ≤ _
      omega
    · intro zero
      have : (clampTiming bt caps).tseg2.toNat = 0 := congrArg BitVec.toNat zero
      omega
    · show (if (clampTiming bt caps).sjw = 0 then 1 else (clampTiming bt caps).sjw) ≠ 0
      split
      next => decide
      next given => exact given
  | searched brp accepted n timing found real =>
    obtain ⟨_, asked, _⟩ := accepted.resolve_left fun given => given brp
    obtain ⟨range, tseg1, tseg2⟩ := found.bounds regular asked
    refine ⟨range, tseg1, tseg2, fun nonempty => ?_⟩
    have second : timing.tseg2 ≠ 0 := by
      by_cases supplied : ∃ m, SplitCounter caps clk bt.bitrate (samplePointWanted bt) m
      · obtain ⟨m, supplies⟩ := supplied
        obtain ⟨_, _, placed, _⟩ := found.supplied regular asked supplies
        intro zero
        rw [zero] at placed
        exact absurd placed.1 (by decide)
      · exact absurd (found.empty fun m supplies => supplied ⟨m, supplies⟩).1 nonempty
    refine ⟨second, ?_⟩
    show timing.sjw ≠ 0
    rw [found.sjw]
    exact sanitizedSjw_ne_zero regular second

theorem clampTiming_inRange (regular : caps.Regular) (inRange : InRange caps bt)
    (nonempty : bt.tseg1 ≠ 0) : clampTiming bt caps = bt := by
  obtain ⟨clampBrp, clampTseg1, clampTseg2⟩ := clampTiming_toNat regular bt
  obtain ⟨prescales, firstMax, secondMax, complete⟩ := inRange
  have first : bt.tseg1.toNat ≠ 0 := fun zero => nonempty (BitVec.eq_of_toNat_eq zero)
  have second : bt.tseg2.toNat ≠ 0 := fun zero =>
    (complete nonempty).1 (BitVec.eq_of_toNat_eq zero)
  have brp : (clampTiming bt caps).brp = bt.brp := BitVec.eq_of_toNat_eq (by omega)
  have tseg1 : (clampTiming bt caps).tseg1 = bt.tseg1 := BitVec.eq_of_toNat_eq (by omega)
  have tseg2 : (clampTiming bt caps).tseg2 = bt.tseg2 := BitVec.eq_of_toNat_eq (by omega)
  simp only [clampTiming] at brp tseg1 tseg2 ⊢
  rw [brp, tseg1, tseg2]

theorem givenTiming_first (regular : caps.Regular) (clk : U32) (bt : PcanBittiming) :
    (givenTiming caps clk bt).tseg1 ≠ 0 := by
  obtain ⟨_, clampTseg1, _⟩ := clampTiming_toNat regular bt
  intro zero
  have : (clampTiming bt caps).tseg1.toNat = 0 := congrArg BitVec.toNat zero
  omega

theorem givenTiming_givenTiming (regular : caps.Regular) (brp : bt.brp ≠ 0) :
    givenTiming caps clk (givenTiming caps clk bt) = givenTiming caps clk bt := by
  have inRange : InRange caps (givenTiming caps clk bt) :=
    (Normalized.given brp (clk / quantaProduct (clampTiming bt caps))).inRange regular
  have first := givenTiming_first regular clk bt
  have kept := clampTiming_inRange regular inRange first
  have sjw : (if (givenTiming caps clk bt).sjw = 0 then 1 else (givenTiming caps clk bt).sjw) =
      (givenTiming caps clk bt).sjw := if_neg (inRange.complete first).2
  conv_lhs => rw [givenTiming, kept, ratedTiming, sjw]
  rfl

theorem givenTiming_quanta (regular : caps.Regular) (clk : U32) (inRange : InRange caps bt)
    (nonempty : bt.tseg1 ≠ 0) : (givenTiming caps clk bt).quanta = bt.quanta := by
  have sjw : (if bt.sjw = 0 then 1 else bt.sjw) = bt.sjw := if_neg (inRange.complete nonempty).2
  rw [givenTiming, clampTiming_inRange regular inRange nonempty, ratedTiming, sjw]
  rfl

theorem givenTiming_quanta_iff (regular : caps.Regular) (clk : U32) (inRange : InRange caps bt) :
    (givenTiming caps clk bt).quanta = bt.quanta ↔ bt.tseg1 ≠ 0 := by
  constructor
  · intro same zero
    exact givenTiming_first regular clk bt ((congrArg Quanta.tseg1 same).trans zero)
  · exact givenTiming_quanta regular clk inRange

theorem givenTiming_rate (caps : PcanfdBittimingRange) (clk : U32) (bt : PcanBittiming) :
    (givenTiming caps clk bt).bitrate = clk / quantaProduct (givenTiming caps clk bt) := rfl

theorem quantaProduct_congr {bt bt' : PcanBittiming} (same : bt.quanta = bt'.quanta) :
    quantaProduct bt = quantaProduct bt' := by
  have brp : bt.brp = bt'.brp := congrArg Quanta.brp same
  have tseg1 : bt.tseg1 = bt'.tseg1 := congrArg Quanta.tseg1 same
  have tseg2 : bt.tseg2 = bt'.tseg2 := congrArg Quanta.tseg2 same
  rw [quantaProduct, quantaProduct, brp, tseg1, tseg2]

end Timing

section Stored
variable {dev : TimingDevice} {pfdi settings : PcanfdInit}

theorem userSettings_user (pfdi : PcanfdInit) :
    (userSettings pfdi).flags &&& pcanfdInitUser ≠ 0 := by
  show (pfdi.flags ||| pcanfdInitUser) &&& pcanfdInitUser ≠ 0
  rw [Masks.or_and_self]
  decide

theorem userSettings_fd (pfdi : PcanfdInit) : WantsFd (userSettings pfdi) ↔ WantsFd pfdi := by
  have same : (pfdi.flags ||| pcanfdInitUser) &&& pcanfdInitFd = pfdi.flags &&& pcanfdInitFd :=
    Masks.or_and_of_disjoint _ (by decide)
  unfold WantsFd
  rw [← same]
  rfl

theorem sanitizedFlags_idempotent (dev : TimingDevice) (flags : U32) :
    sanitizedFlags dev (sanitizedFlags dev flags) = sanitizedFlags dev flags := by
  unfold sanitizedFlags
  split
  · exact Masks.andNot_andNot flags _
  · rfl

/-- What `__pcanfd_dev_open` makes of the settings before it calls the device. -/
def openedSettings (dev : TimingDevice) (pfdi : PcanfdInit) : PcanfdInit :=
  if pfdi.clockHz = 8 * mhz then
    { pfdi with
      flags := sanitizedFlags dev pfdi.flags &&& ~~~(pcanfdInitFd ||| pcanfdInitFdNonIso)
      data := PcanBittiming.zero }
  else { pfdi with flags := sanitizedFlags dev pfdi.flags }

structure Stored (dev : TimingDevice) (settings : PcanfdInit) : Prop where
  clock : settings.clockHz ∈ dev.clocksList ∨ settings.clockHz = 8 * mhz
  user : settings.flags &&& pcanfdInitUser = 0
  opened : openedSettings dev settings = settings
  nominal : InRange dev.bittimingCaps settings.nominal
  payload : WantsFd settings → ∃ caps, dev.dbittimingCaps = some caps ∧
    dev.flags &&& pcanDevFdRdy ≠ 0 ∧ InRange caps settings.data

theorem openedSettings_idempotent (dev : TimingDevice) (pfdi : PcanfdInit) :
    openedSettings dev (openedSettings dev pfdi) = openedSettings dev pfdi := by
  have legacyFlags : sanitizedFlags dev
      (sanitizedFlags dev pfdi.flags &&& ~~~(pcanfdInitFd ||| pcanfdInitFdNonIso)) =
      sanitizedFlags dev pfdi.flags &&& ~~~(pcanfdInitFd ||| pcanfdInitFdNonIso) := by
    have idempotent := sanitizedFlags_idempotent dev pfdi.flags
    unfold sanitizedFlags at idempotent ⊢
    split
    next unready =>
      rw [if_pos unready, if_pos unready] at idempotent
      rw [Masks.andNot_swap, idempotent]
    next => rfl
  unfold openedSettings
  by_cases legacy : pfdi.clockHz = 8 * mhz
  · simp only [legacy, if_true, legacyFlags, Masks.andNot_andNot]
  · simp only [legacy, if_false, sanitizedFlags_idempotent]

theorem checked_eq (dev : TimingDevice) (pfdi : PcanfdInit) :
    pcanfdDevOpenChecked dev pfdi =
      if pfdi.clockHz = 8 * mhz then
        (legacyWord dev pfdi.nominal).map fun word => .deviceOpen (openedSettings dev pfdi) word
          (if (openedSettings dev pfdi).flags &&& pcanfdInitStdMsgOnly ≠ 0 then 0
            else msgtypeExtended)
          (if (openedSettings dev pfdi).flags &&& pcanfdInitListenOnly ≠ 0 then 1 else 0)
      else some (.deviceOpenFd (openedSettings dev pfdi)) := by
  unfold pcanfdDevOpenChecked openedSettings
  by_cases legacy : pfdi.clockHz = 8 * mhz
  · simp only [legacy, if_true]
    cases legacyWord dev pfdi.nominal <;> rfl
  · simp only [legacy, if_false]
    rfl

theorem openedSettings_clock (dev : TimingDevice) (pfdi : PcanfdInit) :
    (openedSettings dev pfdi).clockHz = pfdi.clockHz := by
  unfold openedSettings
  split <;> rfl

theorem openedSettings_nominal (dev : TimingDevice) (pfdi : PcanfdInit) :
    (openedSettings dev pfdi).nominal = pfdi.nominal := by
  unfold openedSettings
  split <;> rfl

theorem checked_opened (dev : TimingDevice) (pfdi : PcanfdInit) :
    pcanfdDevOpenChecked dev (openedSettings dev pfdi) = pcanfdDevOpenChecked dev pfdi := by
  rw [checked_eq, checked_eq, openedSettings_idempotent, openedSettings_clock,
    openedSettings_nominal]

theorem checked_settings {called : OpenResult}
    (opens : pcanfdDevOpenChecked dev pfdi = some called) :
    called.settings = some (openedSettings dev pfdi) := by
  rw [checked_eq] at opens
  split at opens
  next =>
    obtain ⟨word, _, same⟩ := Option.map_eq_some_iff.mp opens
    rw [← same]
    rfl
  next =>
    cases opens
    rfl

theorem sanitizedFlags_and (dev : TimingDevice) (flags : U32) {bits : U32}
    (disjoint : pcanfdInitBusLoadInfo &&& bits = 0) :
    sanitizedFlags dev flags &&& bits = flags &&& bits := by
  unfold sanitizedFlags
  split
  · exact Masks.andNot_and_of_disjoint flags disjoint
  · rfl

theorem openedSettings_fd (dev : TimingDevice) (pfdi : PcanfdInit) :
    WantsFd (openedSettings dev pfdi) ↔ WantsFd pfdi ∧ pfdi.clockHz ≠ 8 * mhz := by
  have fd := @sanitizedFlags_and dev pfdi.flags pcanfdInitFd (by decide)
  unfold WantsFd openedSettings
  by_cases legacy : pfdi.clockHz = 8 * mhz
  · simp only [legacy, if_true, Masks.andNot_or_and_left, ne_eq, not_true_eq_false, and_false]
  · simp only [legacy, if_false, fd, ne_eq, not_false_eq_true, and_true]

theorem openedSettings_data (newer : pfdi.clockHz ≠ 8 * mhz) :
    (openedSettings dev pfdi).data = pfdi.data := by
  unfold openedSettings
  rw [if_neg newer]

theorem openedSettings_user (clear : pfdi.flags &&& pcanfdInitUser = 0) :
    (openedSettings dev pfdi).flags &&& pcanfdInitUser = 0 := by
  have user := @sanitizedFlags_and dev pfdi.flags pcanfdInitUser (by decide)
  unfold openedSettings
  split
  next => exact (Masks.andNot_and_of_disjoint _ (by decide)).trans (user.trans clear)
  next => exact user.trans clear

theorem requestedClock_known (sound : dev.Sound) (pfdi : PcanfdInit) :
    requestedClock dev pfdi ∈ dev.clocksList ∨ requestedClock dev pfdi = 8 * mhz := by
  unfold requestedClock
  split
  next => exact .inl sound.sysclock
  next own =>
    rw [not_or] at own
    by_cases known : pfdi.clockHz ∈ dev.clocksList
    · exact .inl known
    · right
      by_contra newer
      exact own.2 ⟨own.1, known, fun legacy => newer legacy.2⟩

/-- What the first call leaves behind, whatever the user asked for. -/
theorem accepted_stored (sound : dev.Sound) {called : OpenResult}
    (accepted : pcanfdIoctlSetInit dev pfdi = some called)
    (stored : called.settings = some settings) :
    Stored dev settings ∧ pcanfdDevOpenChecked dev settings = some called := by
  rcases open_cases sound (userSettings_user pfdi) with
    ⟨_, traps⟩ | ⟨_, _, err, refused⟩ | ⟨_, nominal, data, opened, checked⟩
  · exact absurd (accepted.symm.trans traps) (by simp)
  · obtain rfl : called = .refused err := Option.some.inj (accepted.symm.trans refused)
    cases stored
  · have opens := checked.symm.trans accepted
    obtain rfl : openedSettings dev (checkedSettings dev (userSettings pfdi) nominal data) =
        settings := Option.some.inj ((checked_settings opens).symm.trans stored)
    refine ⟨⟨?_, ?_, openedSettings_idempotent dev _, ?_, ?_⟩, (checked_opened dev _).trans opens⟩
    · rw [openedSettings_clock]
      exact requestedClock_known sound (userSettings pfdi)
    · exact openedSettings_user (Masks.andNot_and_self _ _)
    · rw [openedSettings_nominal]
      exact opened.arbitration.inRange sound.caps
    · intro fd
      obtain ⟨wanted, newer⟩ := (openedSettings_fd dev _).mp fd
      have asked : WantsFd (userSettings pfdi) := by
        have same : (userSettings pfdi).flags &&& ~~~pcanfdInitUser &&& pcanfdInitFd =
            (userSettings pfdi).flags &&& pcanfdInitFd :=
          Masks.andNot_and_of_disjoint _ (by decide)
        unfold WantsFd at wanted ⊢
        rw [← same]
        exact wanted
      obtain ⟨caps, known, normalized, _⟩ := opened.payload asked
      refine ⟨caps, known, fun unready => opened.admitted ⟨asked, .inr unready⟩, ?_⟩
      rw [openedSettings_data newer]
      exact normalized.inRange (sound.dataCaps caps known)

end Stored

section Again
variable {dev : TimingDevice} {settings : PcanfdInit}

/-- The settings of a second call, once its checks are through. -/
def readBack (dev : TimingDevice) (settings : PcanfdInit) : PcanfdInit :=
  { settings with
    nominal := givenTiming dev.bittimingCaps settings.clockHz settings.nominal
    data := match dev.dbittimingCaps with
      | some caps =>
        if WantsFd settings then givenTiming caps settings.clockHz settings.data else settings.data
      | none => settings.data }

theorem readBack_fd (dev : TimingDevice) (settings : PcanfdInit) :
    WantsFd (readBack dev settings) ↔ WantsFd settings := Iff.rfl

theorem readBack_data {caps : PcanfdBittimingRange} (known : dev.dbittimingCaps = some caps)
    (fd : WantsFd settings) :
    (readBack dev settings).data = givenTiming caps settings.clockHz settings.data := by
  simp only [readBack, known, if_pos fd]

theorem readBack_rate (dev : TimingDevice) (settings : PcanfdInit) :
    (readBack dev settings).nominal.bitrate =
      settings.clockHz / quantaProduct (readBack dev settings).nominal := rfl

theorem readBack_classic (dev : TimingDevice) (classic : ¬WantsFd settings) :
    (readBack dev settings).data = settings.data := by
  unfold readBack
  cases dev.dbittimingCaps with
  | none => rfl
  | some caps => simp only [if_neg classic]

theorem init_ext {a b : PcanfdInit} (flags : a.flags = b.flags) (clock : a.clockHz = b.clockHz)
    (nominal : a.nominal = b.nominal) (data : a.data = b.data) : a = b := by
  cases a; cases b
  simp_all

theorem Stored.clock_ne_zero (sound : dev.Sound) (stored : Stored dev settings) :
    settings.clockHz ≠ 0 := by
  rcases stored.clock with known | legacy
  · exact (sound.clocks _ known).1
  · rw [legacy]
    decide

theorem InRange.brp_ne_zero {caps : PcanfdBittimingRange} {bt : PcanBittiming}
    (inRange : InRange caps bt) : bt.brp ≠ 0 := by
  intro zero
  have := inRange.brp.1
  rw [zero] at this
  exact absurd this (by decide)

theorem defaultTiming_given {timing default : PcanBittiming} (brp : timing.brp ≠ 0) :
    defaultTiming timing default = timing := if_neg fun none => brp none.2

/-- Stored settings come through the checks a second time, unless the data rate now
    turns out to be below the nominal one. -/
theorem setInit_stored (sound : dev.Sound) (stored : Stored dev settings) :
    pcanfdIoctlSetInit dev settings =
      if WantsFd settings ∧
          (readBack dev settings).data.bitrate < (readBack dev settings).nominal.bitrate then
        some (.refused (-einval))
      else pcanfdDevOpenChecked dev (readBack dev settings) := by
  have positive := stored.clock_ne_zero sound
  have brp := stored.nominal.brp_ne_zero
  have kept : ¬ReplacesClock dev (userSettings settings) := by
    rintro ⟨_, unknown, newer⟩
    exact stored.clock.elim unknown fun legacy => newer ⟨brp, legacy⟩
  have admitted : ¬fdRefused dev (userSettings settings) := by
    rintro ⟨fd, refused⟩
    obtain ⟨caps, known, ready, _⟩ := stored.payload ((userSettings_fd settings).mp fd)
    exact refused.elim (fun none => by rw [known] at none; cases none) ready
  have clock : fixClock dev (userSettings settings) = some (0, userSettings settings) := by
    rw [fixClock, if_neg (show (userSettings settings).clockHz ≠ 0 from positive)]
    exact fixInitClock_kept kept positive
  have nominal : setupNominal dev (userSettings settings) =
      some (0, { userSettings settings with nominal := (readBack dev settings).nominal }) := by
    unfold setupNominal
    rw [defaultTiming_given (show (userSettings settings).nominal.brp ≠ 0 from brp)]
    rw [show pcanBittimingNormalize (userSettings settings).nominal (userSettings settings).clockHz
      dev.bittimingCaps = _ from normalize_given_eq sound.caps positive brp]
    rfl
  have clear : (userSettings settings).flags &&& ~~~pcanfdInitUser = settings.flags :=
    Masks.or_andNot_of_clear stored.user
  have proceed : ∀ {done : Int × PcanfdInit} {next : PcanfdInit → Option OpenResult},
      done.1 = 0 → unlessRefused (some done) next = next done.2 := by
    intro done next fine
    rw [unlessRefused_some, if_neg (not_not.mpr fine)]
  unfold pcanfdIoctlSetInit pcanfdDevOpen
  rw [if_neg (userSettings_user settings), if_neg admitted, clock, proceed rfl, nominal,
    proceed rfl]
  by_cases fd : WantsFd settings
  · obtain ⟨caps, known, _, inRange⟩ := stored.payload fd
    have wanted : ¬({ userSettings settings with
        nominal := (readBack dev settings).nominal } : PcanfdInit).flags &&& pcanfdInitFd = 0 :=
      (userSettings_fd settings).mpr fd
    have data : pcanBittimingNormalize (defaultTiming settings.data dev.defInitSettings.data)
        settings.clockHz caps = some (0, (readBack dev settings).data) := by
      rw [defaultTiming_given inRange.brp_ne_zero, readBack_data known fd]
      exact normalize_given_eq (sound.dataCaps caps known) positive inRange.brp_ne_zero
    have same : { settings with
        nominal := (readBack dev settings).nominal
        data := (readBack dev settings).data } = readBack dev settings := rfl
    unfold setupData
    rw [if_neg wanted]
    simp only [known]
    rw [show pcanBittimingNormalize (defaultTiming (userSettings settings).data _)
      (userSettings settings).clockHz caps = _ from data]
    simp only [Option.bind_eq_bind, Option.bind_some, ne_eq, not_true_eq_false, if_false]
    by_cases slower : (readBack dev settings).data.bitrate < (readBack dev settings).nominal.bitrate
    · rw [if_pos slower, if_pos ⟨fd, slower⟩]
      rfl
    · rw [if_neg slower, if_neg fun both => slower both.2]
      simp only [Option.pure_def, proceed, clear]
      exact congrArg (pcanfdDevOpenChecked dev) same
  · have unwanted : ({ userSettings settings with
        nominal := (readBack dev settings).nominal } : PcanfdInit).flags &&& pcanfdInitFd = 0 :=
      not_not.mp fun wanted => fd ((userSettings_fd settings).mp wanted)
    have same : { settings with nominal := (readBack dev settings).nominal } =
        readBack dev settings := init_ext rfl rfl rfl (readBack_classic dev fd).symm
    rw [setupData, if_pos unwanted, proceed rfl, if_neg fun both => fd both.1]
    simp only [clear]
    exact congrArg (pcanfdDevOpenChecked dev) same

theorem readBack_opened (stored : Stored dev settings) :
    openedSettings dev (readBack dev settings) = readBack dev settings := by
  have opened := stored.opened
  have unwanted : settings.clockHz = 8 * mhz → ¬WantsFd settings := by
    intro legacy fd
    rw [← opened] at fd
    exact ((openedSettings_fd dev settings).mp fd).2 legacy
  have clock : (readBack dev settings).clockHz = settings.clockHz := rfl
  have flags : (readBack dev settings).flags = settings.flags := rfl
  unfold openedSettings at opened ⊢
  rw [clock, flags]
  by_cases legacy : settings.clockHz = 8 * mhz
  · rw [if_pos legacy] at opened ⊢
    have sameFlags := congrArg PcanfdInit.flags opened
    have sameData := congrArg PcanfdInit.data opened
    exact init_ext sameFlags rfl rfl
      (sameData.trans (readBack_classic dev (unwanted legacy)).symm)
  · rw [if_neg legacy] at opened ⊢
    have sameFlags := congrArg PcanfdInit.flags opened
    exact init_ext sameFlags rfl rfl rfl

theorem readBack_stored (sound : dev.Sound) (stored : Stored dev settings) :
    Stored dev (readBack dev settings) where
  clock := stored.clock
  user := stored.user
  opened := readBack_opened stored
  nominal := (Normalized.given stored.nominal.brp_ne_zero _).inRange sound.caps
  payload fd := by
    obtain ⟨caps, known, ready, inRange⟩ := stored.payload ((readBack_fd dev settings).mp fd)
    refine ⟨caps, known, ready, ?_⟩
    rw [readBack_data known ((readBack_fd dev settings).mp fd)]
    exact (Normalized.given inRange.brp_ne_zero _).inRange (sound.dataCaps caps known)

theorem readBack_readBack (sound : dev.Sound) (stored : Stored dev settings) :
    readBack dev (readBack dev settings) = readBack dev settings := by
  refine init_ext rfl rfl (givenTiming_givenTiming sound.caps stored.nominal.brp_ne_zero) ?_
  by_cases fd : WantsFd settings
  · obtain ⟨caps, known, _, inRange⟩ := stored.payload fd
    have again := readBack_data known ((readBack_fd dev settings).mpr fd)
    rw [readBack_data known fd] at again
    rw [again, readBack_data known fd]
    exact givenTiming_givenTiming (sound.dataCaps caps known) inRange.brp_ne_zero
  · exact readBack_classic dev (mt (readBack_fd dev settings).mp fd)

theorem legacyWord_congr (dev : TimingDevice) {bt bt' : PcanBittiming}
    (same : bt.quanta = bt'.quanta) (tsam : bt.tsam = bt'.tsam) :
    legacyWord dev bt = legacyWord dev bt' := by
  have brp : bt.brp = bt'.brp := congrArg Quanta.brp same
  have tseg1 : bt.tseg1 = bt'.tseg1 := congrArg Quanta.tseg1 same
  have tseg2 : bt.tseg2 = bt'.tseg2 := congrArg Quanta.tseg2 same
  have sjw : bt.sjw = bt'.sjw := congrArg Quanta.sjw same
  unfold legacyWord pcanBittimingToBtr0btr1
  rw [brp, tseg1, tseg2, sjw, tsam]

theorem programmed_quanta {s s' : PcanfdInit} {word word' : Option (U16 × U8 × U8)}
    (same : s.programmed word = s'.programmed word') :
    s.nominal.quanta = s'.nominal.quanta ∧
      (WantsFd s → WantsFd s' → s.data.quanta = s'.data.quanta) := by
  refine ⟨congrArg Programmed.nominal same, fun fd fd' => ?_⟩
  have data := congrArg Programmed.data same
  simp only [PcanfdInit.programmed, if_pos fd, if_pos fd', Option.some.injEq] at data
  exact data

theorem checked_programmed {pfdi : PcanfdInit} {called : OpenResult}
    (opens : pcanfdDevOpenChecked dev pfdi = some called) :
    ∃ word, called.programmed = some ((openedSettings dev pfdi).programmed word) := by
  rw [checked_eq] at opens
  split at opens
  next =>
    obtain ⟨word, _, rfl⟩ := Option.map_eq_some_iff.mp opens
    exact ⟨_, rfl⟩
  next =>
    cases opens
    exact ⟨none, rfl⟩

theorem readBack_called (stored : Stored dev settings) {called : OpenResult}
    (opens : pcanfdDevOpenChecked dev settings = some called)
    (nominal : (readBack dev settings).nominal.quanta = settings.nominal.quanta)
    (data : WantsFd settings → (readBack dev settings).data.quanta = settings.data.quanta) :
    ∃ again, pcanfdDevOpenChecked dev (readBack dev settings) = some again ∧
      again.programmed = called.programmed := by
  have same : ∀ word, (readBack dev settings).programmed word = settings.programmed word := by
    intro word
    have flags : (readBack dev settings).flags = settings.flags := rfl
    have clock : (readBack dev settings).clockHz = settings.clockHz := rfl
    unfold PcanfdInit.programmed
    rw [nominal, clock, flags]
    by_cases fd : WantsFd settings
    · simp only [if_pos fd, data fd, readBack_fd]
    · simp only [if_neg fd, readBack_fd]
  have flags : (readBack dev settings).flags = settings.flags := rfl
  have clock : (readBack dev settings).clockHz = settings.clockHz := rfl
  rw [checked_eq, stored.opened] at opens
  rw [checked_eq, readBack_opened stored, clock, flags, legacyWord_congr dev nominal rfl]
  split at opens
  next legacy =>
    obtain ⟨word, known, rfl⟩ := Option.map_eq_some_iff.mp opens
    rw [if_pos legacy, known]
    exact ⟨_, rfl, congrArg some (same _)⟩
  next newer =>
    cases opens
    rw [if_neg newer]
    exact ⟨_, rfl, congrArg some (same _)⟩

theorem readBack_rates (sound : dev.Sound) (stored : Stored dev settings)
    (reads : ReadsBack settings) :
    ¬(WantsFd settings ∧
      (readBack dev settings).data.bitrate < (readBack dev settings).nominal.bitrate) := by
  rintro ⟨fd, slower⟩
  obtain ⟨caps, known, _, inRange⟩ := stored.payload fd
  obtain ⟨second, faster⟩ := reads.2 fd
  have nominal : (readBack dev settings).nominal.quanta = settings.nominal.quanta :=
    givenTiming_quanta sound.caps settings.clockHz stored.nominal reads.1
  have data := givenTiming_quanta (sound.dataCaps caps known) settings.clockHz inRange second
  rw [readBack_data known fd, givenTiming_rate, quantaProduct_congr data, readBack_rate,
    quantaProduct_congr nominal] at slower
  exact absurd slower (BitVec.not_lt.mpr faster)

theorem readsBack_survives (sound : dev.Sound) (stored : Stored dev settings)
    {called : OpenResult} (opens : pcanfdDevOpenChecked dev settings = some called)
    (reads : ReadsBack settings) : SurvivesReadBack dev called settings := by
  have nominal := givenTiming_quanta sound.caps settings.clockHz stored.nominal reads.1
  have data : WantsFd settings → (readBack dev settings).data.quanta = settings.data.quanta := by
    intro fd
    obtain ⟨caps, known, _, inRange⟩ := stored.payload fd
    rw [readBack_data known fd]
    exact givenTiming_quanta (sound.dataCaps caps known) _ inRange (reads.2 fd).1
  have rates := readBack_rates sound stored reads
  obtain ⟨again, second, same⟩ := readBack_called stored opens nominal data
  have kept : again.settings = some (readBack dev settings) := by
    rw [checked_settings second, readBack_opened stored]
  refine ⟨again, ?_, same, readBack dev settings, kept, again, ?_, kept⟩
  · rw [setInit_stored sound stored, if_neg rates, second]
  · rw [setInit_stored sound (readBack_stored sound stored), readBack_readBack sound stored,
      if_neg (mt (And.imp_left (readBack_fd dev settings).mp) rates), second]

theorem survives_readsBack (sound : dev.Sound) (stored : Stored dev settings)
    {called : OpenResult} (opens : pcanfdDevOpenChecked dev settings = some called)
    (survives : SurvivesReadBack dev called settings) : ReadsBack settings := by
  obtain ⟨again, second, same, -⟩ := survives
  obtain ⟨word, programmed⟩ := checked_programmed opens
  rw [stored.opened] at programmed
  rw [setInit_stored sound stored] at second
  split at second
  next =>
    cases second
    rw [programmed] at same
    cases same
  next rates =>
    obtain ⟨word', programmed'⟩ := checked_programmed second
    rw [readBack_opened stored] at programmed'
    rw [programmed, programmed', Option.some.injEq] at same
    obtain ⟨nominal, data⟩ := programmed_quanta same
    refine ⟨(givenTiming_quanta_iff sound.caps _ stored.nominal).mp nominal, fun fd => ?_⟩
    obtain ⟨caps, known, _, inRange⟩ := stored.payload fd
    have sameData := data ((readBack_fd dev settings).mpr fd) fd
    have faster : ¬(readBack dev settings).data.bitrate < (readBack dev settings).nominal.bitrate :=
      fun slower => rates ⟨fd, slower⟩
    rw [readBack_data known fd] at sameData faster
    rw [givenTiming_rate, quantaProduct_congr sameData, readBack_rate,
      quantaProduct_congr nominal] at faster
    exact ⟨(givenTiming_quanta_iff (sound.dataCaps caps known) _ inRange).mp sameData,
      BitVec.not_lt.mp faster⟩

end Again

theorem setInitOn_stores {deviceRelease : Pcandev P → Pcandev P} {functions : OpenFunctions P}
    {moments : OpenMoments} {hw : TimingDevice} {dev dev' : Pcandev P} {pfdi : PcanfdInit}
    (succeeds : setInitOn deviceRelease functions moments hw dev pfdi = some (dev', 0)) :
    ∃ called, pcanfdIoctlSetInit ((pcanfdDevReset deviceRelease dev).1.timing hw) pfdi =
        some called ∧ called.settings = some (pcanfdIoctlGetInit dev') := by
  have reset : (pcanfdDevReset deviceRelease dev).2 = 0 := rfl
  unfold setInitOn at succeeds
  simp only [reset, ne_eq, not_true_eq_false, if_false] at succeeds
  obtain ⟨called, checked, performed⟩ := Option.map_eq_some_iff.mp succeeds
  refine ⟨called, checked, ?_⟩
  have through : ∀ settings (callback : DevCallback P),
      callDeviceOpen moments settings callback (pcanfdDevReset deviceRelease dev).1 = (dev', 0) →
      some settings = some (pcanfdIoctlGetInit dev') := by
    intro settings callback done
    unfold callDeviceOpen at done
    simp only at done
    split at done
    next =>
      have same := congrArg (fun result : Pcandev P × Int => result.1.initSettings) done
      refine congrArg some ?_
      unfold pcanfdIoctlGetInit
      rw [← same]
      dsimp only
      split <;> rfl
    next failed =>
      exact absurd (congrArg Prod.snd done) failed
  cases called with
  | refused err =>
    have err_eq : err = 0 := congrArg Prod.snd performed
    exact absurd err_eq (pcanfdDevOpen_refused checked)
  | deviceOpen settings word type listenOnly => exact through settings _ performed
  | deviceOpenFd settings => exact through settings _ performed

theorem settings_read_back_iff {dev : TimingDevice} (sound : dev.Sound)
    {pfdi settings : PcanfdInit} {called : OpenResult}
    (accepted : pcanfdIoctlSetInit dev pfdi = some called)
    (stored : called.settings = some settings) :
    SurvivesReadBack dev called settings ↔ ReadsBack settings := by
  obtain ⟨kept, opens⟩ := accepted_stored sound accepted stored
  exact ⟨survives_readsBack sound kept opens, readsBack_survives sound kept opens⟩

section Samples

def fdDevice : TimingDevice :=
  Controller.ucan.device pcanDevFdRdy
    { flags := 0, clockHz := 0, nominal := PcanBittiming.zero, data := PcanBittiming.zero }

def fdRates (nominal data : U32) : PcanfdInit where
  flags := pcanfdInitUser ||| pcanfdInitFd
  clockHz := 80 * mhz
  nominal := { PcanBittiming.zero with bitrate := nominal }
  data := { PcanBittiming.zero with bitrate := data }

theorem usual_rates_read_back :
    ∃ called settings, pcanfdIoctlSetInit fdDevice (fdRates 500000 2000000) = some called ∧
      called.settings = some settings ∧ SurvivesReadBack fdDevice called settings := by
  have kept : ((pcanfdIoctlSetInit fdDevice (fdRates 500000 2000000)).bind
      OpenResult.settings).any (fun settings => decide (ReadsBack settings)) = true := by
    decide +kernel
  obtain ⟨settings, stored, reads⟩ := (Option.any_eq_true _ _).mp kept
  obtain ⟨called, accepted, remembered⟩ := Option.bind_eq_some_iff.mp stored
  have sound : fdDevice.Sound := Controller.ucan.device_sound _ _
  have survives := (settings_read_back_iff sound accepted remembered).mpr (of_decide_eq_true reads)
  exact ⟨called, settings, accepted, remembered, survives⟩

theorem equal_rates_not_read_back :
    ¬ ∀ (dev : TimingDevice) (pfdi settings : PcanfdInit) (called : OpenResult), dev.Sound →
      pcanfdIoctlSetInit dev pfdi = some called → called.settings = some settings →
      SurvivesReadBack dev called settings := by
  intro survives
  have refused : ((pcanfdIoctlSetInit fdDevice (fdRates 379147 379147)).bind
      OpenResult.settings).bind (pcanfdIoctlSetInit fdDevice) = some (.refused (-einval)) := by
    decide +kernel
  obtain ⟨settings, stored, second⟩ := Option.bind_eq_some_iff.mp refused
  obtain ⟨called, accepted, kept⟩ := Option.bind_eq_some_iff.mp stored
  obtain ⟨again, opens, -, settings', readBack, -⟩ := survives fdDevice _ settings called
    (Controller.ucan.device_sound _ _) accepted kept
  obtain rfl := Option.some.inj (opens.symm.trans second)
  exact absurd readBack (by simp [OpenResult.settings])

end Samples

end PcanDriver

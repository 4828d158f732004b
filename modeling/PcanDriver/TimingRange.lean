import PcanDriver.OpenSpec
import PcanDriver.TimingRegisters

/-!
Which timings reach the device in range. Given a prescaler, only the jump width can
be out of range, as nothing limits it; given a rate, only the segments can, where the
split they are taken from has an empty first segment or there is none at all. On the
legacy clock the values must in addition fit the fields of the BTR0BTR1 word.
-/
namespace PcanDriver
open BestScan

/-- The split that the segments are taken from has room for a first segment. -/
def SearchFits (btc : PcanfdBittimingRange) (clk : U32) (bt : PcanBittiming) : Prop :=
  ∃ n, SplitCounter btc clk bt.bitrate (samplePointWanted bt) n ∧
    earliestSamplePoint btc (n / 2) 1 ≤ (samplePointWanted bt).toNat

def TimingFits (btc : PcanfdBittimingRange) (clk : U32) (bt : PcanBittiming) : Prop :=
  (bt.brp ≠ 0 → bt.sjw.toNat ≤ btc.sjwMax.toNat) ∧ (bt.brp = 0 → SearchFits btc clk bt)

def LegacyFits (btc : PcanfdBittimingRange) (bt : PcanBittiming) : Prop :=
  bt.brp ≠ 0 → min bt.brp.toNat btc.brpMax.toNat ≤ 64 ∧ min bt.tseg1.toNat btc.tseg1Max.toNat ≤ 16 ∧
    min bt.tseg2.toNat btc.tseg2Max.toNat ≤ 8 ∧ bt.sjw.toNat ≤ 4

section Range
variable {btc : PcanfdBittimingRange} {clk : U32} {bt timing : PcanBittiming}

theorem inRange_iff (regular : btc.Regular) : TimingInRange btc timing ↔
    (1 ≤ timing.brp.toNat ∧ timing.brp.toNat ≤ btc.brpMax.toNat) ∧
    (1 ≤ timing.tseg1.toNat ∧ timing.tseg1.toNat ≤ btc.tseg1Max.toNat) ∧
    (1 ≤ timing.tseg2.toNat ∧ timing.tseg2.toNat ≤ btc.tseg2Max.toNat) ∧
    (1 ≤ timing.sjw.toNat ∧ timing.sjw.toNat ≤ btc.sjwMax.toNat) := by
  have one : (1 : U32).toNat = 1 := rfl
  simp only [TimingInRange, regular.brpMin, regular.tseg1Min, regular.tseg2Min, regular.sjwMin,
    BitVec.le_def, one]

theorem givenSjw_toNat (bt : PcanBittiming) :
    (if bt.sjw = 0 then 1 else bt.sjw : U32).toNat = max 1 bt.sjw.toNat := by
  split <;> rename_i zero
  · rw [zero]
    rfl
  · have : bt.sjw.toNat ≠ 0 := fun h => zero (BitVec.eq_of_toNat_eq h)
    omega

theorem sanitizedSjw_toNat (regular : btc.Regular) {tseg2 : U32} (segment : 1 ≤ tseg2.toNat) (sjw : U32) :
    1 ≤ (sanitizedSjw btc sjw tseg2).toNat ∧ (sanitizedSjw btc sjw tseg2).toNat ≤ btc.sjwMax.toNat := by
  have sjwMax := regular.sjwMax
  have one : (1 : U32).toNat = 1 := rfl
  unfold sanitizedSjw
  split <;> rename_i zero
  · omega
  · have nonzero : sjw.toNat ≠ 0 := fun h => zero (Or.inl (BitVec.eq_of_toNat_eq h))
    simp only [BitVec.lt_def]
    split <;> split <;> omega

theorem given_fields (regular : btc.Regular) (real : U32) :
    let timing := { ratedTiming (clampTiming bt btc) clk with bitrateReal := real }
    timing.brp.toNat = max 1 (min bt.brp.toNat btc.brpMax.toNat) ∧
    timing.tseg1.toNat = max 1 (min bt.tseg1.toNat btc.tseg1Max.toNat) ∧
    timing.tseg2.toNat = max 1 (min bt.tseg2.toNat btc.tseg2Max.toNat) ∧
    timing.sjw.toNat = max 1 bt.sjw.toNat := by
  obtain ⟨brp, tseg1, tseg2⟩ := clampTiming_toNat regular bt
  exact ⟨brp, tseg1, tseg2, givenSjw_toNat bt⟩

theorem normalized_inRange (regular : btc.Regular) (normalized : Normalized btc clk bt timing) :
    TimingInRange btc timing ↔ TimingFits btc clk bt := by
  have brpMax := regular.brpMax
  have segments := regular.segments
  have sjwMax := regular.sjwMax
  rw [inRange_iff regular]
  cases normalized with
  | given brp real =>
    obtain ⟨brpField, tseg1Field, tseg2Field, sjwField⟩ := @given_fields btc clk bt regular real
    rw [brpField, tseg1Field, tseg2Field, sjwField]
    have fits : TimingFits btc clk bt ↔ bt.sjw.toNat ≤ btc.sjwMax.toNat :=
      ⟨fun h => h.1 brp, fun h => ⟨fun _ => h, fun zero => absurd zero brp⟩⟩
    rw [fits]
    omega
  | searched brp accepted n timing found real =>
    obtain ⟨-, asked, -⟩ := accepted.resolve_left (fun h => h brp)
    have fits : TimingFits btc clk bt ↔ SearchFits btc clk bt :=
      ⟨fun h => h.2 brp, fun h => ⟨fun nonzero => absurd brp nonzero, fun _ => h⟩⟩
    rw [fits]
    constructor
    · rintro ⟨-, first, second, -⟩
      by_cases supplied : ∃ m, SplitCounter btc clk bt.bitrate (samplePointWanted bt) m
      · obtain ⟨m, supplies⟩ := supplied
        exact ⟨m, supplies, (found.supplied regular asked supplies).2.2.2.mp first.1⟩
      · have empty := (found.empty (fun m h => supplied ⟨m, h⟩)).1
        have zero : timing.tseg1.toNat = 0 := by rw [empty]; rfl
        exact absurd first.1 (by show ¬ 1 ≤ timing.tseg1.toNat; omega)
    · rintro ⟨m, supplies, nonempty⟩
      obtain ⟨-, first, second, some_⟩ := found.supplied regular asked supplies
      refine ⟨(found.bounds regular asked).1, ⟨some_.mpr nonempty, first⟩, second, ?_⟩
      have sjw := sanitizedSjw_toNat regular second.1 bt.sjw
      rwa [← found.sjw] at sjw

end Range

/-- The registers that `device_open_fd` writes; the SJA1000 has none. -/
def NewerExact : Controller → PcanfdInit → Prop
  | .sja1000, _ => True
  | .usbpro, settings => CcbtExact settings.nominal
  | .ucan, settings =>
    TimingSlowExact settings.nominal ∧ (WantsFd settings → TimingFastExact settings.data)

/-- What the device's open function is called with: timings in range, and registers
that hold them. -/
def RegistersHold (controller : Controller) : OpenResult → Prop
  | .refused _ => True
  | .deviceOpen settings _ _ _ =>
    TimingInRange controller.caps settings.nominal ∧
      (WantsFd settings → ∀ caps, controller.dataCaps = some caps → TimingInRange caps settings.data) ∧
      Btr0btr1Exact settings.nominal
  | .deviceOpenFd settings =>
    TimingInRange controller.caps settings.nominal ∧
      (WantsFd settings → ∀ caps, controller.dataCaps = some caps → TimingInRange caps settings.data) ∧
      NewerExact controller settings

/-- The condition on a user's settings that keeps the device's registers in order. -/
def SettingsFit (dev : TimingDevice) (pfdi : PcanfdInit) : Prop :=
  TimingFits dev.bittimingCaps (requestedClock dev pfdi) (requestedNominal dev pfdi) ∧
    (requestedClock dev pfdi = 8 * mhz → LegacyFits dev.bittimingCaps (requestedNominal dev pfdi)) ∧
    (requestedClock dev pfdi ≠ 8 * mhz → WantsFd pfdi → ∀ caps, dev.dbittimingCaps = some caps →
      TimingFits caps (requestedClock dev pfdi) (requestedData dev pfdi))

section Flags

theorem sanitizedFlags_fd (dev : TimingDevice) (flags : U32) :
    sanitizedFlags dev (flags &&& ~~~pcanfdInitUser) &&& pcanfdInitFd = flags &&& pcanfdInitFd := by
  have user : pcanfdInitUser &&& pcanfdInitFd = 0 := by decide
  have load : pcanfdInitBusLoadInfo &&& pcanfdInitFd = 0 := by decide
  unfold sanitizedFlags
  split
  · rw [Masks.andNot_and_of_disjoint _ load, Masks.andNot_and_of_disjoint _ user]
  · rw [Masks.andNot_and_of_disjoint _ user]

end Flags

theorem legacy_rate {controller : Controller} {flags : U32} {defaults pfdi : PcanfdInit}
    (legacy : requestedClock (controller.device flags defaults) pfdi = 8 * mhz)
    (rate : (requestedNominal (controller.device flags defaults) pfdi).brp = 0) :
    controller = .sja1000 := by
  by_contra other
  have unknown : (8 * mhz : U32) ∉ controller.clocks := by
    cases controller
    · exact absurd rfl other
    · decide
    · decide
  have own : controller.clocks.headD 0 ≠ 8 * mhz := by
    cases controller
    · exact absurd rfl other
    · decide
    · decide
  unfold requestedClock at legacy
  split at legacy <;> rename_i kept
  · exact own legacy
  · rw [not_or] at kept
    have given : pfdi.nominal.brp ≠ 0 := by
      intro zero
      refine kept.2 ⟨kept.1, ?_, fun h => h.1 zero⟩
      rw [legacy]
      exact unknown
    have same : requestedNominal (controller.device flags defaults) pfdi = pfdi.nominal := by
      simp only [requestedNominal, convertedNominal, if_neg kept.2, defaultTiming, given, and_false,
        if_false]
    exact given (same ▸ rate)

theorem legacy_exact {btc : PcanfdBittimingRange} {clk : U32} {bt timing : PcanBittiming}
    (regular : btc.Regular) (normalized : Normalized btc clk bt timing)
    (rate : bt.brp = 0 → btc = sja1000Capabilities) (inRange : TimingInRange btc timing) :
    Btr0btr1Exact timing ↔ LegacyFits btc bt := by
  have range := (inRange_iff regular).mp inRange
  cases normalized with
  | given brp real =>
    obtain ⟨brpField, tseg1Field, tseg2Field, sjwField⟩ := @given_fields btc clk bt regular real
    have fits : LegacyFits btc bt ↔ _ := ⟨fun h => h brp, fun h _ => h⟩
    rw [fits]
    constructor
    · intro exact_
      have bounds := exact_.bounds
      rw [brpField, tseg1Field, tseg2Field, sjwField] at bounds
      omega
    · intro bounds
      apply btr0btr1_exact <;> omega
  | searched brp accepted n timing found real =>
    obtain rfl := rate brp
    have caps : sja1000Capabilities.brpMax.toNat = 64 ∧ sja1000Capabilities.tseg1Max.toNat = 16 ∧
        sja1000Capabilities.tseg2Max.toNat = 8 ∧ sja1000Capabilities.sjwMax.toNat = 4 := by decide
    obtain ⟨brpMax, tseg1Max, tseg2Max, sjwMax⟩ := caps
    rw [brpMax, tseg1Max, tseg2Max, sjwMax] at range
    exact ⟨fun _ nonzero => absurd brp nonzero,
      fun _ => btr0btr1_exact range.1 range.2.1 range.2.2.1 range.2.2.2⟩

theorem newer_exact (controller : Controller) (settings : PcanfdInit)
    (nominal : TimingInRange controller.caps settings.nominal)
    (data : WantsFd settings → ∀ caps, controller.dataCaps = some caps → TimingInRange caps settings.data) :
    NewerExact controller settings := by
  cases controller with
  | sja1000 => trivial
  | usbpro =>
    obtain ⟨brp, tseg1, tseg2, sjw⟩ := (inRange_iff sja2010Caps_regular).mp nominal
    exact ccbt_exact brp tseg1 tseg2 sjw
  | ucan =>
    obtain ⟨brp, tseg1, tseg2, sjw⟩ := (inRange_iff ucanSlowCapabilities_regular).mp nominal
    refine ⟨timingSlow_exact brp tseg1 tseg2 sjw, fun fd => ?_⟩
    obtain ⟨brp, tseg1, tseg2, sjw⟩ := (inRange_iff ucanFastCapabilities_regular).mp (data fd _ rfl)
    exact timingFast_exact brp tseg1 tseg2 sjw

section Opened
variable {controller : Controller} {flags : U32} {defaults pfdi : PcanfdInit}
  {nominal data : PcanBittiming} {result : OpenResult}
  (opened : Opened (controller.device flags defaults) pfdi nominal data)
  (calls : pcanfdDevOpenChecked (controller.device flags defaults)
    (checkedSettings (controller.device flags defaults) pfdi nominal data) = some result)
include opened calls

theorem legacy_registers_iff
    (legacy : requestedClock (controller.device flags defaults) pfdi = 8 * mhz) :
    RegistersHold controller result ↔ SettingsFit (controller.device flags defaults) pfdi := by
  have sound := controller.device_sound flags defaults
  have range := normalized_inRange sound.caps opened.arbitration
  have rate : (requestedNominal (controller.device flags defaults) pfdi).brp = 0 →
      (controller.device flags defaults).bittimingCaps = sja1000Capabilities := by
    intro zero
    rw [legacy_rate legacy zero]
    rfl
  obtain ⟨word, -, rfl⟩ := (checked_legacy legacy).mp calls
  have noFd (flags : U32) : ¬ ((flags &&& ~~~(pcanfdInitFd ||| pcanfdInitFdNonIso)) &&& pcanfdInitFd ≠ 0) :=
    not_not.mpr (Masks.andNot_or_and_left _ _ _)
  constructor
  · rintro ⟨inRange, -, exact_⟩
    refine ⟨range.mp inRange, fun _ => ?_, fun other => absurd legacy other⟩
    exact (legacy_exact sound.caps opened.arbitration rate inRange).mp exact_
  · rintro ⟨fits, legacyFits, -⟩
    have inRange := range.mpr fits
    refine ⟨inRange, fun fd => absurd fd (noFd _), ?_⟩
    exact (legacy_exact sound.caps opened.arbitration rate inRange).mpr (legacyFits legacy)

theorem newer_registers_iff
    (newer : requestedClock (controller.device flags defaults) pfdi ≠ 8 * mhz) :
    RegistersHold controller result ↔ SettingsFit (controller.device flags defaults) pfdi := by
  have sound := controller.device_sound flags defaults
  have range := normalized_inRange sound.caps opened.arbitration
  obtain rfl : .deviceOpenFd { checkedSettings (controller.device flags defaults) pfdi nominal data with
      flags := sanitizedFlags (controller.device flags defaults) (pfdi.flags &&& ~~~pcanfdInitUser) } =
      result := Option.some.inj ((checked_newer newer).symm.trans calls)
  have fd : WantsFd { checkedSettings (controller.device flags defaults) pfdi nominal data with
      flags := sanitizedFlags (controller.device flags defaults) (pfdi.flags &&& ~~~pcanfdInitUser) } ↔
      WantsFd pfdi := by
    simp only [WantsFd, sanitizedFlags_fd]
  have dataRange (wanted : WantsFd pfdi) (caps : PcanfdBittimingRange)
      (known : controller.dataCaps = some caps) : TimingInRange caps data ↔
      TimingFits caps (requestedClock (controller.device flags defaults) pfdi)
        (requestedData (controller.device flags defaults) pfdi) := by
    obtain ⟨other, same, normalized, -⟩ := opened.payload wanted
    obtain rfl : caps = other := Option.some.inj (known.symm.trans same)
    exact normalized_inRange (sound.dataCaps caps known) normalized
  constructor
  · rintro ⟨inRange, dataInRange, -⟩
    refine ⟨range.mp inRange, fun legacy => absurd legacy newer, fun _ wanted caps known => ?_⟩
    exact (dataRange wanted caps known).mp (dataInRange (fd.mpr wanted) caps known)
  · rintro ⟨fits, -, dataFits⟩
    have inRange := range.mpr fits
    have dataInRange : ∀ caps, WantsFd pfdi → controller.dataCaps = some caps → TimingInRange caps data :=
      fun caps wanted known => (dataRange wanted caps known).mpr (dataFits newer wanted caps known)
    have all := fun wanted caps known => dataInRange caps (fd.mp wanted) known
    exact ⟨inRange, all, newer_exact controller
      { checkedSettings (controller.device flags defaults) pfdi nominal data with
        flags := sanitizedFlags (controller.device flags defaults) (pfdi.flags &&& ~~~pcanfdInitUser) }
      inRange all⟩

end Opened

/-- Whenever the device's open function is reached, its registers hold the timings
exactly if the settings fit. -/
theorem opened_registers_iff (controller : Controller) (flags : U32) (defaults pfdi : PcanfdInit)
    (user : pfdi.flags &&& pcanfdInitUser ≠ 0) (result : OpenResult)
    (opens : pcanfdDevOpen (controller.device flags defaults) pfdi = some result)
    (reaches : ∀ err, result ≠ .refused err) :
    RegistersHold controller result ↔ SettingsFit (controller.device flags defaults) pfdi := by
  rcases open_cases (controller.device_sound flags defaults) user with
    ⟨-, traps⟩ | ⟨-, -, err, refused⟩ | ⟨-, nominal, data, opened, calls⟩
  · exact absurd (opens.symm.trans traps) (by simp)
  · exact absurd (Option.some.inj (opens.symm.trans refused)) (reaches err)
  · rw [opens] at calls
    by_cases legacy : requestedClock (controller.device flags defaults) pfdi = 8 * mhz
    · exact legacy_registers_iff opened calls.symm legacy
    · exact newer_registers_iff opened calls.symm legacy

/-- Settings of a user on the device's own clock with the given timing. -/
def givenSettings (brp tseg1 tseg2 sjw : U32) : PcanfdInit :=
  { flags := pcanfdInitUser, clockHz := 0, data := PcanBittiming.zero
    nominal := { PcanBittiming.zero with brp, tseg1, tseg2, sjw } }

theorem opened_registers_sample :
    RegistersHold .ucan (.deviceOpenFd
      { flags := 0, clockHz := 80 * mhz, data := PcanBittiming.zero
        nominal := { brp := 2, tseg1 := 63, tseg2 := 16, sjw := 16, tsam := 0, bitrate := 500000
                     samplePoint := 8000, tq := 25, bitrateReal := 500000 } }) ↔
      SettingsFit (Controller.ucan.device 0 (givenSettings 1 1 1 1)) (givenSettings 2 63 16 16) :=
  opened_registers_iff .ucan 0 (givenSettings 1 1 1 1) (givenSettings 2 63 16 16) (by decide) _
    (by decide +kernel) (by simp)

/-- A jump width of five quanta goes out as one. -/
theorem jump_width_loses_bits :
    pcanfdDevOpen (Controller.sja1000.device 0 (givenSettings 1 1 1 1)) (givenSettings 1 13 2 5) =
        some (.deviceOpen
          { flags := 0, clockHz := 8 * mhz, data := PcanBittiming.zero
            nominal := { brp := 1, tseg1 := 13, tseg2 := 2, sjw := 5, tsam := 0, bitrate := 500000
                         samplePoint := 8750, tq := 125, bitrateReal := 500000 } } 0x001c 2 0) ∧
      ¬ RegistersHold .sja1000 (.deviceOpen
          { flags := 0, clockHz := 8 * mhz, data := PcanBittiming.zero
            nominal := { brp := 1, tseg1 := 13, tseg2 := 2, sjw := 5, tsam := 0, bitrate := 500000
                         samplePoint := 8750, tq := 125, bitrateReal := 500000 } } 0x001c 2 0) := by
  refine ⟨by decide +kernel, fun holds => ?_⟩
  exact absurd holds.2.2.1 (by decide)

end PcanDriver

import PcanDriver.RateResult

/-!
What a user's settings ask for, read off the settings and the device alone, and the
steps of `pcanfd_dev_open` in these terms.
-/
namespace PcanDriver
open BestScan

/-- The number of quanta that a timing's products are taken of, as the code has it. -/
def quantaProduct (bt : PcanBittiming) : U32 :=
  bt.brp * (1 + bt.tseg1 + bt.tseg2)

/-- The timing with the rate and the sample point that it means on a clock. -/
def ratedTiming (bt : PcanBittiming) (clk : U32) : PcanBittiming :=
  { bt with
    sjw := if bt.sjw = 0 then 1 else bt.sjw
    samplePoint := pcanSamptScale * (1 + bt.tseg1) / (1 + bt.tseg1 + bt.tseg2)
    bitrate := clk / quantaProduct bt
    tq := BitVec.ofNat 32 (bt.brp.toNat * ghz / clk.toNat) }

theorem bittimingToBitrate_eq {bt : PcanBittiming} {clk : U32} (positive : clk ≠ 0)
    (nonzero : quantaProduct bt ≠ 0) :
    pcanBittimingToBitrate bt clk = some (0, ratedTiming bt clk) := by
  have brp : bt.brp ≠ 0 := fun zero => nonzero (by simp [quantaProduct, zero])
  have sum : 1 + bt.tseg1 + bt.tseg2 ≠ 0 := fun zero =>
    nonzero (by rw [quantaProduct, zero, mul_zero])
  have rate : pcanGetBps clk bt = some (clk / quantaProduct bt) := divU32_of_ne nonzero
  simp only [pcanBittimingToBitrate, if_neg brp, divU32_of_ne sum, rate, doDiv, if_neg positive,
    Option.bind_eq_bind, Option.bind_some, Option.pure_def, ratedTiming]

theorem bittimingToBitrate_traps {bt : PcanBittiming} {clk : U32} (brp : bt.brp ≠ 0)
    (zero : quantaProduct bt = 0) : pcanBittimingToBitrate bt clk = none := by
  have rate : pcanGetBps clk bt = none := if_pos zero
  simp only [pcanBittimingToBitrate, if_neg brp, rate, Option.bind_eq_bind, Option.bind_none]
  cases divU32 (pcanSamptScale * (1 + bt.tseg1)) (1 + bt.tseg1 + bt.tseg2) <;> rfl

section Normalize
variable {btc : PcanfdBittimingRange} {clk : U32} {bt : PcanBittiming}

def RateTraps (btc : PcanfdBittimingRange) (bt : PcanBittiming) : Prop :=
  bt.brp = 0 ∧ bt.bitrate ≠ 0 ∧ bt.samplePoint.toNat ≤ 10000 ∧ RateWraps btc bt.bitrate

def Acceptable (btc : PcanfdBittimingRange) (clk : U32) (bt : PcanBittiming) : Prop :=
  bt.brp ≠ 0 ∨
    bt.bitrate ≠ 0 ∧ bt.samplePoint.toNat ≤ 10000 ∧ RateOffered btc clk bt.bitrate

/-- The timing that `pcan_bittiming_normalize` makes of `bt`, by the way it takes. -/
inductive Normalized (btc : PcanfdBittimingRange) (clk : U32) (bt : PcanBittiming) :
    PcanBittiming → Prop
  | given (brp : bt.brp ≠ 0) (real : U32) :
      Normalized btc clk bt { ratedTiming (clampTiming bt btc) clk with bitrateReal := real }
  | searched (brp : bt.brp = 0) (accepted : Acceptable btc clk bt) (n : Nat) (timing : PcanBittiming)
      (found : FoundTiming btc clk bt n timing) (real : U32) :
      Normalized btc clk bt { timing with bitrateReal := real }

theorem Normalized.acceptable {timing : PcanBittiming} (normalized : Normalized btc clk bt timing) :
    Acceptable btc clk bt := by
  cases normalized with
  | given brp => exact Or.inl brp
  | searched brp accepted => exact accepted

theorem Normalized.unique {timing other : PcanBittiming} (first : Normalized btc clk bt timing)
    (second : Normalized btc clk bt other) :
    timing.brp = other.brp ∧ timing.tseg1 = other.tseg1 ∧ timing.tseg2 = other.tseg2 ∧
      timing.sjw = other.sjw ∧ timing.tsam = other.tsam ∧ timing.bitrate = other.bitrate := by
  cases first with
  | given brp real =>
    cases second with
    | given brp' real' => exact ⟨rfl, rfl, rfl, rfl, rfl, rfl⟩
    | searched brp' => exact absurd brp' brp
  | searched brp accepted n timing found real =>
    cases second with
    | given brp' => exact absurd brp brp'
    | searched brp' accepted' n' other found' real' =>
      obtain rfl : n = n' := found.best.unique found'.best
      have segments : timing.tseg1 = other.tseg1 ∧ timing.tseg2 = other.tseg2 := by
        by_cases supplied : ∃ m, SplitCounter btc clk bt.bitrate (samplePointWanted bt) m
        · obtain ⟨m, supplies⟩ := supplied
          have first := found.segments m supplies
          have second := found'.segments m supplies
          exact ⟨first.1.trans second.1.symm, first.2.trans second.2.symm⟩
        · have first := found.empty (fun m h => supplied ⟨m, h⟩)
          have second := found'.empty (fun m h => supplied ⟨m, h⟩)
          exact ⟨first.1.trans second.1.symm, first.2.trans second.2.symm⟩
      refine ⟨BitVec.eq_of_toNat_eq (found.brp.trans found'.brp.symm), segments.1, segments.2, ?_,
        found.tsam.trans found'.tsam.symm, found.bitrate.trans found'.bitrate.symm⟩
      exact (found.sjw.trans (by rw [segments.2])).trans found'.sjw.symm

theorem clampTiming_toNat (regular : btc.Regular) (bt : PcanBittiming) :
    (clampTiming bt btc).brp.toNat = max 1 (min bt.brp.toNat btc.brpMax.toNat) ∧
    (clampTiming bt btc).tseg1.toNat = max 1 (min bt.tseg1.toNat btc.tseg1Max.toNat) ∧
    (clampTiming bt btc).tseg2.toNat = max 1 (min bt.tseg2.toNat btc.tseg2Max.toNat) := by
  have brpMax := regular.brpMax
  have segments := regular.segments
  have sjwMax := regular.sjwMax
  have one : (1 : U32).toNat = 1 := rfl
  simp only [clampTiming, regular.brpMin, regular.tseg1Min, regular.tseg2Min]
  rw [clampU32_toNat _ _ _ (BitVec.le_def.mpr (by omega)),
    clampU32_toNat _ _ _ (BitVec.le_def.mpr (by omega)),
    clampU32_toNat _ _ _ (BitVec.le_def.mpr (by omega)), one]
  exact ⟨rfl, rfl, rfl⟩

/-- A product of values in the range of a device does not wrap. -/
theorem quantaProduct_toNat {bt : PcanBittiming} (brp : bt.brp.toNat ≤ 1024)
    (tseg1 : bt.tseg1.toNat ≤ 256) (tseg2 : bt.tseg2.toNat ≤ 256) :
    (quantaProduct bt).toNat = bt.brp.toNat * (1 + bt.tseg1.toNat + bt.tseg2.toNat) := by
  have one : (1 : U32).toNat = 1 := rfl
  have bound : bt.brp.toNat * (1 + bt.tseg1.toNat + bt.tseg2.toNat) ≤ 1024 * 513 :=
    Nat.mul_le_mul brp (by omega)
  rw [quantaProduct, BitVec.toNat_mul, BitVec.toNat_add, BitVec.toNat_add, one,
    Nat.mod_eq_of_lt (a := 1 + bt.tseg1.toNat) (by omega),
    Nat.mod_eq_of_lt (a := 1 + bt.tseg1.toNat + bt.tseg2.toNat) (by omega),
    Nat.mod_eq_of_lt (by omega)]

theorem quantaProduct_ne_zero {bt : PcanBittiming} (brp : 1 ≤ bt.brp.toNat ∧ bt.brp.toNat ≤ 1024)
    (tseg1 : bt.tseg1.toNat ≤ 256) (tseg2 : bt.tseg2.toNat ≤ 256) : quantaProduct bt ≠ 0 := by
  intro zero
  have value := quantaProduct_toNat brp.2 tseg1 tseg2
  have positive : 0 < bt.brp.toNat * (1 + bt.tseg1.toNat + bt.tseg2.toNat) :=
    Nat.mul_pos brp.1 (by omega)
  rw [zero] at value
  exact absurd value (Nat.ne_of_lt positive)

theorem FoundTiming.supplied {n m : Nat} {timing : PcanBittiming} (regular : btc.Regular)
    (asked : bt.samplePoint.toNat ≤ 10000) (found : FoundTiming btc clk bt n timing)
    (supplies : SplitCounter btc clk bt.bitrate (samplePointWanted bt) m) :
    timing.tseg1.toNat + timing.tseg2.toNat = m / 2 ∧
      timing.tseg1.toNat ≤ btc.tseg1Max.toNat ∧
      (1 ≤ timing.tseg2.toNat ∧ timing.tseg2.toNat ≤ btc.tseg2Max.toNat) ∧
      (1 ≤ timing.tseg1.toNat ↔
        earliestSamplePoint btc (m / 2) 1 ≤ (samplePointWanted bt).toNat) := by
  obtain ⟨offers, placed⟩ := Supplies.placed supplies
  obtain ⟨first, second⟩ := found.segments m supplies
  rcases splitFor_cases regular offers.1 (samplePointWanted_le asked) with
    ⟨-, -, inTime, nonempty, -⟩ | ⟨-, unplaced_, -⟩
  · rw [first, second]
    refine ⟨?_, inTime.first, inTime.second, nonempty⟩
    rw [inTime.sum, (half_toNat regular offers.1).1]
  · omega

theorem FoundTiming.bounds {n : Nat} {timing : PcanBittiming} (regular : btc.Regular)
    (asked : bt.samplePoint.toNat ≤ 10000) (found : FoundTiming btc clk bt n timing) :
    (1 ≤ timing.brp.toNat ∧ timing.brp.toNat ≤ btc.brpMax.toNat) ∧
      timing.tseg1.toNat ≤ btc.tseg1Max.toNat ∧ timing.tseg2.toNat ≤ btc.tseg2Max.toNat := by
  refine ⟨found.brp ▸ found.best.1.2, ?_⟩
  by_cases supplied : ∃ m, SplitCounter btc clk bt.bitrate (samplePointWanted bt) m
  · obtain ⟨m, supplies⟩ := supplied
    obtain ⟨-, first, second, -⟩ := found.supplied regular asked supplies
    exact ⟨first, second.2⟩
  · obtain ⟨first, second⟩ := found.empty (fun m h => supplied ⟨m, h⟩)
    rw [first, second]
    exact ⟨Nat.zero_le _, Nat.zero_le _⟩

theorem realRate_eq {timing : PcanBittiming} (nonzero : quantaProduct timing ≠ 0) :
    divU32 clk (timing.brp * (timing.tseg1 + timing.tseg2 + 1)) =
      some (clk / quantaProduct timing) := by
  have same : timing.brp * (timing.tseg1 + timing.tseg2 + 1) = quantaProduct timing := by
    rw [quantaProduct, add_comm _ (1 : U32), add_assoc]
  rw [same, divU32_of_ne nonzero]

theorem normalize_given (regular : btc.Regular) (positive : clk ≠ 0) (brp : bt.brp ≠ 0) :
    ∃ timing, pcanBittimingNormalize bt clk btc = some (0, timing) ∧
      Normalized btc clk bt timing := by
  obtain ⟨clampBrp, clampTseg1, clampTseg2⟩ := clampTiming_toNat regular bt
  have brpMax := regular.brpMax
  have segments := regular.segments
  have sjwMax := regular.sjwMax
  have nonzero : quantaProduct (clampTiming bt btc) ≠ 0 :=
    quantaProduct_ne_zero (by omega) (by omega) (by omega)
  have real : divU32 clk ((ratedTiming (clampTiming bt btc) clk).brp *
      ((ratedTiming (clampTiming bt btc) clk).tseg1 + (ratedTiming (clampTiming bt btc) clk).tseg2 + 1)) =
      some (clk / quantaProduct (clampTiming bt btc)) := realRate_eq nonzero
  refine ⟨_, ?_, Normalized.given brp (clk / quantaProduct (clampTiming bt btc))⟩
  simp only [pcanBittimingNormalize, if_pos brp, bittimingToBitrate_eq positive nonzero,
    Option.bind_eq_bind, Option.bind_some, ne_eq, not_true_eq_false, if_false, real, Option.pure_def]

theorem normalize_searched (regular : btc.Regular) (slow : clk.toNat < 2 ^ 31) (positive : clk ≠ 0)
    (brp : bt.brp = 0) (rate : bt.bitrate ≠ 0) (asked : bt.samplePoint.toNat ≤ 10000)
    (safe : ¬ RateWraps btc bt.bitrate) (offered : RateOffered btc clk bt.bitrate) :
    ∃ timing, pcanBittimingNormalize bt clk btc = some (0, timing) ∧
      Normalized btc clk bt timing := by
  rcases bitrateToBittiming_cases regular slow positive rate asked safe with
    ⟨not, -⟩ | ⟨-, n, timing, result, found⟩
  · exact absurd offered not
  obtain ⟨foundBrp, tseg1, tseg2⟩ := found.bounds regular asked
  have brpMax := regular.brpMax
  have segments := regular.segments
  have nonzero : quantaProduct timing ≠ 0 := quantaProduct_ne_zero (by omega) (by omega) (by omega)
  have real := @realRate_eq clk timing nonzero
  refine ⟨_, ?_, Normalized.searched brp (Or.inr ⟨rate, asked, offered⟩) n timing found
    (clk / quantaProduct timing)⟩
  simp only [pcanBittimingNormalize, brp, ne_eq, not_true_eq_false, if_false, rate, not_false_eq_true,
    if_true, result, Option.bind_eq_bind, Option.bind_some, real, Option.pure_def]

theorem normalize_rate_eq (brp : bt.brp = 0) (rate : bt.bitrate ≠ 0) {err : Int}
    {timing : PcanBittiming} (result : pcanBitrateToBittiming bt btc clk = some (err, timing))
    (error : err ≠ 0) : pcanBittimingNormalize bt clk btc = some (err, timing) := by
  simp only [pcanBittimingNormalize, brp, ne_eq, not_true_eq_false, if_false, rate, not_false_eq_true,
    if_true, result, Option.bind_eq_bind, Option.bind_some, error, Option.pure_def]

theorem normalize_refused (regular : btc.Regular) (slow : clk.toNat < 2 ^ 31) (positive : clk ≠ 0)
    (safe : ¬ RateTraps btc bt) (not : ¬ Acceptable btc clk bt) :
    ∃ err timing, pcanBittimingNormalize bt clk btc = some (err, timing) ∧ err ≠ 0 := by
  simp only [Acceptable, not_or, not_not, not_and] at not
  obtain ⟨brp, not⟩ := not
  by_cases rate : bt.bitrate = 0
  · refine ⟨-einval, bt, ?_, by decide⟩
    simp only [pcanBittimingNormalize, brp, rate, ne_eq, not_true_eq_false, if_false,
      Option.bind_eq_bind, Option.bind_some, Option.pure_def]
    rfl
  by_cases asked : bt.samplePoint.toNat ≤ 10000
  · have noWrap : ¬ RateWraps btc bt.bitrate := fun wraps => safe ⟨brp, rate, asked, wraps⟩
    rcases bitrateToBittiming_cases regular slow positive rate asked noWrap with
      ⟨-, result⟩ | ⟨offered, -⟩
    · exact ⟨-edom, bt, normalize_rate_eq brp rate result (by decide), by decide⟩
    · exact absurd offered (not rate asked)
  · have result := @bitrateToBittiming_late btc clk bt (by omega)
    exact ⟨-einval, bt, normalize_rate_eq brp rate result (by decide), by decide⟩

theorem normalize_traps (regular : btc.Regular) (slow : clk.toNat < 2 ^ 31)
    (traps : RateTraps btc bt) : pcanBittimingNormalize bt clk btc = none := by
  obtain ⟨brp, rate, asked, wraps⟩ := traps
  simp only [pcanBittimingNormalize, brp, rate, ne_eq, not_true_eq_false, if_false, not_false_eq_true,
    if_true, bitrateToBittiming_traps regular slow asked wraps, Option.bind_eq_bind, Option.bind_none]

/-- `pcan_bittiming_normalize` for all values of its arguments. -/
theorem normalize_cases (regular : btc.Regular) (slow : clk.toNat < 2 ^ 31) (positive : clk ≠ 0)
    (bt : PcanBittiming) :
    (RateTraps btc bt ∧ pcanBittimingNormalize bt clk btc = none) ∨
    (¬ RateTraps btc bt ∧ ¬ Acceptable btc clk bt ∧
      ∃ err timing, pcanBittimingNormalize bt clk btc = some (err, timing) ∧ err ≠ 0) ∨
    (¬ RateTraps btc bt ∧ Acceptable btc clk bt ∧
      ∃ timing, pcanBittimingNormalize bt clk btc = some (0, timing) ∧ Normalized btc clk bt timing) := by
  by_cases traps : RateTraps btc bt
  · exact Or.inl ⟨traps, normalize_traps regular slow traps⟩
  by_cases accepted : Acceptable btc clk bt
  · refine Or.inr (Or.inr ⟨traps, accepted, ?_⟩)
    by_cases brp : bt.brp = 0
    · obtain ⟨rate, asked, offered⟩ := accepted.resolve_left (fun h => h brp)
      exact normalize_searched regular slow positive brp rate asked
        (fun wraps => traps ⟨brp, rate, asked, wraps⟩) offered
    · exact normalize_given regular positive brp
  · exact Or.inr (Or.inl ⟨traps, accepted, normalize_refused regular slow positive traps accepted⟩)

end Normalize

/-- What the open function relies on in a device record. -/
structure TimingDevice.Sound (dev : TimingDevice) : Prop where
  caps : dev.bittimingCaps.Regular
  dataCaps : ∀ caps, dev.dbittimingCaps = some caps → caps.Regular
  clocks : ∀ clk ∈ dev.clocksList, clk ≠ 0 ∧ clk.toNat < 2 ^ 31
  sysclock : dev.sysclockHz ∈ dev.clocksList

theorem Controller.clocks_sound (controller : Controller) :
    (∀ clk ∈ controller.clocks, clk ≠ 0 ∧ clk.toNat < 2 ^ 31) ∧
      controller.clocks.headD 0 ∈ controller.clocks := by
  have sound (k : Nat) (low : 1 ≤ k) (high : k ≤ 80) :
      BitVec.ofNat 32 k * mhz ≠ 0 ∧ (BitVec.ofNat 32 k * mhz).toNat < 2 ^ 31 := by
    have value : (BitVec.ofNat 32 k * mhz).toNat = k * 1000000 := by
      have million : mhz.toNat = 1000000 := rfl
      rw [BitVec.toNat_mul, BitVec.toNat_ofNat, million]
      omega
    refine ⟨fun zero => ?_, by omega⟩
    rw [zero] at value
    simp at value
    omega
  cases controller
  · simpa [Controller.clocks, sja1000Clocks] using sound 8 (by decide) (by decide)
  · simpa [Controller.clocks, sja2010Clocks] using sound 56 (by decide) (by decide)
  · refine ⟨fun clk member => ?_, by simp [Controller.clocks, ucanClocks]⟩
    simp only [Controller.clocks, ucanClocks, List.mem_cons, List.not_mem_nil, or_false] at member
    rcases member with rfl | rfl | rfl | rfl | rfl | rfl
    · exact sound 80 (by decide) (by decide)
    · exact sound 20 (by decide) (by decide)
    · exact sound 24 (by decide) (by decide)
    · exact sound 30 (by decide) (by decide)
    · exact sound 40 (by decide) (by decide)
    · exact sound 60 (by decide) (by decide)

theorem Controller.device_sound (controller : Controller) (flags : U32) (defaults : PcanfdInit) :
    (controller.device flags defaults).Sound := by
  refine ⟨?_, ?_, controller.clocks_sound.1, controller.clocks_sound.2⟩
  · cases controller
    · exact sja1000Capabilities_regular
    · exact sja2010Caps_regular
    · exact ucanSlowCapabilities_regular
  · intro caps same
    cases controller
    · exact absurd same (by simp [Controller.device, Controller.dataCaps])
    · exact absurd same (by simp [Controller.device, Controller.dataCaps])
    · rw [← Option.some.inj same]
      exact ucanFastCapabilities_regular

def WantsFd (pfdi : PcanfdInit) : Prop := pfdi.flags &&& pcanfdInitFd ≠ 0

def ReplacesClock (dev : TimingDevice) (pfdi : PcanfdInit) : Prop :=
  pfdi.clockHz ≠ 0 ∧ pfdi.clockHz ∉ dev.clocksList ∧
    ¬ (pfdi.nominal.brp ≠ 0 ∧ pfdi.clockHz = 8 * mhz)

instance (pfdi : PcanfdInit) : Decidable (WantsFd pfdi) := inferInstanceAs (Decidable (_ ≠ _))

instance (dev : TimingDevice) (pfdi : PcanfdInit) : Decidable (ReplacesClock dev pfdi) :=
  inferInstanceAs (Decidable (_ ∧ _))

def requestedClock (dev : TimingDevice) (pfdi : PcanfdInit) : U32 :=
  if pfdi.clockHz = 0 ∨ ReplacesClock dev pfdi then dev.sysclockHz else pfdi.clockHz

/-- With the clock given up, the timing stands for the rate it means on it. -/
def nominalAsRate (pfdi : PcanfdInit) : PcanBittiming :=
  if pfdi.nominal.brp = 0 then pfdi.nominal
  else { ratedTiming pfdi.nominal pfdi.clockHz with brp := 0 }

/-- The data timing keeps its prescaler, which then counts the device's clock. -/
def dataAsRate (pfdi : PcanfdInit) : PcanBittiming :=
  if WantsFd pfdi ∧ pfdi.data.brp ≠ 0 then ratedTiming pfdi.data pfdi.clockHz else pfdi.data

def convertedNominal (dev : TimingDevice) (pfdi : PcanfdInit) : PcanBittiming :=
  if ReplacesClock dev pfdi then nominalAsRate pfdi else pfdi.nominal

def convertedData (dev : TimingDevice) (pfdi : PcanfdInit) : PcanBittiming :=
  if ReplacesClock dev pfdi then dataAsRate pfdi else pfdi.data

def requestedNominal (dev : TimingDevice) (pfdi : PcanfdInit) : PcanBittiming :=
  defaultTiming (convertedNominal dev pfdi) dev.defInitSettings.nominal

def requestedData (dev : TimingDevice) (pfdi : PcanfdInit) : PcanBittiming :=
  defaultTiming (convertedData dev pfdi) dev.defInitSettings.data

/-- A timing that is converted to a rate has a product that wraps to zero. -/
def ConversionTraps (dev : TimingDevice) (pfdi : PcanfdInit) : Prop :=
  ReplacesClock dev pfdi ∧
    ((pfdi.nominal.brp ≠ 0 ∧ quantaProduct pfdi.nominal = 0) ∨
      (WantsFd pfdi ∧ pfdi.data.brp ≠ 0 ∧ quantaProduct pfdi.data = 0))

def clockedSettings (dev : TimingDevice) (pfdi : PcanfdInit) : PcanfdInit :=
  { pfdi with
    clockHz := requestedClock dev pfdi
    nominal := convertedNominal dev pfdi
    data := convertedData dev pfdi }

section Clock
variable {dev : TimingDevice} {pfdi : PcanfdInit}

theorem fixNominalClock_eq (positive : pfdi.clockHz ≠ 0) :
    fixNominalClock pfdi =
      if pfdi.nominal.brp ≠ 0 ∧ quantaProduct pfdi.nominal = 0 then none
      else some (0, { pfdi with nominal := nominalAsRate pfdi }) := by
  unfold fixNominalClock nominalAsRate
  by_cases brp : pfdi.nominal.brp = 0
  · rw [if_pos brp, if_neg (fun traps => traps.1 brp), if_pos brp]
  · by_cases zero : quantaProduct pfdi.nominal = 0
    · rw [if_neg brp, bittimingToBitrate_traps brp zero, if_pos ⟨brp, zero⟩]
      rfl
    · rw [if_neg brp, bittimingToBitrate_eq positive zero, if_neg (fun h => zero h.2), if_neg brp]
      rfl

theorem fixDataClock_eq (positive : pfdi.clockHz ≠ 0) (nominal : PcanBittiming) :
    fixDataClock { pfdi with nominal := nominal } =
      if WantsFd pfdi ∧ pfdi.data.brp ≠ 0 ∧ quantaProduct pfdi.data = 0 then none
      else some (0, { pfdi with nominal := nominal, data := dataAsRate pfdi }) := by
  unfold fixDataClock dataAsRate
  by_cases converted : WantsFd pfdi ∧ pfdi.data.brp ≠ 0
  · have kept : ¬ (pfdi.flags &&& pcanfdInitFd = 0 ∨ pfdi.data.brp = 0) := by
      exact fun h => h.elim converted.1 converted.2
    by_cases zero : quantaProduct pfdi.data = 0
    · simp only [if_neg kept, bittimingToBitrate_traps converted.2 zero,
        if_pos (show _ ∧ _ ∧ _ from ⟨converted.1, converted.2, zero⟩), Option.bind_eq_bind,
        Option.bind_none]
    · simp only [if_neg kept, bittimingToBitrate_eq positive zero, if_pos converted,
        if_neg (fun h : _ ∧ _ ∧ _ => zero h.2.2), Option.bind_eq_bind, Option.bind_some, Option.pure_def]
  · have kept : pfdi.flags &&& pcanfdInitFd = 0 ∨ pfdi.data.brp = 0 := by
      simp only [WantsFd] at converted
      tauto
    simp only [if_pos kept, if_neg converted, if_neg (fun h : _ ∧ _ ∧ _ => converted ⟨h.1, h.2.1⟩)]

theorem clockedSettings_kept (kept : ¬ ReplacesClock dev pfdi) (positive : pfdi.clockHz ≠ 0) :
    clockedSettings dev pfdi = pfdi := by
  simp only [clockedSettings, requestedClock, convertedNominal, convertedData, kept, positive,
    or_self, if_false]

theorem fixInitClock_kept (kept : ¬ ReplacesClock dev pfdi) (positive : pfdi.clockHz ≠ 0) :
    pcanfdFixInitClock dev pfdi = some (0, pfdi) := by
  unfold pcanfdFixInitClock
  split
  · rfl
  · rename_i unknown
    rw [if_pos]
    exact Classical.byContradiction fun notLegacy => kept ⟨positive, unknown, notLegacy⟩

theorem fixInitClock_replaced (replaces : ReplacesClock dev pfdi) :
    (ConversionTraps dev pfdi ∧ pcanfdFixInitClock dev pfdi = none) ∨
    (¬ ConversionTraps dev pfdi ∧
      pcanfdFixInitClock dev pfdi = some (0, clockedSettings dev pfdi)) := by
  have clocked : clockedSettings dev pfdi =
      { pfdi with
        clockHz := dev.sysclockHz
        nominal := nominalAsRate pfdi
        data := dataAsRate pfdi } := by
    simp only [clockedSettings, requestedClock, convertedNominal, convertedData, replaces, or_true,
      if_true]
  obtain ⟨positive, unknown, notLegacy⟩ := replaces
  have steps : pcanfdFixInitClock dev pfdi =
      (fixNominalClock pfdi).bind fun step =>
        if step.1 ≠ 0 then some step
        else (fixDataClock step.2).bind fun step =>
          if step.1 ≠ 0 then some step
          else some (0, { step.2 with clockHz := dev.sysclockHz }) := by
    simp only [pcanfdFixInitClock, if_neg unknown, if_neg notLegacy, Option.bind_eq_bind,
      Option.pure_def]
  rw [steps, clocked, fixNominalClock_eq positive]
  by_cases nominalTraps : pfdi.nominal.brp ≠ 0 ∧ quantaProduct pfdi.nominal = 0
  · refine Or.inl ⟨⟨⟨positive, unknown, notLegacy⟩, Or.inl nominalTraps⟩, ?_⟩
    rw [if_pos nominalTraps]
    rfl
  -- the data timing is converted on the same clock, after the nominal one
  rw [if_neg nominalTraps, Option.bind_some, if_neg (by simp), fixDataClock_eq positive]
  by_cases dataTraps : WantsFd pfdi ∧ pfdi.data.brp ≠ 0 ∧ quantaProduct pfdi.data = 0
  · refine Or.inl ⟨⟨⟨positive, unknown, notLegacy⟩, Or.inr dataTraps⟩, ?_⟩
    rw [if_pos dataTraps]
    rfl
  · refine Or.inr ⟨fun traps => traps.2.elim nominalTraps dataTraps, ?_⟩
    rw [if_neg dataTraps, Option.bind_some, if_neg (by simp)]

theorem fixClock_cases :
    (ConversionTraps dev pfdi ∧ fixClock dev pfdi = none) ∨
    (¬ ConversionTraps dev pfdi ∧ fixClock dev pfdi = some (0, clockedSettings dev pfdi)) := by
  by_cases zero : pfdi.clockHz = 0
  · have kept : ¬ ReplacesClock dev pfdi := fun replaces => replaces.1 zero
    refine Or.inr ⟨fun traps => kept traps.1, ?_⟩
    simp only [fixClock, clockedSettings, requestedClock, convertedNominal, convertedData, zero, kept,
      true_or, if_true, if_false]
  · rw [fixClock, if_neg zero]
    by_cases replaces : ReplacesClock dev pfdi
    · exact fixInitClock_replaced replaces
    · refine Or.inr ⟨fun traps => replaces traps.1, ?_⟩
      rw [fixInitClock_kept replaces zero, clockedSettings_kept replaces zero]

end Clock

/-- The settings come through all checks, with `nominal` and `data` for timings. -/
structure Opened (dev : TimingDevice) (pfdi : PcanfdInit) (nominal data : PcanBittiming) :
    Prop where
  admitted : ¬ fdRefused dev pfdi
  converted : ¬ ConversionTraps dev pfdi
  arbitration : Normalized dev.bittimingCaps (requestedClock dev pfdi) (requestedNominal dev pfdi) nominal
  payload : WantsFd pfdi → ∃ caps, dev.dbittimingCaps = some caps ∧
    Normalized caps (requestedClock dev pfdi) (requestedData dev pfdi) data ∧
    nominal.bitrate ≤ data.bitrate
  left : ¬ WantsFd pfdi → data = convertedData dev pfdi

/-- The settings on entry to `__pcanfd_dev_open`. -/
def checkedSettings (dev : TimingDevice) (pfdi : PcanfdInit) (nominal data : PcanBittiming) :
    PcanfdInit :=
  { flags := pfdi.flags &&& ~~~pcanfdInitUser, clockHz := requestedClock dev pfdi, nominal, data }

/-- A divisor vanishes before `__pcanfd_dev_open` is reached. -/
def CheckTraps (dev : TimingDevice) (pfdi : PcanfdInit) : Prop :=
  ¬ fdRefused dev pfdi ∧
    (ConversionTraps dev pfdi ∨ RateTraps dev.bittimingCaps (requestedNominal dev pfdi) ∨
      (Acceptable dev.bittimingCaps (requestedClock dev pfdi) (requestedNominal dev pfdi) ∧
        WantsFd pfdi ∧ ∃ caps, dev.dbittimingCaps = some caps ∧
          RateTraps caps (requestedData dev pfdi)))

section Open
variable {dev : TimingDevice} {pfdi : PcanfdInit}

theorem requestedClock_sound (sound : dev.Sound) :
    requestedClock dev pfdi ≠ 0 ∧ (requestedClock dev pfdi).toNat < 2 ^ 31 := by
  unfold requestedClock
  split <;> rename_i own
  · exact sound.clocks _ sound.sysclock
  · rw [not_or] at own
    by_cases known : pfdi.clockHz ∈ dev.clocksList
    · exact sound.clocks _ known
    · have legacy : pfdi.clockHz = 8 * mhz := by
        by_contra other
        exact own.2 ⟨own.1, known, fun h => other h.2⟩
      rw [legacy]
      decide

theorem setupNominal_eq : setupNominal dev (clockedSettings dev pfdi) =
    (pcanBittimingNormalize (requestedNominal dev pfdi) (requestedClock dev pfdi)
      dev.bittimingCaps).bind fun step =>
        some (step.1, { clockedSettings dev pfdi with nominal := step.2 }) := rfl

theorem setupData_eq (nominal : PcanBittiming) {caps : PcanfdBittimingRange}
    (known : dev.dbittimingCaps = some caps) (fd : WantsFd pfdi) :
    setupData dev { clockedSettings dev pfdi with nominal := nominal } =
      (pcanBittimingNormalize (requestedData dev pfdi) (requestedClock dev pfdi) caps).bind fun step =>
        some (if step.1 ≠ 0 then step.1 else if step.2.bitrate < nominal.bitrate then -einval else 0,
          { clockedSettings dev pfdi with nominal := nominal, data := step.2 }) := by
  have wanted : ¬ ({ clockedSettings dev pfdi with nominal := nominal } : PcanfdInit).flags &&&
      pcanfdInitFd = 0 := fd
  unfold setupData
  simp only [if_neg wanted, known]
  have timing : defaultTiming (clockedSettings dev pfdi).data dev.defInitSettings.data =
      requestedData dev pfdi := rfl
  rw [timing]
  have clock : (clockedSettings dev pfdi).clockHz = requestedClock dev pfdi := rfl
  rw [clock]
  cases pcanBittimingNormalize (requestedData dev pfdi) (requestedClock dev pfdi) caps with
  | none => rfl
  | some step =>
    simp only [Option.bind_eq_bind, Option.bind_some, Option.pure_def]
    split
    · rfl
    · split <;> rfl

theorem checked_legacy {result : OpenResult} (legacy : pfdi.clockHz = 8 * mhz) :
    pcanfdDevOpenChecked dev pfdi = some result ↔ ∃ word, legacyWord dev pfdi.nominal = some word ∧
      result = .deviceOpen
        { pfdi with
          flags := sanitizedFlags dev pfdi.flags &&& ~~~(pcanfdInitFd ||| pcanfdInitFdNonIso)
          data := PcanBittiming.zero } word
        (if sanitizedFlags dev pfdi.flags &&& ~~~(pcanfdInitFd ||| pcanfdInitFdNonIso) &&&
          pcanfdInitStdMsgOnly ≠ 0 then 0 else msgtypeExtended)
        (if sanitizedFlags dev pfdi.flags &&& ~~~(pcanfdInitFd ||| pcanfdInitFdNonIso) &&&
          pcanfdInitListenOnly ≠ 0 then 1 else 0) := by
  unfold pcanfdDevOpenChecked
  simp only [legacy, if_true]
  cases legacyWord dev pfdi.nominal with
  | none => simp
  | some word => simp [eq_comm]

theorem checked_newer (newer : pfdi.clockHz ≠ 8 * mhz) : pcanfdDevOpenChecked dev pfdi =
    some (.deviceOpenFd { pfdi with flags := sanitizedFlags dev pfdi.flags }) := by
  unfold pcanfdDevOpenChecked
  simp only [newer, if_false]
  rfl

theorem unlessRefused_some {step : Int × PcanfdInit} {next : PcanfdInit → Option OpenResult} :
    unlessRefused (some step) next = if step.1 ≠ 0 then some (.refused step.1) else next step.2 := rfl

theorem dataCaps_of_fd (admitted : ¬ fdRefused dev pfdi) (fd : WantsFd pfdi) :
    ∃ caps, dev.dbittimingCaps = some caps := by
  cases known : dev.dbittimingCaps with
  | none => exact absurd ⟨fd, Or.inl known⟩ admitted
  | some caps => exact ⟨caps, rfl⟩

theorem open_data_cases (sound : dev.Sound) (refused : ¬ fdRefused dev pfdi)
    (converted : ¬ ConversionTraps dev pfdi)
    (safe : ¬ RateTraps dev.bittimingCaps (requestedNominal dev pfdi))
    (accepted : Acceptable dev.bittimingCaps (requestedClock dev pfdi) (requestedNominal dev pfdi))
    {nt : PcanBittiming} (isNominal : Normalized dev.bittimingCaps (requestedClock dev pfdi)
      (requestedNominal dev pfdi) nt) (fd : WantsFd pfdi) {result : Option OpenResult}
    (opens : result = unlessRefused (setupData dev { clockedSettings dev pfdi with nominal := nt })
      fun pfdi => pcanfdDevOpenChecked dev { pfdi with flags := pfdi.flags &&& ~~~pcanfdInitUser }) :
    (CheckTraps dev pfdi ∧ result = none) ∨
    (¬ CheckTraps dev pfdi ∧ (∀ nominal data, ¬ Opened dev pfdi nominal data) ∧
      ∃ err, result = some (.refused err)) ∨
    (¬ CheckTraps dev pfdi ∧ ∃ nominal data, Opened dev pfdi nominal data ∧
      result = pcanfdDevOpenChecked dev (checkedSettings dev pfdi nominal data)) := by
  obtain ⟨caps, known⟩ := dataCaps_of_fd refused fd
  obtain ⟨positive, slow⟩ := @requestedClock_sound dev pfdi sound
  have sameCaps {other : PcanfdBittimingRange} (same : dev.dbittimingCaps = some other) : other = caps :=
    Option.some.inj (same.symm.trans known)
  rw [opens, setupData_eq nt known fd]
  rcases normalize_cases (sound.dataCaps caps known) slow positive (requestedData dev pfdi) with
    ⟨traps, data⟩ | ⟨dataSafe, not, err, dt, data, error⟩ | ⟨dataSafe, -, dt, data, isData⟩
  · exact Or.inl ⟨⟨refused, Or.inr (Or.inr ⟨accepted, fd, caps, known, traps⟩)⟩, by rw [data]; rfl⟩
  all_goals
    have noTrap : ¬ CheckTraps dev pfdi := by
      rintro ⟨-, traps | traps | ⟨-, -, other, same, traps⟩⟩
      · exact converted traps
      · exact safe traps
      · exact dataSafe (sameCaps same ▸ traps)
  · refine Or.inr (Or.inl ⟨noTrap, fun _ _ opened => ?_, err, ?_⟩)
    · obtain ⟨other, same, isData, -⟩ := opened.payload fd
      exact not (sameCaps same ▸ isData.acceptable)
    · rw [data, Option.bind_some, unlessRefused_some]
      simp only [if_pos error]
  · by_cases order : dt.bitrate < nt.bitrate
    · refine Or.inr (Or.inl ⟨noTrap, fun nominal data opened => ?_, -einval, ?_⟩)
      · obtain ⟨other, same, isData', le⟩ := opened.payload fd
        obtain rfl := sameCaps same
        rw [(opened.arbitration.unique isNominal).2.2.2.2.2, (isData'.unique isData).2.2.2.2.2] at le
        exact absurd order (BitVec.not_lt.mpr le)
      · rw [data, Option.bind_some, unlessRefused_some]
        simp only [ne_eq, not_true_eq_false, if_false, if_pos order]
        rfl
    · refine Or.inr (Or.inr ⟨noTrap, nt, dt, ⟨refused, converted, isNominal, fun _ => ?_,
        fun h => absurd fd h⟩, ?_⟩)
      · exact ⟨caps, known, isData, BitVec.not_lt.mp order⟩
      · rw [data, Option.bind_some, unlessRefused_some]
        simp only [ne_eq, not_true_eq_false, if_false, if_neg order]
        rfl

/-- `pcanfd_dev_open` for all settings of a user. -/
theorem open_cases (sound : dev.Sound) (user : pfdi.flags &&& pcanfdInitUser ≠ 0) :
    (CheckTraps dev pfdi ∧ pcanfdDevOpen dev pfdi = none) ∨
    (¬ CheckTraps dev pfdi ∧ (∀ nominal data, ¬ Opened dev pfdi nominal data) ∧
      ∃ err, pcanfdDevOpen dev pfdi = some (.refused err)) ∨
    (¬ CheckTraps dev pfdi ∧ ∃ nominal data, Opened dev pfdi nominal data ∧
      pcanfdDevOpen dev pfdi =
        pcanfdDevOpenChecked dev (checkedSettings dev pfdi nominal data)) := by
  rw [pcanfdDevOpen, if_neg user]
  by_cases refused : fdRefused dev pfdi
  · rw [if_pos refused]
    exact Or.inr (Or.inl ⟨fun traps => traps.1 refused, fun _ _ opened => opened.admitted refused, _, rfl⟩)
  rw [if_neg refused]
  rcases @fixClock_cases dev pfdi with ⟨traps, clock⟩ | ⟨converted, clock⟩
  · exact Or.inl ⟨⟨refused, Or.inl traps⟩, by rw [clock]; rfl⟩
  obtain ⟨positive, slow⟩ := @requestedClock_sound dev pfdi sound
  rw [clock, unlessRefused_some, if_neg (by simp), setupNominal_eq]
  rcases normalize_cases sound.caps slow positive (requestedNominal dev pfdi) with
    ⟨traps, nominal⟩ | ⟨safe, not, err, nt, nominal, error⟩ | ⟨safe, accepted, nt, nominal, isNominal⟩
  · exact Or.inl ⟨⟨refused, Or.inr (Or.inl traps)⟩, by rw [nominal]; rfl⟩
  · refine Or.inr (Or.inl ⟨?_, fun _ _ opened => not opened.arbitration.acceptable, err, ?_⟩)
    · exact fun traps => traps.2.elim converted fun h => h.elim safe fun h => not h.1
    · rw [nominal, Option.bind_some, unlessRefused_some, if_pos error]
  rw [nominal, Option.bind_some, unlessRefused_some, if_neg (by simp)]
  by_cases fd : WantsFd pfdi
  · exact open_data_cases sound refused converted safe accepted isNominal fd rfl
  · refine Or.inr (Or.inr ⟨?_, nt, convertedData dev pfdi, ?_, ?_⟩)
    · exact fun traps => traps.2.elim converted fun h => h.elim safe fun h => fd h.2.1
    · exact ⟨refused, converted, isNominal, fun h => absurd h fd, fun _ => rfl⟩
    · have left : setupData dev { clockedSettings dev pfdi with nominal := nt } =
          some (0, { clockedSettings dev pfdi with nominal := nt }) := if_pos (not_not.mp fd)
      rw [left, unlessRefused_some, if_neg (by simp)]
      rfl

end Open

end PcanDriver

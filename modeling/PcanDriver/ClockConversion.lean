import PcanDriver.OpenSpec

/-!
Settings made for a clock that the device does not have. The nominal timing is turned
into the rate it means there and searched again on the device's clock; the data timing
keeps its prescaler, so that the device runs it on its own clock instead.
-/
namespace PcanDriver
open BestScan

def timingRate (clk : U32) (bt : PcanBittiming) : Nat :=
  clk.toNat / (bt.brp.toNat * (1 + bt.tseg1.toNat + bt.tseg2.toNat))

/-- The driver's own limit: the error in hundredths of a percent, rounded down, is at
most 50. -/
def RateNear (real meant : Nat) : Prop :=
  (max real meant - min real meant) * 10000 < 51 * meant

instance (real meant : Nat) : Decidable (RateNear real meant) := inferInstanceAs (Decidable (_ < _))

structure WholeTiming (bt : PcanBittiming) : Prop where
  brp : bt.brp ≠ 0
  tseg1 : bt.tseg1 ≠ 0
  tseg2 : bt.tseg2 ≠ 0
  fits : bt.brp.toNat * (1 + bt.tseg1.toNat + bt.tseg2.toNat) < 2 ^ 32

structure ForeignClock (dev : TimingDevice) (pfdi : PcanfdInit) : Prop where
  clock : pfdi.clockHz ≠ 0 ∧ pfdi.clockHz ≠ 8 * mhz ∧ pfdi.clockHz ∉ dev.clocksList
  nominal : WholeTiming pfdi.nominal
  data : WantsFd pfdi → WholeTiming pfdi.data

/-- The rates programmed are near those the user's values mean on the user's clock. -/
def RatesKept (dev : TimingDevice) (pfdi settings : PcanfdInit) : Prop :=
  RateNear (timingRate dev.sysclockHz settings.nominal) (timingRate pfdi.clockHz pfdi.nominal) ∧
    (WantsFd pfdi →
      RateNear (timingRate dev.sysclockHz settings.data) (timingRate pfdi.clockHz pfdi.data))

/-- One of the best counters for the rate can place the sample point. -/
def BestPlaced (btc : PcanfdBittimingRange) (clk rate sp : U32) : Prop :=
  ∃ n ∈ Offers btc clk rate, (∀ m ∈ Offers btc clk rate, rateError clk rate n ≤ rateError clk rate m) ∧
    earliestSamplePoint btc (n / 2) 0 ≤ sp.toNat

/-- The quanta of the split left over, or the synchronisation one alone. -/
def LeftoverQuanta (btc : PcanfdBittimingRange) (clk rate sp : U32) (quanta : Nat) : Prop :=
  (∃ m, SplitCounter btc clk rate sp m ∧ quanta = m / 2 + 1) ∨
    ((∀ m, ¬ SplitCounter btc clk rate sp m) ∧ quanta = 1)

/-- The best counter cannot place the sample point, but its prescaler and the segments
left over make a rate that is near by chance. -/
def LeftoverNear (btc : PcanfdBittimingRange) (clk rate sp : U32) : Prop :=
  ∃ n quanta, BestCounter btc clk rate sp n ∧ sp.toNat < earliestSamplePoint btc (n / 2) 0 ∧
    LeftoverQuanta btc clk rate sp quanta ∧
    RateNear (clk.toNat / (prescaler clk rate n * quanta)) rate.toNat

/-- The condition on the user's values under which both rates are kept. -/
def ConversionKeeps (dev : TimingDevice) (pfdi : PcanfdInit) : Prop :=
  let meant := ratedTiming pfdi.nominal pfdi.clockHz
  (meant.bitrate ≠ 0 ∧
    (BestPlaced dev.bittimingCaps dev.sysclockHz meant.bitrate (samplePointWanted meant) ∨
      LeftoverNear dev.bittimingCaps dev.sysclockHz meant.bitrate (samplePointWanted meant))) ∧
  (WantsFd pfdi → ∀ caps, dev.dbittimingCaps = some caps →
    RateNear (timingRate dev.sysclockHz (clampTiming pfdi.data caps)) (timingRate pfdi.clockHz pfdi.data))

section Rates
variable {bt : PcanBittiming} {clk : U32}

theorem WholeTiming.product (whole : WholeTiming bt) :
    (quantaProduct bt).toNat = bt.brp.toNat * (1 + bt.tseg1.toNat + bt.tseg2.toNat) ∧
      3 ≤ bt.brp.toNat * (1 + bt.tseg1.toNat + bt.tseg2.toNat) := by
  have one : (1 : U32).toNat = 1 := rfl
  have brp : 1 ≤ bt.brp.toNat := Nat.pos_of_ne_zero fun h => whole.brp (BitVec.eq_of_toNat_eq h)
  have tseg1 : 1 ≤ bt.tseg1.toNat := Nat.pos_of_ne_zero fun h => whole.tseg1 (BitVec.eq_of_toNat_eq h)
  have tseg2 : 1 ≤ bt.tseg2.toNat := Nat.pos_of_ne_zero fun h => whole.tseg2 (BitVec.eq_of_toNat_eq h)
  have sum : 1 + bt.tseg1.toNat + bt.tseg2.toNat ≤
      bt.brp.toNat * (1 + bt.tseg1.toNat + bt.tseg2.toNat) := Nat.le_mul_of_pos_left _ brp
  have fits := whole.fits
  refine ⟨?_, by omega⟩
  rw [quantaProduct, BitVec.toNat_mul, BitVec.toNat_add, BitVec.toNat_add, one,
    Nat.mod_eq_of_lt (a := 1 + bt.tseg1.toNat) (by omega),
    Nat.mod_eq_of_lt (a := 1 + bt.tseg1.toNat + bt.tseg2.toNat) (by omega), Nat.mod_eq_of_lt fits]

theorem ratedTiming_rate (whole : WholeTiming bt) :
    (ratedTiming bt clk).bitrate.toNat = timingRate clk bt ∧ timingRate clk bt < 2 ^ 31 := by
  obtain ⟨product, three⟩ := whole.product
  have size := clk.isLt
  refine ⟨by rw [ratedTiming, timingRate, BitVec.toNat_udiv, product], ?_⟩
  rw [timingRate, Nat.div_lt_iff_lt_mul (by omega)]
  omega

theorem rateNear_of_error {real meant : Nat} (low : 0 < meant) (small : meant < 2 ^ 31)
    (twice : real ≤ 2 * meant) (near : wordDistance meant real * 10000 / meant ≤ 50) :
    RateNear real meant := by
  have distance : wordDistance meant real = max real meant - min real meant := by
    unfold wordDistance
    omega
  rw [distance, ← Nat.lt_add_one_iff, Nat.div_lt_iff_lt_mul low] at near
  exact near

end Rates

section Found
variable {btc : PcanfdBittimingRange} {clk : U32} {bt timing : PcanBittiming} {n : Nat}

theorem leftoverQuanta_unique {rate sp : U32} {quanta other : Nat}
    (first : LeftoverQuanta btc clk rate sp quanta) (second : LeftoverQuanta btc clk rate sp other) :
    quanta = other := by
  rcases first with ⟨m, supplies, rfl⟩ | ⟨none, rfl⟩ <;>
    rcases second with ⟨m', supplies', rfl⟩ | ⟨none', rfl⟩
  · rw [Supplies.unique supplies supplies']
  · exact absurd supplies (none' m)
  · exact absurd supplies' (none m')
  · rfl

theorem FoundTiming.quanta (regular : btc.Regular) (asked : bt.samplePoint.toNat ≤ 10000)
    (found : FoundTiming btc clk bt n timing) :
    LeftoverQuanta btc clk bt.bitrate (samplePointWanted bt)
      (1 + timing.tseg1.toNat + timing.tseg2.toNat) := by
  by_cases supplied : ∃ m, SplitCounter btc clk bt.bitrate (samplePointWanted bt) m
  · obtain ⟨m, supplies⟩ := supplied
    have sum := (found.supplied regular asked supplies).1
    exact Or.inl ⟨m, supplies, by omega⟩
  · have none : ∀ m, ¬ SplitCounter btc clk bt.bitrate (samplePointWanted bt) m :=
      fun m supplies => supplied ⟨m, supplies⟩
    obtain ⟨first, second⟩ := found.empty none
    refine Or.inr ⟨none, ?_⟩
    rw [first, second]
    rfl

theorem bestPlaced_iff (regular : btc.Regular) {rate sp : U32} (asked : sp.toNat ≤ 10000)
    (best : BestCounter btc clk rate sp n) :
    BestPlaced btc clk rate sp ↔ earliestSamplePoint btc (n / 2) 0 ≤ sp.toNat := by
  constructor
  · rintro ⟨m, offers, least, early⟩
    have placed := (placed_iff regular offers.1 asked).mpr early
    have tie : rateError clk rate m = rateError clk rate n :=
      Nat.le_antisymm (least n best.1) (best.error_le offers)
    exact (placed_iff regular best.1.1 asked).mp (Nat.lt_of_le_of_lt (best.cost_le offers tie) placed)
  · exact fun early => ⟨n, best.1, fun m offers => best.error_le offers, early⟩

theorem found_near_iff (regular : btc.Regular) (asked : bt.samplePoint.toNat ≤ 10000)
    (nonzero : bt.bitrate ≠ 0) (small : bt.bitrate.toNat < 2 ^ 31)
    (offered : RateOffered btc clk bt.bitrate) (found : FoundTiming btc clk bt n timing) :
    RateNear (timingRate clk timing) bt.bitrate.toNat ↔
      BestPlaced btc clk bt.bitrate (samplePointWanted bt) ∨
        LeftoverNear btc clk bt.bitrate (samplePointWanted bt) := by
  have wanted := samplePointWanted_le asked
  have positive : 0 < bt.bitrate.toNat :=
    Nat.pos_of_ne_zero fun h => nonzero (BitVec.eq_of_toNat_eq h)
  have quanta := found.quanta regular asked
  have rate : timingRate clk timing = clk.toNat / (prescaler clk bt.bitrate n *
      (1 + timing.tseg1.toNat + timing.tseg2.toNat)) := by rw [timingRate, found.brp]
  rw [bestPlaced_iff regular wanted found.best]
  constructor
  · intro near
    by_cases early : earliestSamplePoint btc (n / 2) 0 ≤ (samplePointWanted bt).toNat
    · exact Or.inl early
    · exact Or.inr ⟨n, _, found.best, by omega, quanta, rate ▸ near⟩
  · rintro (early | ⟨n', quanta', best', -, left, near⟩)
    · have supplies : SplitCounter btc clk bt.bitrate (samplePointWanted bt) n :=
        Or.inl ⟨found.best, (placed_iff regular found.best.1.1 wanted).mpr early⟩
      have same := leftoverQuanta_unique quanta (Or.inl ⟨n, supplies, rfl⟩)
      obtain ⟨m, offers, near⟩ := offered
      rw [rate, same]
      apply rateNear_of_error positive small (offeredRate_le nonzero found.best.1.2.1)
      exact Nat.le_trans (Nat.div_le_div_right (Nat.mul_le_mul_right _ (found.best.error_le offers))) near
    · obtain rfl : n = n' := found.best.unique best'
      rw [rate, leftoverQuanta_unique quanta left]
      exact near

end Found

section Conversion
variable {dev : TimingDevice} {pfdi : PcanfdInit} (foreign : ForeignClock dev pfdi)
include foreign

theorem ForeignClock.replaces : ReplacesClock dev pfdi :=
  ⟨foreign.clock.1, foreign.clock.2.2, fun legacy => foreign.clock.2.1 legacy.2⟩

theorem ForeignClock.clock_eq : requestedClock dev pfdi = dev.sysclockHz :=
  if_pos (Or.inr foreign.replaces)

theorem ForeignClock.nominal_eq : requestedNominal dev pfdi =
    defaultTiming { ratedTiming pfdi.nominal pfdi.clockHz with brp := 0 } dev.defInitSettings.nominal := by
  rw [requestedNominal, convertedNominal, if_pos foreign.replaces, nominalAsRate,
    if_neg foreign.nominal.brp]

theorem ForeignClock.data_eq (fd : WantsFd pfdi) :
    requestedData dev pfdi = ratedTiming pfdi.data pfdi.clockHz := by
  have brp : (ratedTiming pfdi.data pfdi.clockHz).brp ≠ 0 := (foreign.data fd).brp
  rw [requestedData, convertedData, if_pos foreign.replaces, dataAsRate,
    if_pos ⟨fd, (foreign.data fd).brp⟩, defaultTiming, if_neg (fun h => brp h.2)]

theorem nominal_near_iff (sound : dev.Sound) {nominal : PcanBittiming}
    (normalized : Normalized dev.bittimingCaps (requestedClock dev pfdi)
      (requestedNominal dev pfdi) nominal) :
    RateNear (timingRate dev.sysclockHz nominal) (timingRate pfdi.clockHz pfdi.nominal) ↔
      (ratedTiming pfdi.nominal pfdi.clockHz).bitrate ≠ 0 ∧
      (BestPlaced dev.bittimingCaps dev.sysclockHz (ratedTiming pfdi.nominal pfdi.clockHz).bitrate
          (samplePointWanted (ratedTiming pfdi.nominal pfdi.clockHz)) ∨
        LeftoverNear dev.bittimingCaps dev.sysclockHz (ratedTiming pfdi.nominal pfdi.clockHz).bitrate
          (samplePointWanted (ratedTiming pfdi.nominal pfdi.clockHz))) := by
  obtain ⟨meant, small⟩ := @ratedTiming_rate pfdi.nominal pfdi.clockHz foreign.nominal
  rw [foreign.clock_eq, foreign.nominal_eq] at normalized
  rw [← meant] at small ⊢
  by_cases zero : (ratedTiming pfdi.nominal pfdi.clockHz).bitrate = 0
  · -- the default timing is opened instead, and no rate is near zero
    rw [zero]
    exact ⟨fun near => absurd near (Nat.not_lt_zero _), fun h => absurd rfl h.1⟩
  · have kept : defaultTiming { ratedTiming pfdi.nominal pfdi.clockHz with brp := 0 }
        dev.defInitSettings.nominal = { ratedTiming pfdi.nominal pfdi.clockHz with brp := 0 } :=
      if_neg (fun h => zero h.1)
    rw [kept] at normalized
    cases normalized with
    | given brp => exact absurd rfl brp
    | searched brp accepted n timing found real =>
      obtain ⟨-, asked, offered⟩ := accepted.resolve_left (fun h => h rfl)
      have near := found_near_iff sound.caps asked zero small offered found
      exact near.trans ⟨fun h => ⟨zero, h⟩, And.right⟩

theorem data_near_iff {caps : PcanfdBittimingRange} {data : PcanBittiming} (fd : WantsFd pfdi)
    (normalized : Normalized caps (requestedClock dev pfdi) (requestedData dev pfdi) data) :
    RateNear (timingRate dev.sysclockHz data) (timingRate pfdi.clockHz pfdi.data) ↔
      RateNear (timingRate dev.sysclockHz (clampTiming pfdi.data caps))
        (timingRate pfdi.clockHz pfdi.data) := by
  rw [foreign.data_eq fd] at normalized
  cases normalized with
  | given brp real => rfl
  | searched brp => exact absurd brp (foreign.data fd).brp

end Conversion

/-- Rates of 500 kbit/s and, with CAN FD, 2 Mbit/s for a clock of 10 MHz. -/
def tenMhzSettings (flags : U32) : PcanfdInit :=
  { flags := flags, clockHz := 10 * mhz
    nominal := { PcanBittiming.zero with brp := 1, tseg1 := 14, tseg2 := 5, sjw := 1 }
    data := { PcanBittiming.zero with brp := 1, tseg1 := 3, tseg2 := 1, sjw := 1 } }

theorem tenMhzSettings_foreign (flags devFlags : U32) (defaults : PcanfdInit) :
    ForeignClock (Controller.ucan.device devFlags defaults) (tenMhzSettings flags) := by
  have whole (tseg1 tseg2 : U32) (nonzero : tseg1 ≠ 0 ∧ tseg2 ≠ 0)
      (fits : 1 * (1 + tseg1.toNat + tseg2.toNat) < 2 ^ 32) :
      WholeTiming { PcanBittiming.zero with brp := 1, tseg1, tseg2, sjw := 1 } :=
    ⟨show (1 : U32) ≠ 0 by decide, nonzero.1, nonzero.2, fits⟩
  have unknown : (10 * mhz : U32) ≠ 0 ∧ 10 * mhz ≠ 8 * mhz ∧ 10 * mhz ∉ ucanClocks := by decide
  exact ⟨unknown, whole 14 5 (by decide) (by decide), fun _ => whole 3 1 (by decide) (by decide)⟩

end PcanDriver

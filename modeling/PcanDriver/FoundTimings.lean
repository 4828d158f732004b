import PcanDriver.ClockConversion

/-!
What a timing that `pcan_bitrate_to_bittiming` found is worth: whether prescaler, segments and
jump width are those of the device, and rate and sample point those asked for.
-/
namespace PcanDriver
open BestScan

section Statement

structure TimingMeets (btc : PcanfdBittimingRange) (clk : U32) (bt timing : PcanBittiming) :
    Prop where
  brp : btc.brpMin ≤ timing.brp ∧ timing.brp ≤ btc.brpMax
  tseg1 : btc.tseg1Min ≤ timing.tseg1 ∧ timing.tseg1 ≤ btc.tseg1Max
  tseg2 : btc.tseg2Min ≤ timing.tseg2 ∧ timing.tseg2 ≤ btc.tseg2Max
  sjw : 1 ≤ timing.sjw ∧ timing.sjw ≤ btc.sjwMax ∧ timing.sjw ≤ timing.tseg2
  rate : RateNear (timingRate clk timing) bt.bitrate.toNat
  samplePoint : timing.samplePoint.toNat =
    10000 * (1 + timing.tseg1.toNat) / (1 + timing.tseg1.toNat + timing.tseg2.toNat)
  inTime : timing.samplePoint ≤ samplePointWanted bt

/-- The best bit length can have its sample point no later than asked for, with a quantum in its
    first segment. -/
def BestFits (btc : PcanfdBittimingRange) (clk : U32) (bt : PcanBittiming) : Prop :=
  ∃ n, BestCounter btc clk bt.bitrate (samplePointWanted bt) n ∧
    earliestSamplePoint btc (n / 2) 1 ≤ (samplePointWanted bt).toNat

end Statement

section Point
variable {btc : PcanfdBittimingRange} {sp tseg : U32} (regular : btc.Regular)
  (asked : sp.toNat ≤ 10000) (low : 2 ≤ tseg.toNat)
  (high : tseg.toNat ≤ btc.tseg1Max.toNat + btc.tseg2Max.toNat)
include regular asked low high

theorem update_point {tseg1 tseg2 : U32} {split : SamplePointSplit}
    (updated : pcanUpdateSamplePoint btc sp tseg tseg1 tseg2 = some split)
    (placed : split.error ≠ uintMax) :
    split.samplePoint.toNat = 10000 * (split.tseg1.toNat + 1) / (tseg.toNat + 1) := by
  obtain ⟨down, up, isDown, isUp, eq⟩ := update_eq regular asked low high
  have point {i : U32} (pass : i.toNat ≤ 1) {trial : SamplePointSplit}
      (proposed : samplePointTrial btc sp tseg i = some trial) :
      trial.samplePoint.toNat = 10000 * (trial.tseg1.toNat + 1) / (tseg.toNat + 1) := by
    obtain ⟨trial', proposed', -, -, at_, -⟩ :=
      samplePointTrial_spec regular low high asked i pass
    obtain rfl := Option.some.inj (proposed.symm.trans proposed')
    exact at_
  have downPoint := point (by decide) isDown
  have upPoint := point (by decide) isUp
  rw [eq] at updated
  have same := Option.some.inj updated
  split at same
  next =>
    unfold SamplePointSplit.better at same
    split at same
    · rw [← same]
      exact upPoint
    · rw [← same]
      exact downPoint
  next =>
    split at same
    · rw [← same]
      exact upPoint
    · exact absurd (congrArg SamplePointSplit.error same).symm placed

end Point

section Meets
variable {btc : PcanfdBittimingRange} {clk : U32} {bt timing : PcanBittiming} {n : Nat}

theorem offered_near_iff (slow : clk.toNat < 2 ^ 31) (nonzero : bt.bitrate ≠ 0)
    (offers : n ∈ Offers btc clk bt.bitrate)
    (near : rateError clk bt.bitrate n * 10000 / bt.bitrate.toNat ≤ 50) :
    RateNear (offeredRate clk bt.bitrate n) bt.bitrate.toNat ↔ bt.bitrate.toNat < 2 ^ 31 := by
  have low : 0 < bt.bitrate.toNat :=
    Nat.pos_of_ne_zero fun zero => nonzero (BitVec.eq_of_toNat_eq zero)
  have quanta : 3 ≤ prescaler clk bt.bitrate n * (n / 2 + 1) := by
    have counts := offers.1.1
    calc 3 ≤ 1 * (n / 2 + 1) := by omega
      _ ≤ prescaler clk bt.bitrate n * (n / 2 + 1) := Nat.mul_le_mul_right _ offers.2.1
  have third : offeredRate clk bt.bitrate n ≤ clk.toNat / 3 :=
    Nat.div_le_div_left quanta (by decide)
  constructor
  · intro close
    unfold RateNear at close
    omega
  · intro small
    have twice := offeredRate_le nonzero offers.2.1
    exact rateNear_of_error low small twice near

theorem sanitizedSjw_bounds (regular : btc.Regular) (sjw : U32) {tseg2 : U32}
    (positive : 1 ≤ tseg2.toNat) :
    1 ≤ sanitizedSjw btc sjw tseg2 ∧ sanitizedSjw btc sjw tseg2 ≤ btc.sjwMax ∧
      sanitizedSjw btc sjw tseg2 ≤ tseg2 := by
  have limit := regular.sjwMax.1
  have one : (1 : U32).toNat = 1 := rfl
  unfold sanitizedSjw
  simp only [BitVec.le_def, one]
  split
  next => exact ⟨Nat.le_refl 1, limit, positive⟩
  next given =>
    have user : sjw.toNat ≠ 0 := fun zero => given (.inl (BitVec.eq_of_toNat_eq zero))
    simp only [BitVec.lt_def]
    split <;> split <;> omega

theorem placed_point (regular : btc.Regular) (asked : bt.samplePoint.toNat ≤ 10000)
    (found : FoundTiming btc clk bt n timing) (point : PointOf btc bt n timing)
    (placed : splitError btc (samplePointWanted bt) n < unplaced) :
    timing.samplePoint.toNat = 10000 * (1 + timing.tseg1.toNat) / (n / 2 + 1) ∧
      timing.samplePoint ≤ samplePointWanted bt := by
  have counts := found.best.1.1
  have wanted := samplePointWanted_le asked
  obtain ⟨half, low, high⟩ := half_toNat regular counts
  have updated := update_eq_splitFor regular counts wanted 0 0
  rw [if_pos placed] at updated
  have error : (splitFor btc (samplePointWanted bt) n).error ≠ uintMax := by
    intro top
    unfold splitError at placed
    rw [top] at placed
    exact absurd placed (Nat.lt_irrefl _)
  have low' : 2 ≤ (BitVec.ofNat 32 (n / 2)).toNat := by rwa [half]
  have high' : (BitVec.ofNat 32 (n / 2)).toNat ≤ btc.tseg1Max.toNat + btc.tseg2Max.toNat := by
    rwa [half]
  have at_ := update_point regular wanted low' high' updated error
  obtain ⟨first, -⟩ := found.segments n (.inl ⟨found.best, placed⟩)
  unfold PointOf at point
  rw [if_pos placed] at point
  rw [half, ← point, ← first, Nat.add_comm timing.tseg1.toNat 1] at at_
  refine ⟨at_, BitVec.le_def.mpr ?_⟩
  rcases splitFor_cases regular counts wanted with ⟨-, -, inTime, -⟩ | ⟨-, same, -⟩
  · have before := inTime.inTime
    rwa [half, ← first, Nat.add_comm timing.tseg1.toNat 1, ← at_] at before
  · omega

theorem placed_meets_iff (regular : btc.Regular) (slow : clk.toNat < 2 ^ 31)
    (nonzero : bt.bitrate ≠ 0) (asked : bt.samplePoint.toNat ≤ 10000)
    (offered : RateOffered btc clk bt.bitrate) (found : FoundTiming btc clk bt n timing)
    (point : PointOf btc bt n timing)
    (placed : splitError btc (samplePointWanted bt) n < unplaced) :
    TimingMeets btc clk bt timing ↔ bt.bitrate.toNat < 2 ^ 31 ∧
      earliestSamplePoint btc (n / 2) 1 ≤ (samplePointWanted bt).toNat := by
  have offers := found.best.1
  have wanted := samplePointWanted_le asked
  have supplies : SplitCounter btc clk bt.bitrate (samplePointWanted bt) n :=
    .inl ⟨found.best, placed⟩
  obtain ⟨sum, first, second, least⟩ := found.supplied regular asked supplies
  obtain ⟨other, member, close⟩ := offered
  have near : rateError clk bt.bitrate n * 10000 / bt.bitrate.toNat ≤ 50 :=
    Nat.le_trans (Nat.div_le_div_right (Nat.mul_le_mul_right _ (found.best.error_le member))) close
  have rate : timingRate clk timing = offeredRate clk bt.bitrate n := by
    have quanta : 1 + timing.tseg1.toNat + timing.tseg2.toNat = n / 2 + 1 := by omega
    rw [timingRate, offeredRate, found.brp, quanta]
  have rate_iff := offered_near_iff slow nonzero offers near
  rw [← rate] at rate_iff
  have one : (1 : U32).toNat = 1 := rfl
  constructor
  · intro meets
    refine ⟨rate_iff.mp meets.rate, least.mp ?_⟩
    have atLeast := BitVec.le_def.mp meets.tseg1.1
    rwa [regular.tseg1Min, one] at atLeast
  · rintro ⟨small, early⟩
    obtain ⟨at_, inTime⟩ := placed_point regular asked found point placed
    have sjw := sanitizedSjw_bounds regular bt.sjw second.1
    have nonempty := least.mpr early
    have quanta : n / 2 + 1 = 1 + timing.tseg1.toNat + timing.tseg2.toNat := by omega
    refine ⟨⟨?_, ?_⟩, ⟨?_, BitVec.le_def.mpr first⟩, ⟨?_, BitVec.le_def.mpr second.2⟩,
      found.sjw ▸ sjw, rate_iff.mpr small, quanta ▸ at_, inTime⟩
    · rw [regular.brpMin, BitVec.le_def, one, found.brp]
      exact offers.2.1
    · rw [BitVec.le_def, found.brp]
      exact offers.2.2
    · rw [regular.tseg1Min, BitVec.le_def, one]
      exact nonempty
    · rw [regular.tseg2Min, BitVec.le_def, one]
      exact second.1

theorem unplaced_fails (regular : btc.Regular) (asked : bt.samplePoint.toNat ≤ 10000)
    (found : FoundTiming btc clk bt n timing) (point : PointOf btc bt n timing)
    (not : ¬splitError btc (samplePointWanted bt) n < unplaced) :
    ¬TimingMeets btc clk bt timing := by
  intro meets
  obtain ⟨-, first, second⟩ := found.bounds regular asked
  have segments := regular.segments
  unfold PointOf at point
  rw [if_neg not] at point
  have reported := meets.samplePoint
  rw [point] at reported
  have zero : (0 : U32).toNat = 0 := rfl
  have positive : 0 < 10000 * (1 + timing.tseg1.toNat) /
      (1 + timing.tseg1.toNat + timing.tseg2.toNat) := by
    rw [Nat.div_pos_iff]
    omega
  omega

/-- A timing is what is expected of it, whenever one is returned, exactly if no rate is near
    enough (or the loop traps), or the rate is below 2^31 and the best bit length can have its
    sample point in time with a quantum in each segment. -/
theorem found_meets_iff (regular : btc.Regular) (slow : clk.toNat < 2 ^ 31) (positive : clk ≠ 0)
    (nonzero : bt.bitrate ≠ 0) (asked : bt.samplePoint.toNat ≤ 10000) :
    (∀ timing, pcanBitrateToBittiming bt btc clk = some (0, timing) →
        TimingMeets btc clk bt timing) ↔
      RateWraps btc bt.bitrate ∨ ¬RateOffered btc clk bt.bitrate ∨
        (bt.bitrate.toNat < 2 ^ 31 ∧ BestFits btc clk bt) := by
  have wanted := samplePointWanted_le asked
  by_cases wraps : RateWraps btc bt.bitrate
  · refine iff_of_true (fun timing result => ?_) (.inl wraps)
    rw [bitrateToBittiming_traps regular slow asked wraps] at result
    cases result
  rw [or_iff_right wraps]
  rcases bitrateToBittiming_points regular slow positive nonzero asked wraps with
    ⟨refused, answer⟩ | ⟨offered, n, timing, answer, found, point⟩
  · refine iff_of_true (fun timing result => ?_) (.inl refused)
    rw [answer] at result
    have edom_zero : -edom = 0 := congrArg Prod.fst (Option.some.inj result)
    exact absurd edom_zero (by decide)
  · rw [or_iff_right (not_not.mpr offered)]
    have only : (∀ timing, pcanBitrateToBittiming bt btc clk = some (0, timing) →
        TimingMeets btc clk bt timing) ↔ TimingMeets btc clk bt timing := by
      rw [answer]
      constructor
      · exact fun all => all timing rfl
      · intro meets other same
        obtain rfl : timing = other := congrArg Prod.snd (Option.some.inj same)
        exact meets
    have fits : BestFits btc clk bt ↔
        earliestSamplePoint btc (n / 2) 1 ≤ (samplePointWanted bt).toNat := by
      refine ⟨fun ⟨m, best, early⟩ => ?_, fun early => ⟨n, found.best, early⟩⟩
      obtain rfl := best.unique found.best
      exact early
    rw [only, fits]
    by_cases placed : splitError btc (samplePointWanted bt) n < unplaced
    · exact placed_meets_iff regular slow nonzero asked offered found point placed
    · refine iff_of_false (unplaced_fails regular asked found point placed) fun both => placed ?_
      have wider : earliestSamplePoint btc (n / 2) 0 ≤ earliestSamplePoint btc (n / 2) 1 := by
        unfold earliestSamplePoint
        exact Nat.div_le_div_right (Nat.mul_le_mul_left _ (by omega))
      exact (placed_iff regular found.best.1.1 wanted).mpr (Nat.le_trans wider both.2)

end Meets

section Samples

def askedRate (bitrate samplePoint : U32) : PcanBittiming :=
  { PcanBittiming.zero with bitrate, samplePoint }

theorem half_megabit_best :
    BestCounter sja1000Capabilities (8 * mhz) 500000 (samplePointWanted (askedRate 500000 0))
      30 := by
  have busy : ∀ c < 50, 30 < c → ¬(rateError (8 * mhz) 500000 c = 0 ∧
      splitError sja1000Capabilities (samplePointWanted (askedRate 500000 0)) c = 0) := by
    decide +kernel
  have member : 30 ∈ Offers sja1000Capabilities (8 * mhz) 500000 := by decide +kernel
  refine @best_of_free _ _ _ _ _ (fun c => c < 50 ∧ 30 < c) _ member
    ⟨by decide +kernel, by decide +kernel⟩ ?_ ?_
  · rintro c ⟨small, above⟩ free
    exact busy c small above free
  · rintro c ⟨⟨-, top⟩, -⟩
    have last : 2 * (sja1000Capabilities.tseg1Max.toNat + sja1000Capabilities.tseg2Max.toNat) + 1 =
        49 := by decide
    rcases Nat.lt_or_ge 30 c with above | below
    · exact .inl ⟨by omega, above⟩
    · exact .inr below

theorem half_megabit_meets : ∃ timing,
    pcanBitrateToBittiming (askedRate 500000 0) sja1000Capabilities (8 * mhz) =
      some (0, timing) ∧
    TimingMeets sja1000Capabilities (8 * mhz) (askedRate 500000 0) timing := by
  have answer : (pcanBitrateToBittiming (askedRate 500000 0) sja1000Capabilities
      (8 * mhz)).map Prod.fst = some 0 := by
    decide +kernel
  obtain ⟨⟨err, timing⟩, result, rfl⟩ := Option.map_eq_some_iff.mp answer
  exact ⟨timing, result, (found_meets_iff sja1000Capabilities_regular (by decide) (by decide)
    (by decide) (by decide)).mpr
      (.inr (.inr ⟨by decide, 30, half_megabit_best, by decide +kernel⟩)) timing result⟩

/-- No quanta at all are returned for a sample point of 0.01 percent, and a rate above the clock
    itself is taken for a near one. -/
theorem timings_not_met :
    (¬∀ timing, pcanBitrateToBittiming (askedRate 500000 1) sja1000Capabilities (8 * mhz) =
        some (0, timing) →
      TimingMeets sja1000Capabilities (8 * mhz) (askedRate 500000 1) timing) ∧
    ¬∀ timing, pcanBitrateToBittiming (askedRate 0xffffffff 0) sja1000Capabilities (8 * mhz) =
        some (0, timing) →
      TimingMeets sja1000Capabilities (8 * mhz) (askedRate 0xffffffff 0) timing := by
  constructor
  · intro all
    have answer : (pcanBitrateToBittiming (askedRate 500000 1) sja1000Capabilities
        (8 * mhz)).map (fun result => (result.1, result.2.tseg1)) = some (0, 0) := by
      decide +kernel
    obtain ⟨⟨err, timing⟩, result, same⟩ := Option.map_eq_some_iff.mp answer
    obtain ⟨rfl, empty⟩ := Prod.mk.inj same
    have least := (all timing result).tseg1.1
    rw [empty] at least
    exact absurd least (by decide)
  · intro all
    have answer : (pcanBitrateToBittiming (askedRate 0xffffffff 0) sja1000Capabilities
        (8 * mhz)).map (fun result => (result.1, timingRate (8 * mhz) result.2)) =
          some (0, 320000) := by
      decide +kernel
    obtain ⟨⟨err, timing⟩, result, same⟩ := Option.map_eq_some_iff.mp answer
    obtain ⟨rfl, slower⟩ := Prod.mk.inj same
    have near := (all timing result).rate
    rw [slower] at near
    exact absurd near (by decide)

end Samples

end PcanDriver

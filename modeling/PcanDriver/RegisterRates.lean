import PcanDriver.Lib.NearestDivisor
import PcanDriver.FoundTimings
import PcanDriver.TextParse
import PcanDriver.TimingDivisors
import PcanDriver.TimingRegisters

/-!
The register word that the driver answers for a bit rate (`sja1000_bitrate`, request
`PCAN_BTR0BTR1`). The word is made of what the search leaves behind, whether it succeeded or not.
-/
namespace PcanDriver
open NearestDivisor

section Statement

def decodedRate (btr0btr1 : U16) : Nat :=
  (pcanBtr0btr1ToBittiming PcanBittiming.zero btr0btr1).bitrate.toNat

def Reachable (rate : Nat) : Prop :=
  ∃ brp tseg1 tseg2, (1 ≤ brp ∧ brp ≤ 64) ∧ (1 ≤ tseg1 ∧ tseg1 ≤ 16) ∧ (1 ≤ tseg2 ∧ tseg2 ≤ 8) ∧
    RateNear (8000000 / (brp * (1 + tseg1 + tseg2))) rate

end Statement

section Words
variable {bt : PcanBittiming}

theorem btrTiming_fields (pbt : PcanBittiming) (btr0btr1 : U16) :
    (btrTiming pbt (btr0btr1.setWidth 32)).brp.toNat = 1 + btr0btr1.toNat / 2 ^ 8 % 2 ^ 6 ∧
      (btrTiming pbt (btr0btr1.setWidth 32)).tseg1.toNat = 1 + btr0btr1.toNat % 2 ^ 4 ∧
      (btrTiming pbt (btr0btr1.setWidth 32)).tseg2.toNat =
        1 + btr0btr1.toNat / 2 ^ 4 % 2 ^ 3 := by
  have size := btr0btr1.isLt
  have word : (btr0btr1.setWidth 32).toNat = btr0btr1.toNat := by
    rw [BitVec.toNat_setWidth]
    omega
  have one : (1 : U32).toNat = 1 := rfl
  have brp := @Masks.toNat_masked_shift 32 (btr0btr1.setWidth 32) 0x3f00 8 6 (by decide)
  have tseg2 := @Masks.toNat_masked_shift 32 (btr0btr1.setWidth 32) 0x0070 4 3 (by decide)
  have tseg1 := @Masks.toNat_masked_shift 32 (btr0btr1.setWidth 32) 0x000f 0 4 (by decide)
  rw [word] at brp tseg2 tseg1
  rw [BitVec.ushiftRight_zero, Nat.pow_zero, Nat.div_one] at tseg1
  unfold btrTiming
  rw [BitVec.toNat_add, BitVec.toNat_add, BitVec.toNat_add, brp, tseg1, tseg2, one]
  omega

theorem decodedRate_eq (btr0btr1 : U16) : decodedRate btr0btr1 =
    8000000 / ((1 + btr0btr1.toNat / 2 ^ 8 % 2 ^ 6) *
      (1 + (1 + btr0btr1.toNat % 2 ^ 4) + (1 + btr0btr1.toNat / 2 ^ 4 % 2 ^ 3))) := by
  have clock : (8 * mhz : U32).toNat = 8000000 := by decide
  obtain ⟨brp, tseg1, tseg2⟩ := btrTiming_fields PcanBittiming.zero btr0btr1
  unfold decodedRate
  rw [pcanBtr0btr1ToBittiming_rated, ratedTiming]
  dsimp only
  rw [BitVec.toNat_udiv, clock, quantaProduct_toNat (by omega) (by omega) (by omega), brp, tseg1,
    tseg2]

theorem decodedRate_packed (brp : 1 ≤ bt.brp.toNat ∧ bt.brp.toNat ≤ 64)
    (tseg1 : 1 ≤ bt.tseg1.toNat ∧ bt.tseg1.toNat ≤ 16)
    (tseg2 : 1 ≤ bt.tseg2.toNat ∧ bt.tseg2.toNat ≤ 8)
    (sjw : 1 ≤ bt.sjw.toNat ∧ bt.sjw.toNat ≤ 4) :
    decodedRate (pcanBittimingToBtr0btr1 bt) = timingRate (8 * mhz) bt := by
  have clock : (8 * mhz : U32).toNat = 8000000 := by decide
  obtain ⟨-, brp', -, tseg2', tseg1'⟩ := btr0btr1_exact brp tseg1 tseg2 sjw
  rw [decodedRate_eq, timingRate, clock, Nat.add_comm 1 (_ / 2 ^ 8 % 2 ^ 6),
    Nat.add_comm 1 (_ % 2 ^ 4), Nat.add_comm 1 (_ / 2 ^ 4 % 2 ^ 3), brp', tseg1', tseg2']

end Words

section Search
variable {rate : U32}

def rateRequest (dwBitRate : U32) : PcanBittiming :=
  { PcanBittiming.zero with bitrate := dwBitRate, sjw := sja1000Capabilities.sjwMin }

theorem sja1000Bitrate_eq (dwBitRate : U32) : sja1000Bitrate dwBitRate 0 0 =
    (pcanBitrateToBittiming (rateRequest dwBitRate) sja1000Capabilities (8 * mhz)).map
      fun result => pcanBittimingToBtr0btr1 result.2 := by
  unfold sja1000Bitrate
  change (pcanBitrateToBittiming (rateRequest dwBitRate) sja1000Capabilities (8 * mhz)).bind _ = _
  cases pcanBitrateToBittiming (rateRequest dwBitRate) sja1000Capabilities (8 * mhz) <;> rfl

theorem rateRequest_point (dwBitRate : U32) :
    (rateRequest dwBitRate).samplePoint.toNat ≤ 10000 ∧
      7500 ≤ (samplePointWanted (rateRequest dwBitRate)).toNat := by
  refine ⟨Nat.zero_le _, ?_⟩
  unfold samplePointWanted
  split
  next given => exact absurd rfl given
  next =>
    split
    · decide
    · split <;> decide

theorem default_point_early {n : Nat} (counts : 4 ≤ n ∧ n ≤ 49) :
    earliestSamplePoint sja1000Capabilities (n / 2) 1 ≤ 7500 := by
  have all : ∀ half < 25, 2 ≤ half →
      earliestSamplePoint sja1000Capabilities half 1 ≤ 7500 := by decide
  exact all (n / 2) (by omega) (by omega)

theorem clock_toNat : (8 * mhz : U32).toNat = 8000000 := by decide

theorem Reachable.range {rate : Nat} (reachable : Reachable rate) :
    4950 ≤ rate ∧ rate ≤ 2700000 := by
  obtain ⟨brp, tseg1, tseg2, brps, first, second, near⟩ := reachable
  have least : 3 ≤ brp * (1 + tseg1 + tseg2) :=
    Nat.le_trans (by omega) (Nat.le_mul_of_pos_left (1 + tseg1 + tseg2) brps.1)
  have most : brp * (1 + tseg1 + tseg2) ≤ 64 * 25 := Nat.mul_le_mul brps.2 (by omega)
  have fastest : 8000000 / (brp * (1 + tseg1 + tseg2)) ≤ 8000000 / 3 :=
    Nat.div_le_div_left least (by decide)
  have slowest : 8000000 / (64 * 25) ≤ 8000000 / (brp * (1 + tseg1 + tseg2)) :=
    Nat.div_le_div_left most (by omega)
  unfold RateNear at near
  omega

theorem rateNear_iff_dist (real meant : Nat) :
    RateNear real meant ↔ Nat.dist meant real * 10000 < 51 * meant := by
  unfold RateNear Nat.dist
  omega

theorem rateError_dist (n : Nat) (small : rate.toNat ≤ 2700000) :
    rateError (8 * mhz) rate n = Nat.dist rate.toNat (offeredRate (8 * mhz) rate n) := by
  have less : offeredRate (8 * mhz) rate n ≤ 8000000 := by
    unfold offeredRate
    rw [clock_toNat]
    exact Nat.div_le_self _ _
  unfold rateError wordDistance Nat.dist
  omega

theorem Reachable.offered (reachable : Reachable rate.toNat) :
    ∃ n ∈ Offers sja1000Capabilities (8 * mhz) rate,
      rateError (8 * mhz) rate n * 10000 < 51 * rate.toNat := by
  obtain ⟨low, high⟩ := reachable.range
  obtain ⟨brp, tseg1, tseg2, brps, first, second, near⟩ := reachable
  have reached : 8000000 / (25 * rate.toNat) ≤ 64 := by
    refine Nat.le_of_lt_succ ((Nat.div_lt_iff_lt_mul (by omega)).mpr ?_)
    omega
  obtain ⟨b, t, range, ⟨later, limit⟩, rounded, nearer⟩ :=
    @rounded_nearest 8000000 rate.toNat brp (1 + tseg1 + tseg2) 25 64 (by omega) reached (by omega)
      (by omega) brps.1 brps.2
  have product : t * rate.toNat < 2 ^ 32 :=
    Nat.lt_of_le_of_lt (Nat.mul_le_mul limit high) (by decide)
  have counter : ∃ n, n / 2 + 1 = t ∧ prescaler (8 * mhz) rate n = b := by
    unfold prescaler
    rw [clock_toNat]
    rcases rounded with same | same
    · have half : 2 * (t - 1) / 2 + 1 = t := by omega
      refine ⟨2 * (t - 1), half, ?_⟩
      rw [half, Nat.mod_eq_of_lt product, same]
      omega
    · have half : (2 * (t - 1) + 1) / 2 + 1 = t := by omega
      refine ⟨2 * (t - 1) + 1, half, ?_⟩
      rw [half, Nat.mod_eq_of_lt product, same]
      omega
  obtain ⟨n, quanta, value⟩ := counter
  have offers : n ∈ Offers sja1000Capabilities (8 * mhz) rate := by
    have last : 2 * (sja1000Capabilities.tseg1Max.toNat + sja1000Capabilities.tseg2Max.toNat) + 1 =
        49 := by decide
    have most : sja1000Capabilities.brpMax.toNat = 64 := by decide
    refine ⟨⟨by omega, by omega⟩, ?_⟩
    rw [value, most]
    exact range
  refine ⟨n, offers, ?_⟩
  rw [rateError_dist n high, offeredRate, value, quanta, clock_toNat]
  exact Nat.lt_of_le_of_lt (Nat.mul_le_mul_right 10000 nearer)
    ((rateNear_iff_dist _ _).mp near)

theorem found_registers {n : Nat} {timing : PcanBittiming}
    (found : FoundTiming sja1000Capabilities (8 * mhz) (rateRequest rate) n timing) :
    (1 ≤ timing.brp.toNat ∧ timing.brp.toNat ≤ 64) ∧
      (1 ≤ timing.tseg1.toNat ∧ timing.tseg1.toNat ≤ 16) ∧
      (1 ≤ timing.tseg2.toNat ∧ timing.tseg2.toNat ≤ 8) ∧
      (1 ≤ timing.sjw.toNat ∧ timing.sjw.toNat ≤ 4) ∧
      timing.tseg1.toNat + timing.tseg2.toNat = n / 2 := by
  have regular := sja1000Capabilities_regular
  obtain ⟨asked, wanted⟩ := rateRequest_point rate
  have counts := found.best.1.1
  have last : 2 * (sja1000Capabilities.tseg1Max.toNat + sja1000Capabilities.tseg2Max.toNat) + 1 =
      49 := by decide
  have early := default_point_early ⟨counts.1, last ▸ counts.2⟩
  have wider : earliestSamplePoint sja1000Capabilities (n / 2) 0 ≤
      earliestSamplePoint sja1000Capabilities (n / 2) 1 := by
    unfold earliestSamplePoint
    exact Nat.div_le_div_right (Nat.mul_le_mul_left _ (by omega))
  have placed := (placed_iff regular counts (samplePointWanted_le asked)).mpr
    (Nat.le_trans wider (Nat.le_trans early wanted))
  obtain ⟨brp, -, -⟩ := found.bounds regular asked
  obtain ⟨sum, first, second, least⟩ := found.supplied regular asked (.inl ⟨found.best, placed⟩)
  have sjw := sanitizedSjw_bounds regular (rateRequest rate).sjw second.1
  rw [← found.sjw] at sjw
  exact ⟨brp, ⟨least.mpr (Nat.le_trans early wanted), first⟩, second,
    ⟨BitVec.le_def.mp sjw.1, BitVec.le_def.mp sjw.2.1⟩, sum⟩

theorem found_decoded {n : Nat} {timing : PcanBittiming}
    (found : FoundTiming sja1000Capabilities (8 * mhz) (rateRequest rate) n timing) :
    decodedRate (pcanBittimingToBtr0btr1 timing) = offeredRate (8 * mhz) rate n := by
  obtain ⟨brp, tseg1, tseg2, sjw, sum⟩ := found_registers found
  have quanta : 1 + timing.tseg1.toNat + timing.tseg2.toNat = n / 2 + 1 := by omega
  rw [decodedRate_packed brp tseg1 tseg2 sjw, timingRate, quanta, found.brp]
  rfl

theorem Reachable.answered (reachable : Reachable rate.toNat) :
    ∃ word, sja1000Bitrate rate 0 0 = some word ∧ RateNear (decodedRate word) rate.toNat := by
  have clock : (8 * mhz : U32).toNat < 2 ^ 31 ∧ (8 * mhz : U32) ≠ 0 := by decide
  obtain ⟨low, high⟩ := reachable.range
  obtain ⟨m, offers, near⟩ := reachable.offered
  have nonzero : (rateRequest rate).bitrate ≠ 0 := by
    intro zero
    have none : rate.toNat = 0 := congrArg BitVec.toNat zero
    omega
  have safe : ¬RateWraps sja1000Capabilities (rateRequest rate).bitrate := by
    intro wraps
    have multiple : 2 ^ 28 ∣ rate.toNat := (sja1000_wraps_iff rate).mp wraps
    have least := Nat.le_of_dvd (by omega) multiple
    omega
  have offered : RateOffered sja1000Capabilities (8 * mhz) (rateRequest rate).bitrate := by
    refine ⟨m, offers, Nat.le_of_lt_succ ?_⟩
    have positive : 0 < (rateRequest rate).bitrate.toNat := Nat.lt_of_lt_of_le (by decide) low
    rw [Nat.div_lt_iff_lt_mul positive]
    exact near
  rw [sja1000Bitrate_eq]
  rcases bitrateToBittiming_cases sja1000Capabilities_regular clock.1 clock.2 nonzero
    (rateRequest_point rate).1 safe with ⟨refused, -⟩ | ⟨-, n, timing, answer, found⟩
  · exact absurd offered refused
  · refine ⟨_, by rw [answer]; rfl, ?_⟩
    have least : rateError (8 * mhz) rate n ≤ rateError (8 * mhz) rate m :=
      found.best.error_le offers
    have best := Nat.lt_of_le_of_lt (Nat.mul_le_mul_right 10000 least) near
    rw [rateError_dist n high] at best
    rw [found_decoded found]
    exact (rateNear_iff_dist _ _).mpr best

theorem refused_word (dwBitRate : U32) :
    pcanBittimingToBtr0btr1 (rateRequest dwBitRate) = 0x3f7f := by
  have fixed : pcanBittimingToBtr0btr1 { PcanBittiming.zero with sjw := 1 } = 0x3f7f := by decide
  exact (btr0btr1_congr rfl rfl rfl rfl rfl).trans fixed

theorem zero_word {n : Nat} {timing : PcanBittiming}
    (found : FoundTiming sja1000Capabilities (8 * mhz) (rateRequest rate) n timing)
    (zero : pcanBittimingToBtr0btr1 timing = 0) : offeredRate (8 * mhz) rate n = 2666666 := by
  rw [← found_decoded found, zero]
  decide +kernel

theorem found_reachable {n : Nat} {timing : PcanBittiming}
    (offered : RateOffered sja1000Capabilities (8 * mhz) (rateRequest rate).bitrate)
    (found : FoundTiming sja1000Capabilities (8 * mhz) (rateRequest rate) n timing)
    (nonzero : (rateRequest rate).bitrate ≠ 0) (small : rate.toNat < 2 ^ 31) :
    Reachable rate.toNat := by
  obtain ⟨m, member, close⟩ := offered
  have near := Nat.le_trans
    (Nat.div_le_div_right (Nat.mul_le_mul_right 10000 (found.best.error_le member))) close
  have rated := (offered_near_iff (by decide) nonzero found.best.1 near).mpr small
  obtain ⟨brp, tseg1, tseg2, -, sum⟩ := found_registers found
  refine ⟨timing.brp.toNat, timing.tseg1.toNat, timing.tseg2.toNat, brp, tseg1, tseg2, ?_⟩
  have quanta : 1 + timing.tseg1.toNat + timing.tseg2.toNat = n / 2 + 1 := by omega
  rw [quanta, found.brp]
  exact rated

theorem fast_word {n : Nat} {timing : PcanBittiming}
    (offered : RateOffered sja1000Capabilities (8 * mhz) (rateRequest rate).bitrate)
    (found : FoundTiming sja1000Capabilities (8 * mhz) (rateRequest rate) n timing)
    (large : 2 ^ 31 ≤ rate.toNat) : offeredRate (8 * mhz) rate n ≠ 2666666 := by
  intro fastest
  have size := rate.isLt
  obtain ⟨m, member, close⟩ := offered
  have near : rateError (8 * mhz) rate n * 10000 / rate.toNat ≤ 50 := Nat.le_trans
    (Nat.div_le_div_right (Nat.mul_le_mul_right 10000 (found.best.error_le member))) close
  have limit := (Nat.div_lt_iff_lt_mul (by omega)).mp (Nat.lt_succ_of_le near)
  have seen : rateError (8 * mhz) rate n = wordDistance rate.toNat 2666666 := by
    rw [rateError, fastest]
  rw [seen] at limit
  unfold wordDistance at limit seen
  -- the longest bit is offered too, and its rate is farther from 2^32
  have close_ : 2 ^ 32 - rate.toNat ≤ 25000000 := by omega
  have product : (49 / 2 + 1) * rate.toNat =
      24 * 2 ^ 32 + (2 ^ 32 - 25 * (2 ^ 32 - rate.toNat)) := by omega
  have wrapped : 8000000 < (49 / 2 + 1) * rate.toNat % 2 ^ 32 := by
    rw [product, Nat.mul_add_mod', Nat.mod_eq_of_lt (by omega)]
    omega
  have prescaler_one : prescaler (8 * mhz) rate 49 = 1 := by
    rw [prescaler, clock_toNat, Nat.div_eq_of_lt wrapped]
  have slow : offeredRate (8 * mhz) rate 49 = 320000 := by
    rw [offeredRate, prescaler_one, clock_toNat]
  have offers : 49 ∈ Offers sja1000Capabilities (8 * mhz) (rateRequest rate).bitrate := by
    refine ⟨by decide, ?_⟩
    have one : prescaler (8 * mhz) (rateRequest rate).bitrate 49 = 1 := prescaler_one
    rw [one]
    decide
  have least : rateError (8 * mhz) rate n ≤ rateError (8 * mhz) rate 49 :=
    found.best.error_le offers
  rw [seen, rateError, slow] at least
  unfold wordDistance at least
  omega

/-- A rate that cannot be met is answered by a word other than 0, or by a divide error. -/
theorem unreachable_answered (unreachable : ¬Reachable rate.toNat) :
    sja1000Bitrate rate 0 0 ≠ some 0 := by
  rw [sja1000Bitrate_eq]
  intro zero
  have clock : (8 * mhz : U32).toNat < 2 ^ 31 ∧ (8 * mhz : U32) ≠ 0 := by decide
  obtain ⟨asked, -⟩ := rateRequest_point rate
  by_cases safe : RateWraps sja1000Capabilities (rateRequest rate).bitrate
  · rw [bitrateToBittiming_traps sja1000Capabilities_regular clock.1 asked safe] at zero
    cases zero
  have nonzero : (rateRequest rate).bitrate ≠ 0 := by
    intro none
    refine safe ?_
    rw [none]
    exact Nat.dvd_zero _
  rcases bitrateToBittiming_cases sja1000Capabilities_regular clock.1 clock.2 nonzero asked safe
    with ⟨-, refused⟩ | ⟨offered, n, timing, answer, found⟩
  · rw [refused] at zero
    have word := (refused_word rate).symm.trans (Option.some.inj zero)
    exact absurd word (by decide)
  · rw [answer] at zero
    have three := zero_word found (Option.some.inj zero)
    rcases Nat.lt_or_ge rate.toNat (2 ^ 31) with small | large
    · exact unreachable (found_reachable offered found nonzero small)
    · exact fast_word offered found large three

/-- The word for a rate is right, when it is not 0, and 0 for a rate that no timing meets, exactly
    for the rates that some timing meets. -/
theorem sja1000_word_iff (dwBitRate : U32) :
    ((∀ word, pcanIoctlBtr0btr1 dwBitRate = some word → word ≠ 0 →
          RateNear (decodedRate word) dwBitRate.toNat) ∧
        (¬Reachable dwBitRate.toNat → pcanIoctlBtr0btr1 dwBitRate = some 0)) ↔
      Reachable dwBitRate.toNat := by
  unfold pcanIoctlBtr0btr1
  constructor
  · rintro ⟨-, none⟩
    by_contra unreachable
    exact unreachable_answered unreachable (none unreachable)
  · intro reachable
    obtain ⟨answer, same, near⟩ := reachable.answered
    refine ⟨fun word found _ => ?_, fun unreachable => absurd reachable unreachable⟩
    obtain rfl := Option.some.inj (same.symm.trans found)
    exact near

theorem slow_rate_answered : ¬(∀ dwBitRate word, pcanIoctlBtr0btr1 dwBitRate = some word →
    word ≠ 0 → RateNear (decodedRate word) dwBitRate.toNat) := by
  intro all
  have near := all 1 0x3f7f (by decide +kernel) (by decide)
  exact absurd near (by decide +kernel)

end Search

end PcanDriver

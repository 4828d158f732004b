import Mathlib.Data.Nat.Factorization.Basic
import Mathlib.Tactic.Ring
import PcanDriver.RateSearch

/-!
What `pcan_bitrate_to_bittiming` answers for every rate: when a divisor of its loop
wraps to zero, when the rate is refused, and which prescaler and segments it leaves
otherwise.
-/
namespace PcanDriver
open BestScan

section Wrapping

theorem two_pow_dvd_of_mul {k r a : Nat} {bits : Nat} (bound : k < 2 ^ (a + 1)) (positive : 0 < k)
    (wraps : 2 ^ bits ∣ k * r) : 2 ^ (bits - a) ∣ r := by
  obtain ⟨e, m, odd, rfl⟩ := Nat.exists_eq_two_pow_mul_odd (Nat.pos_iff_ne_zero.mp positive)
  have small : e ≤ a := by
    have le : 2 ^ e ≤ 2 ^ e * m := Nat.le_mul_of_pos_right _ odd.pos
    exact Nat.lt_succ_iff.mp ((Nat.pow_lt_pow_iff_right (by decide)).mp (Nat.lt_of_le_of_lt le bound))
  have part : 2 ^ (bits - e) ∣ m * r := by
    rcases Nat.lt_or_ge bits e with short | long
    · rw [Nat.sub_eq_zero_of_le (Nat.le_of_lt short)]
      exact Nat.one_dvd _
    · rw [mul_assoc] at wraps
      apply Nat.dvd_of_mul_dvd_mul_left (Nat.pow_pos (n := e) (by decide : 0 < 2))
      rwa [← Nat.pow_add, Nat.add_sub_cancel' long]
  have coprime : Nat.Coprime (2 ^ (bits - e)) m :=
    Nat.Coprime.pow_left _ (Nat.coprime_two_left.mpr odd)
  exact Nat.dvd_trans (Nat.pow_dvd_pow 2 (by omega)) (coprime.dvd_of_dvd_mul_left part)

/-- Rates whose product with some number of quanta is a multiple of `2 ^ 32`. -/
def RateWraps (btc : PcanfdBittimingRange) (rate : U32) : Prop :=
  2 ^ (32 - Nat.log2 (1 + btc.tseg1Max.toNat + btc.tseg2Max.toNat)) ∣ rate.toNat

variable {btc : PcanfdBittimingRange} {clk rate sp : U32} (regular : btc.Regular)
include regular

theorem quanta_log : 2 ^ Nat.log2 (1 + btc.tseg1Max.toNat + btc.tseg2Max.toNat) ≤
      1 + btc.tseg1Max.toNat + btc.tseg2Max.toNat ∧
    1 + btc.tseg1Max.toNat + btc.tseg2Max.toNat <
      2 ^ (Nat.log2 (1 + btc.tseg1Max.toNat + btc.tseg2Max.toNat) + 1) ∧
    2 ≤ Nat.log2 (1 + btc.tseg1Max.toNat + btc.tseg2Max.toNat) ∧
    Nat.log2 (1 + btc.tseg1Max.toNat + btc.tseg2Max.toNat) ≤ 10 := by
  have segments := regular.segments
  have sjwMax := regular.sjwMax
  generalize quanta : 1 + btc.tseg1Max.toNat + btc.tseg2Max.toNat = q
  have nonzero : q ≠ 0 := by omega
  refine ⟨Nat.log2_self_le nonzero, Nat.lt_log2_self, ?_, ?_⟩
  · exact (Nat.le_log2 nonzero).mpr (by omega)
  · exact Nat.le_of_lt_succ ((Nat.log2_lt nonzero).mpr (by omega))

theorem wrapping_counter (wraps : RateWraps btc rate) : ∃ n ∈ counters btc,
    n / 2 + 1 = 2 ^ Nat.log2 (1 + btc.tseg1Max.toNat + btc.tseg2Max.toNat) ∧
    (n / 2 + 1) * rate.toNat % 2 ^ 32 = 0 := by
  obtain ⟨le, lt, low, high⟩ := quanta_log regular
  simp only [mem_counters regular, RateWraps] at wraps ⊢
  generalize Nat.log2 _ = bits at *
  have four : 2 ^ 2 ≤ 2 ^ bits := Nat.pow_le_pow_right (by decide) low
  have half : 2 * (2 ^ bits - 1) / 2 + 1 = 2 ^ bits := by omega
  have whole : 2 ^ 32 = 2 ^ bits * 2 ^ (32 - bits) := by
    rw [← Nat.pow_add, Nat.add_sub_cancel' (by omega)]
  refine ⟨2 * (2 ^ bits - 1), by omega, half, ?_⟩
  rw [half, whole]
  exact Nat.mod_eq_zero_of_dvd (Nat.mul_dvd_mul_left _ wraps)

theorem wraps_iff : (∃ n ∈ counters btc, (n / 2 + 1) * rate.toNat % 2 ^ 32 = 0) ↔
    RateWraps btc rate := by
  constructor
  · rintro ⟨n, member, zero⟩
    have := (mem_counters regular).mp member
    obtain ⟨-, lt, -⟩ := quanta_log regular
    exact two_pow_dvd_of_mul (by omega) (Nat.succ_pos _) (Nat.dvd_of_mod_eq_zero zero)
  · intro wraps
    obtain ⟨n, member, -, zero⟩ := wrapping_counter regular wraps
    exact ⟨n, member, zero⟩

/-- The divide error: the product in the divisor is a multiple of `2 ^ 32`. -/
theorem pass_traps {n : Nat} {search : TimingSearch}
    (counts : 4 ≤ n ∧ n ≤ 2 * (btc.tseg1Max.toNat + btc.tseg2Max.toNat) + 1)
    (zero : (n / 2 + 1) * rate.toNat % 2 ^ 32 = 0) :
    searchPass btc clk rate sp (BitVec.ofNat 32 n) search = none := by
  have divisor : (pcanCalcSyncSeg + BitVec.ofNat 32 n / 2) * rate = 0 := by
    apply BitVec.eq_of_toNat_eq
    rw [divisor_toNat regular counts, zero]
    rfl
  simp only [searchPass, divisor, divU32, if_true, Option.bind_eq_bind, Option.bind_none]

omit regular in
theorem consider_goes_on {search : TimingSearch} {tseg brp bitrateError : U32}
    {split : SamplePointSplit} (nonzero : bitrateError ≠ 0) :
    (search.consider tseg brp bitrateError split).2 = false := by
  simp only [TimingSearch.consider]
  generalize (if bitrateError < search.bestBitrateError then uintMax
    else search.bestSamplePointError) = limit
  split
  · rfl
  · exact decide_eq_false fun exact_ => nonzero exact_.1

/-- A pass breaks out of the loop only at the exact rate. -/
theorem pass_goes_on {n : Nat} {search : TimingSearch} {result : TimingSearch × Bool}
    (counts : 4 ≤ n ∧ n ≤ 2 * (btc.tseg1Max.toNat + btc.tseg2Max.toNat) + 1)
    (slow : clk.toNat < 2 ^ 31) (asked : sp.toNat ≤ 10000)
    (inexact : (n / 2 + 1) * rate.toNat % 2 ^ 32 ≠ 0 → n ∈ Offers btc clk rate →
      rateError clk rate n ≠ 0)
    (pass : searchPass btc clk rate sp (BitVec.ofNat 32 n) search = some result) :
    result.2 = false := by
  by_cases zero : (n / 2 + 1) * rate.toNat % 2 ^ 32 = 0
  · rw [pass_traps regular counts zero] at pass
    exact absurd pass (by simp)
  by_cases offers : n ∈ Offers btc clk rate
  · obtain ⟨divisor, error⟩ := offered_error regular counts offers
    rw [searchPass_eq regular counts slow asked zero,
      if_neg ((offered_iff regular counts slow).mpr offers), divU32_of_ne divisor,
      Option.bind_some] at pass
    generalize absU32 _ = bitrateError at error pass
    have nonzero : bitrateError ≠ 0 := by
      rintro rfl
      exact inexact zero offers error.symm
    split at pass
    · rw [← Option.some.inj pass]
    · rw [← Option.some.inj pass]
      exact consider_goes_on nonzero
  · rw [pass_not_offered regular counts slow asked zero offers] at pass
    rw [← Option.some.inj pass]

theorem passes_trap (slow : clk.toNat < 2 ^ 31) (asked : sp.toNat ≤ 10000) {z : Nat}
    (counts : 4 ≤ z ∧ z ≤ 2 * (btc.tseg1Max.toNat + btc.tseg2Max.toNat) + 1)
    (zero : (z / 2 + 1) * rate.toNat % 2 ^ 32 = 0) (before after : List Nat) (search : TimingSearch)
    (goesOn : ∀ n ∈ before, (4 ≤ n ∧ n ≤ 2 * (btc.tseg1Max.toNat + btc.tseg2Max.toNat) + 1) ∧
      ((n / 2 + 1) * rate.toNat % 2 ^ 32 ≠ 0 → n ∈ Offers btc clk rate → rateError clk rate n ≠ 0)) :
    searchPasses btc clk rate sp ((before ++ z :: after).map (BitVec.ofNat 32)) search = none := by
  induction before generalizing search with
  | nil =>
    simp only [List.nil_append, List.map_cons, searchPasses, pass_traps regular counts zero,
      Option.bind_eq_bind, Option.bind_none]
  | cons n rest ih =>
    obtain ⟨head, inexact⟩ := goesOn n (by simp)
    simp only [List.cons_append, List.map_cons, searchPasses, Option.bind_eq_bind]
    cases pass : searchPass btc clk rate sp (BitVec.ofNat 32 n) search with
    | none => rfl
    | some result =>
      have flag := pass_goes_on regular head slow asked inexact pass
      simp only [Option.bind_some, flag]
      exact ih result.1 fun m hm => goesOn m (by simp [hm])

omit regular in
theorem wordDistance_ne_zero {a b : Nat} (less : b < a) (size : a < 2 ^ 32) : wordDistance a b ≠ 0 := by
  unfold wordDistance
  omega

omit regular in
theorem offeredRate_lt {n bits : Nat} (long : 2 ^ bits ≤ n / 2 + 1) (small : bits ≤ 32)
    (divides : 2 ^ (32 - bits) ∣ rate.toNat) (nonzero : rate ≠ 0)
    (positive : 1 ≤ prescaler clk rate n) : offeredRate clk rate n < rate.toNat := by
  have rateLow : 2 ^ (32 - bits) ≤ rate.toNat :=
    Nat.le_of_dvd (Nat.pos_of_ne_zero fun h => nonzero (BitVec.eq_of_toNat_eq h)) divides
  have whole : 2 ^ (32 - bits) * 2 ^ bits = 2 ^ 32 := by
    rw [← Nat.pow_add, Nat.sub_add_cancel small]
  have divisor : 2 ^ bits ≤ prescaler clk rate n * (n / 2 + 1) :=
    Nat.le_trans long (Nat.le_mul_of_pos_left _ positive)
  apply Nat.lt_of_lt_of_le _ rateLow
  rw [offeredRate, Nat.div_lt_iff_lt_mul (Nat.lt_of_lt_of_le (Nat.two_pow_pos bits) divisor)]
  calc clk.toNat < 2 ^ 32 := clk.isLt
    _ = 2 ^ (32 - bits) * 2 ^ bits := whole.symm
    _ ≤ 2 ^ (32 - bits) * (prescaler clk rate n * (n / 2 + 1)) := Nat.mul_le_mul_left _ divisor

/-- A rate that wraps makes the loop divide by zero: it is faster than every rate the
loop can find before, so that it does not break out. -/
theorem search_traps (slow : clk.toNat < 2 ^ 31) (asked : sp.toNat ≤ 10000)
    (wraps : RateWraps btc rate) :
    searchPasses btc clk rate sp (tsegChoices btc) TimingSearch.start = none := by
  obtain ⟨z, member, quanta, zero⟩ := wrapping_counter regular wraps
  obtain ⟨before, after, split⟩ := List.append_of_mem member
  have sorted := counters_sorted regular
  rw [tsegChoices_eq regular]
  rw [split] at sorted ⊢
  apply passes_trap regular slow asked ((mem_counters regular).mp member) zero
  intro n earlier
  have greater := (List.pairwise_append.mp sorted).2.2 n earlier z (by simp)
  have counts : n ∈ counters btc := by rw [split]; simp [earlier]
  refine ⟨(mem_counters regular).mp counts, fun nonzero offers => ?_⟩
  apply wordDistance_ne_zero _ rate.isLt
  refine offeredRate_lt (quanta ▸ by omega) ?_ wraps ?_ offers.2.1
  · exact Nat.le_trans (quanta_log regular).2.2.2 (by decide)
  · rintro rfl
    simp at nonzero

end Wrapping

section Errors
variable {btc : PcanfdBittimingRange} {clk rate : U32} {n : Nat}

theorem offeredRate_le (nonzero : rate ≠ 0) (positive : 1 ≤ prescaler clk rate n) :
    offeredRate clk rate n ≤ 2 * rate.toNat := by
  have ratePositive : 0 < rate.toNat :=
    Nat.pos_of_ne_zero fun h => nonzero (BitVec.eq_of_toNat_eq h)
  have quanta : 0 < n / 2 + 1 := Nat.succ_pos _
  have size := clk.isLt
  rw [offeredRate]
  apply Nat.le_of_lt_succ
  rw [Nat.div_lt_iff_lt_mul (Nat.mul_pos positive quanta)]
  by_cases wrapped : (n / 2 + 1) * rate.toNat < 2 ^ 32
  · have divisor : 0 < (n / 2 + 1) * rate.toNat := Nat.mul_pos quanta ratePositive
    have quotient := Nat.lt_mul_div_succ clk.toNat divisor
    have value : prescaler clk rate n = clk.toNat / ((n / 2 + 1) * rate.toNat) + n % 2 := by
      rw [prescaler, Nat.mod_eq_of_lt wrapped]
    generalize clk.toNat / ((n / 2 + 1) * rate.toNat) = q at quotient value
    calc clk.toNat < (n / 2 + 1) * rate.toNat * (q + 1) := quotient
      _ ≤ (n / 2 + 1) * rate.toNat * (2 * prescaler clk rate n) := Nat.mul_le_mul_left _ (by omega)
      _ = 2 * rate.toNat * (prescaler clk rate n * (n / 2 + 1)) := by ring
      _ ≤ (2 * rate.toNat + 1) * (prescaler clk rate n * (n / 2 + 1)) :=
        Nat.mul_le_mul_right _ (Nat.le_succ _)
  · calc clk.toNat < (n / 2 + 1) * rate.toNat := by omega
      _ ≤ (n / 2 + 1) * rate.toNat * prescaler clk rate n := Nat.le_mul_of_pos_right _ positive
      _ = rate.toNat * (prescaler clk rate n * (n / 2 + 1)) := by ring
      _ ≤ (2 * rate.toNat + 1) * (prescaler clk rate n * (n / 2 + 1)) :=
        Nat.mul_le_mul_right _ (by omega)

theorem rateError_le (nonzero : rate ≠ 0) (positive : 1 ≤ prescaler clk rate n) :
    rateError clk rate n ≤ rate.toNat := by
  have := offeredRate_le nonzero positive
  unfold rateError wordDistance
  omega

theorem unplaced_refused (nonzero : rate ≠ 0) : 50 < unplaced * 10000 / rate.toNat % 2 ^ 32 := by
  have positive : 0 < rate.toNat :=
    Nat.pos_of_ne_zero fun h => nonzero (BitVec.eq_of_toNat_eq h)
  have size := rate.isLt
  unfold unplaced
  generalize rate.toNat = r at *
  rcases Nat.lt_or_ge 10000 r with large | small
  · have low : 10000 ≤ 4294967295 * 10000 / r := by
      rw [Nat.le_div_iff_mul_le positive]
      omega
    have high : 4294967295 * 10000 / r < 2 ^ 32 := by
      rw [Nat.div_lt_iff_lt_mul positive]
      omega
    rw [Nat.mod_eq_of_lt high]
    omega
  · have parts : 4294967295 * 10000 / r = 4294967295 * (10000 / r) + 4294967295 * (10000 % r) / r := by
      have whole : 4294967295 * 10000 = 4294967295 * (10000 % r) + r * (4294967295 * (10000 / r)) := by
        have := Nat.div_add_mod 10000 r
        calc 4294967295 * 10000 = 4294967295 * (r * (10000 / r) + 10000 % r) := by rw [this]
          _ = _ := by ring
      rw [whole, Nat.add_mul_div_left _ _ positive, Nat.add_comm]
    have quotient : 10000 / r ≤ 10000 := Nat.div_le_self 10000 r
    have most : 1 ≤ 10000 / r := (Nat.one_le_div_iff positive).mpr small
    have less := Nat.mod_lt 10000 positive
    rw [parts]
    rcases Nat.eq_zero_or_pos (10000 % r) with exact_ | rest
    · have value : 4294967295 * (10000 / r) + 4294967295 * (10000 % r) / r =
          2 ^ 32 * (10000 / r - 1) + (2 ^ 32 - 10000 / r) := by
        rw [exact_, Nat.mul_zero, Nat.zero_div]
        omega
      rw [value, Nat.mul_add_mod, Nat.mod_eq_of_lt (by omega)]
      omega
    · have low : 429496 ≤ 4294967295 * (10000 % r) / r := by
        rw [Nat.le_div_iff_mul_le positive]
        omega
      have high : 4294967295 * (10000 % r) / r < 4294967296 := by
        rw [Nat.div_lt_iff_lt_mul positive]
        omega
      have value : 4294967295 * (10000 / r) + 4294967295 * (10000 % r) / r =
          2 ^ 32 * (10000 / r) + (4294967295 * (10000 % r) / r - 10000 / r) := by omega
      rw [value, Nat.mul_add_mod, Nat.mod_eq_of_lt (by omega)]
      omega

end Errors

/-- Some prescaler and number of quanta come as near to the rate as is accepted. -/
def RateOffered (btc : PcanfdBittimingRange) (clk rate : U32) : Prop :=
  ∃ n ∈ Offers btc clk rate, rateError clk rate n * 10000 / rate.toNat ≤ 50

/-- The counter whose quanta and prescaler the loop settles on. -/
def BestCounter (btc : PcanfdBittimingRange) (clk rate sp : U32) (n : Nat) : Prop :=
  IsBest (rateError clk rate) (splitError btc sp) (Offers btc clk rate) n

/-- The counter whose split the loop leaves in the segments. -/
def SplitCounter (btc : PcanfdBittimingRange) (clk rate sp : U32) (n : Nat) : Prop :=
  Supplies (rateError clk rate) (splitError btc sp) unplaced (Offers btc clk rate) n

structure FoundTiming (btc : PcanfdBittimingRange) (clk : U32) (bt : PcanBittiming) (n : Nat)
    (timing : PcanBittiming) : Prop where
  best : BestCounter btc clk bt.bitrate (samplePointWanted bt) n
  brp : timing.brp.toNat = prescaler clk bt.bitrate n
  bitrate : timing.bitrate = bt.bitrate
  tsam : timing.tsam = bt.tsam
  sjw : timing.sjw = sanitizedSjw btc bt.sjw timing.tseg2
  segments : ∀ m, SplitCounter btc clk bt.bitrate (samplePointWanted bt) m →
    timing.tseg1 = (splitFor btc (samplePointWanted bt) m).tseg1 ∧
    timing.tseg2 = (splitFor btc (samplePointWanted bt) m).tseg2
  empty : (∀ m, ¬ SplitCounter btc clk bt.bitrate (samplePointWanted bt) m) →
    timing.tseg1 = 0 ∧ timing.tseg2 = 0

/-- The sample point that is reported is that of the best counter, or 0. -/
def PointOf (btc : PcanfdBittimingRange) (bt : PcanBittiming) (n : Nat) (timing : PcanBittiming) :
    Prop :=
  timing.samplePoint =
    if splitError btc (samplePointWanted bt) n < unplaced then
      (splitFor btc (samplePointWanted bt) n).samplePoint
    else 0

theorem samplePointWanted_le {bt : PcanBittiming} (asked : bt.samplePoint.toNat ≤ 10000) :
    (samplePointWanted bt).toNat ≤ 10000 := by
  unfold samplePointWanted
  split
  · exact asked
  · split
    · decide
    · split <;> decide

section Result
variable {btc : PcanfdBittimingRange} {clk : U32} {state : Scan Nat} {search : TimingSearch}

theorem errorTooHigh_eq {rate sp : U32} (nonzero : rate ≠ 0)
    (tracks : Tracks btc clk rate sp state search)
    (finds : Finds (rateError clk rate) (splitError btc sp) unplaced (Offers btc clk rate) state) :
    ∃ high, bitrateErrorTooHigh search rate = some high ∧ (high = false ↔ RateOffered btc clk rate) := by
  have scale : pcanSamptScale.toNat = 10000 := rfl
  have limit : pcanCalcMaxError.toNat = 50 := rfl
  have positive : 0 < rate.toNat :=
    Nat.pos_of_ne_zero fun h => nonzero (BitVec.eq_of_toNat_eq h)
  unfold bitrateErrorTooHigh
  cases found : state.best with
  | none =>
    have error : search.bestBitrateError.toNat = unplaced := by simp [tracks.bitrate, found]
    have inexact : search.bestBitrateError ≠ 0 := by
      intro zero
      rw [zero] at error
      exact absurd error (by decide)
    refine ⟨_, by rw [if_neg inexact, doDiv, if_neg nonzero]; rfl, ?_⟩
    have refused := unplaced_refused nonzero
    rw [decide_eq_false_iff_not, BitVec.lt_def, error, scale, limit, BitVec.toNat_ofNat]
    refine ⟨fun h => absurd refused h, fun ⟨n, offers, _⟩ => ?_⟩
    rw [finds.empty found] at offers
    exact absurd offers (Set.notMem_empty n)
  | some b =>
    have error : search.bestBitrateError.toNat = rateError clk rate b := by
      simp [tracks.bitrate, found]
    have best := finds.best b found
    have offered : RateOffered btc clk rate ↔ rateError clk rate b * 10000 / rate.toNat ≤ 50 := by
      refine ⟨fun ⟨n, offers, near⟩ => Nat.le_trans ?_ near, fun near => ⟨b, best.1, near⟩⟩
      exact Nat.div_le_div_right (Nat.mul_le_mul_right _ (best.error_le offers))
    by_cases exact_ : search.bestBitrateError = 0
    · refine ⟨false, by rw [if_pos exact_], ?_⟩
      rw [exact_] at error
      rw [offered, ← error]
      simp
    · refine ⟨_, by rw [if_neg exact_, doDiv, if_neg nonzero]; rfl, ?_⟩
      have le := rateError_le nonzero best.1.2.1
      have small : rateError clk rate b * 10000 / rate.toNat ≤ 10000 :=
        Nat.div_le_of_le_mul (Nat.mul_le_mul_right _ le)
      rw [decide_eq_false_iff_not, BitVec.lt_def, error, scale, limit, BitVec.toNat_ofNat,
        Nat.mod_eq_of_lt (by omega), offered]
      omega

theorem splitAfter_supplied {rate sp : U32} {b : Nat} (tracks : Tracks btc clk rate sp state search)
    (finds : Finds (rateError clk rate) (splitError btc sp) unplaced (Offers btc clk rate) state)
    (found : state.best = some b) :
    (∀ m, SplitCounter btc clk rate sp m →
      (splitAfter btc sp b search).tseg1 = (splitFor btc sp m).tseg1 ∧
      (splitAfter btc sp b search).tseg2 = (splitFor btc sp m).tseg2) ∧
    ((∀ m, ¬ SplitCounter btc clk rate sp m) →
      (splitAfter btc sp b search).tseg1 = 0 ∧ (splitAfter btc sp b search).tseg2 = 0) := by
  have best := finds.best b found
  unfold splitAfter
  split <;> rename_i placed
  · have supplies : SplitCounter btc clk rate sp b := Or.inl ⟨best, placed⟩
    refine ⟨fun m other => ?_, fun none => absurd supplies (none b)⟩
    rw [Supplies.unique other supplies]
    exact ⟨rfl, rfl⟩
  · have high := Nat.le_of_not_lt placed
    have supplies (m : Nat) : SplitCounter btc clk rate sp m ↔ state.left = some m := by
      rw [finds.left b found high]
      constructor
      · rintro (⟨isBest, low⟩ | ⟨-, last⟩)
        · rw [isBest.unique best] at low
          exact absurd low placed
        · exact last
      · exact fun last => Or.inr ⟨⟨b, best, high⟩, last⟩
    simp only [supplies, tracks.tseg1, tracks.tseg2]
    cases left : state.left with
    | none => simp
    | some m => simp

theorem takeSearch_found {bt : PcanBittiming} {b : Nat} (regular : btc.Regular) (positive : clk ≠ 0)
    (asked : (samplePointWanted bt).toNat ≤ 10000)
    (tracks : Tracks btc clk bt.bitrate (samplePointWanted bt) state search)
    (finds : Finds (rateError clk bt.bitrate) (splitError btc (samplePointWanted bt)) unplaced
      (Offers btc clk bt.bitrate) state) (found : state.best = some b) :
    ∃ timing, takeSearch bt btc clk search = some timing ∧ FoundTiming btc clk bt b timing ∧
      PointOf btc bt b timing := by
  have best := finds.best b found
  have brpMax := regular.brpMax
  have tseg : search.bestTseg = BitVec.ofNat 32 (b / 2) := by simp [tracks.tseg, found]
  have brp : search.bestBrp = BitVec.ofNat 32 (prescaler clk bt.bitrate b) := by
    simp [tracks.brp, found]
  have update := update_eq_splitFor regular best.1.1 asked search.tseg1 search.tseg2
  have after := splitAfter_supplied tracks finds found
  have taken : takeSearch bt btc clk search = some
      { bt with
        samplePoint := (splitAfter btc (samplePointWanted bt) b search).samplePoint
        tq := BitVec.ofNat 32 (search.bestBrp.toNat * ghz / clk.toNat)
        tseg1 := (splitAfter btc (samplePointWanted bt) b search).tseg1
        tseg2 := (splitAfter btc (samplePointWanted bt) b search).tseg2
        brp := search.bestBrp
        sjw := sanitizedSjw btc bt.sjw (splitAfter btc (samplePointWanted bt) b search).tseg2 } := by
    simp only [takeSearch, tseg, update, splitAfter, Option.bind_eq_bind, Option.bind_some, doDiv,
      if_neg positive, Option.pure_def]
  have found : search.bestBrp.toNat = prescaler clk bt.bitrate b := by
    have := best.1.2.2
    rw [brp, BitVec.toNat_ofNat]
    exact Nat.mod_eq_of_lt (by omega)
  refine ⟨_, taken, ⟨best, found, rfl, rfl, rfl, after.1, after.2⟩, ?_⟩
  unfold PointOf splitAfter
  split <;> rfl

theorem bitrateToBittiming_points {bt : PcanBittiming} (regular : btc.Regular)
    (slow : clk.toNat < 2 ^ 31) (positive : clk ≠ 0) (nonzero : bt.bitrate ≠ 0)
    (asked : bt.samplePoint.toNat ≤ 10000) (safe : ¬ RateWraps btc bt.bitrate) :
    (¬ RateOffered btc clk bt.bitrate ∧ pcanBitrateToBittiming bt btc clk = some (-edom, bt)) ∨
    (RateOffered btc clk bt.bitrate ∧ ∃ n timing,
      pcanBitrateToBittiming bt btc clk = some (0, timing) ∧ FoundTiming btc clk bt n timing ∧
      PointOf btc bt n timing) := by
  have wanted := samplePointWanted_le asked
  have inRange : ¬ (bt.samplePoint ≠ 0 ∧ pcanSamptScale < bt.samplePoint) := by
    rw [BitVec.lt_def]
    exact fun h => absurd h.2 (Nat.not_lt.mpr asked)
  obtain ⟨search, state, loop, tracks, finds⟩ := search_finds regular slow wanted
    (fun n member zero => safe ((wraps_iff regular).mp ⟨n, member, zero⟩))
  obtain ⟨high, isHigh, offered⟩ := errorTooHigh_eq nonzero tracks finds
  have start : pcanBitrateToBittiming bt btc clk =
      if high = true then some (-edom, bt)
      else (takeSearch bt btc clk search).bind fun timing => some (0, timing) := by
    simp only [pcanBitrateToBittiming, if_neg inRange, loop, isHigh, Option.bind_eq_bind,
      Option.bind_some, Option.pure_def]
  cases high with
  | true => exact Or.inl ⟨fun h => absurd (offered.mpr h) (by simp), start⟩
  | false =>
    have isOffered := offered.mp rfl
    refine Or.inr ⟨isOffered, ?_⟩
    cases found : state.best with
    | none =>
      obtain ⟨n, offers, -⟩ := isOffered
      rw [finds.empty found] at offers
      exact absurd offers (Set.notMem_empty n)
    | some n =>
      obtain ⟨timing, taken, result⟩ := takeSearch_found regular positive wanted tracks finds found
      exact ⟨n, timing, by rw [start, taken]; rfl, result⟩

theorem bitrateToBittiming_cases {bt : PcanBittiming} (regular : btc.Regular)
    (slow : clk.toNat < 2 ^ 31) (positive : clk ≠ 0) (nonzero : bt.bitrate ≠ 0)
    (asked : bt.samplePoint.toNat ≤ 10000) (safe : ¬ RateWraps btc bt.bitrate) :
    (¬ RateOffered btc clk bt.bitrate ∧ pcanBitrateToBittiming bt btc clk = some (-edom, bt)) ∨
    (RateOffered btc clk bt.bitrate ∧ ∃ n timing,
      pcanBitrateToBittiming bt btc clk = some (0, timing) ∧ FoundTiming btc clk bt n timing) := by
  rcases bitrateToBittiming_points regular slow positive nonzero asked safe with
    refused | ⟨offered, n, timing, result, found, -⟩
  · exact Or.inl refused
  · exact Or.inr ⟨offered, n, timing, result, found⟩

theorem bitrateToBittiming_late {bt : PcanBittiming} (late : 10000 < bt.samplePoint.toNat) :
    pcanBitrateToBittiming bt btc clk = some (-einval, bt) := by
  have refused : bt.samplePoint ≠ 0 ∧ pcanSamptScale < bt.samplePoint := by
    refine ⟨?_, BitVec.lt_def.mpr late⟩
    intro zero
    rw [zero] at late
    exact absurd late (by decide)
  simp only [pcanBitrateToBittiming, if_pos refused, Option.pure_def]

theorem bitrateToBittiming_traps {bt : PcanBittiming} (regular : btc.Regular)
    (slow : clk.toNat < 2 ^ 31) (asked : bt.samplePoint.toNat ≤ 10000)
    (wraps : RateWraps btc bt.bitrate) : pcanBitrateToBittiming bt btc clk = none := by
  have inRange : ¬ (bt.samplePoint ≠ 0 ∧ pcanSamptScale < bt.samplePoint) := by
    rw [BitVec.lt_def]
    exact fun h => absurd h.2 (Nat.not_lt.mpr asked)
  have loop := @search_traps btc clk bt.bitrate _ regular slow (samplePointWanted_le asked) wraps
  simp only [pcanBitrateToBittiming, if_neg inRange, loop, Option.bind_eq_bind, Option.bind_none]

end Result

end PcanDriver

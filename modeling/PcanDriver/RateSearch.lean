import Mathlib.Algebra.Order.Ring.Nat
import Mathlib.Algebra.Ring.Parity
import PcanDriver.Lib.BestScan
import PcanDriver.SamplePoint

/-!
The scan of `pcan_bitrate_to_bittiming` over its loop counter. For a counter `n` the
bit has `n / 2 + 1` quanta, and the prescaler is rounded up if `n` is odd. As long as
no divisor vanishes the loop is a `BestScan` by the error in the rate, then by the
error in the sample point; the segments it leaves are those of the last counter whose
sample point could be placed.
-/
namespace PcanDriver
open BestScan

def prescaler (clk rate : U32) (n : Nat) : Nat :=
  clk.toNat / ((n / 2 + 1) * rate.toNat % 2 ^ 32) + n % 2

def offeredRate (clk rate : U32) (n : Nat) : Nat :=
  clk.toNat / (prescaler clk rate n * (n / 2 + 1))

/-- The distance of two words as the kernel's `abs` sees it. -/
def wordDistance (a b : Nat) : Nat :=
  min (max a b - min a b) (2 ^ 32 - (max a b - min a b))

def rateError (clk rate : U32) (n : Nat) : Nat :=
  wordDistance rate.toNat (offeredRate clk rate n)

/-- The counters of the loop whose prescaler the hardware has. -/
def Offers (btc : PcanfdBittimingRange) (clk rate : U32) : Set Nat := fun n =>
  (4 ≤ n ∧ n ≤ 2 * (btc.tseg1Max.toNat + btc.tseg2Max.toNat) + 1) ∧
    1 ≤ prescaler clk rate n ∧ prescaler clk rate n ≤ btc.brpMax.toNat

def splitFor (btc : PcanfdBittimingRange) (sp : U32) (n : Nat) : SamplePointSplit :=
  (pcanUpdateSamplePoint btc sp (BitVec.ofNat 32 (n / 2)) 0 0).getD default

def splitError (btc : PcanfdBittimingRange) (sp : U32) (n : Nat) : Nat :=
  (splitFor btc sp n).error.toNat

def unplaced : Nat := 4294967295

theorem absU32_toNat (a b : U32) : (absU32 (a - b)).toNat = wordDistance a.toNat b.toNat := by
  have := a.isLt
  have := b.isLt
  unfold absU32 wordDistance
  split <;> rename_i sign
  · rw [BitVec.msb_eq_true_iff_two_mul_ge, BitVec.toNat_sub] at sign
    rw [BitVec.toNat_neg, BitVec.toNat_sub]
    omega
  · rw [Bool.not_eq_true, BitVec.msb_eq_false_iff_two_mul_lt, BitVec.toNat_sub] at sign
    rw [BitVec.toNat_sub]
    omega

theorem wordDistance_le (a b : Nat) : wordDistance a b ≤ 2 ^ 31 := by
  unfold wordDistance
  omega

section Counter
variable {btc : PcanfdBittimingRange} {clk rate sp : U32} {n : Nat} (regular : btc.Regular)
  (counts : 4 ≤ n ∧ n ≤ 2 * (btc.tseg1Max.toNat + btc.tseg2Max.toNat) + 1)
include regular counts

theorem half_toNat : (BitVec.ofNat 32 (n / 2)).toNat = n / 2 ∧ 2 ≤ n / 2 ∧
    n / 2 ≤ btc.tseg1Max.toNat + btc.tseg2Max.toNat := by
  have := regular.segments
  rw [BitVec.toNat_ofNat, Nat.mod_eq_of_lt (by omega)]
  omega

theorem splitFor_cases (asked : sp.toNat ≤ 10000) :
    (earliestSamplePoint btc (n / 2) 0 ≤ sp.toNat ∧ splitError btc sp n < unplaced ∧
      SplitInTime btc sp (BitVec.ofNat 32 (n / 2)) (splitFor btc sp n) ∧
      (1 ≤ (splitFor btc sp n).tseg1.toNat ↔ earliestSamplePoint btc (n / 2) 1 ≤ sp.toNat) ∧
      ∀ tseg1 tseg2, pcanUpdateSamplePoint btc sp (BitVec.ofNat 32 (n / 2)) tseg1 tseg2 =
        some (splitFor btc sp n)) ∨
    (sp.toNat < earliestSamplePoint btc (n / 2) 0 ∧ splitError btc sp n = unplaced ∧
      ∀ tseg1 tseg2, pcanUpdateSamplePoint btc sp (BitVec.ofNat 32 (n / 2)) tseg1 tseg2 =
        some ⟨0, uintMax, tseg1, tseg2⟩) := by
  obtain ⟨half, low, high⟩ := half_toNat regular counts
  rw [← half] at low high
  by_cases early : earliestSamplePoint btc (n / 2) 0 ≤ sp.toNat
  · obtain ⟨split, found, inTime, first⟩ :=
      update_placed regular asked low high (by rwa [half])
    have isSplit : splitFor btc sp n = split := by simp [splitFor, found]
    have error : split.error.toNat ≤ sp.toNat := by
      rw [inTime.error]
      exact Nat.sub_le _ _
    refine Or.inl ⟨early, ?_, ?_⟩
    · rw [splitError, isSplit, unplaced]
      omega
    · rw [isSplit]
      exact ⟨inTime, by rw [half] at first; exact first, found⟩
  · have none := update_not_placed regular asked low high (by rw [half]; omega)
    have isSplit : splitFor btc sp n = ⟨0, uintMax, 0, 0⟩ := by simp [splitFor, none]
    exact Or.inr ⟨by omega, by rw [splitError, isSplit]; rfl, none⟩

theorem update_eq_splitFor (asked : sp.toNat ≤ 10000) (tseg1 tseg2 : U32) :
    pcanUpdateSamplePoint btc sp (BitVec.ofNat 32 (n / 2)) tseg1 tseg2 = some
      (if splitError btc sp n < unplaced then splitFor btc sp n
        else ⟨0, uintMax, tseg1, tseg2⟩) := by
  rcases splitFor_cases regular counts asked with ⟨-, placed, -, -, found⟩ | ⟨-, same, none⟩
  · rw [found, if_pos placed]
  · rw [none, if_neg (by omega)]

theorem placed_iff (asked : sp.toNat ≤ 10000) :
    splitError btc sp n < unplaced ↔ earliestSamplePoint btc (n / 2) 0 ≤ sp.toNat := by
  rcases splitFor_cases regular counts asked with ⟨early, placed, -⟩ | ⟨late, same, -⟩ <;> omega

theorem counter_toNat : (BitVec.ofNat 32 n).toNat = n ∧
    BitVec.ofNat 32 n / 2 = BitVec.ofNat 32 (n / 2) ∧
    (pcanCalcSyncSeg + BitVec.ofNat 32 n / 2).toNat = n / 2 + 1 := by
  have := regular.segments
  have size : (BitVec.ofNat 32 n).toNat = n := by
    rw [BitVec.toNat_ofNat, Nat.mod_eq_of_lt (by omega)]
  have two : (2 : U32).toNat = 2 := rfl
  have half : BitVec.ofNat 32 n / 2 = BitVec.ofNat 32 (n / 2) := by
    apply BitVec.eq_of_toNat_eq
    rw [BitVec.toNat_udiv, size, two, (half_toNat regular counts).1]
  refine ⟨size, half, ?_⟩
  have one : pcanCalcSyncSeg.toNat = 1 := rfl
  rw [half, BitVec.toNat_add, (half_toNat regular counts).1, one]
  omega

theorem divisor_toNat : ((pcanCalcSyncSeg + BitVec.ofNat 32 n / 2) * rate).toNat =
    (n / 2 + 1) * rate.toNat % 2 ^ 32 := by
  rw [BitVec.toNat_mul, (counter_toNat regular counts).2.2]

theorem brp_toNat (slow : clk.toNat < 2 ^ 31) :
    (clk / ((pcanCalcSyncSeg + BitVec.ofNat 32 n / 2) * rate) + BitVec.ofNat 32 n % 2).toNat =
      prescaler clk rate n := by
  have two : (2 : U32).toNat = 2 := rfl
  have le := Nat.div_le_self clk.toNat ((n / 2 + 1) * rate.toNat % 2 ^ 32)
  rw [BitVec.toNat_add, BitVec.toNat_udiv, divisor_toNat regular counts, BitVec.toNat_umod,
    (counter_toNat regular counts).1, two, prescaler]
  generalize clk.toNat / ((n / 2 + 1) * rate.toNat % 2 ^ 32) = quotient at *
  omega

theorem brp_eq (slow : clk.toNat < 2 ^ 31) :
    clk / ((pcanCalcSyncSeg + BitVec.ofNat 32 n / 2) * rate) + BitVec.ofNat 32 n % 2 =
      BitVec.ofNat 32 (prescaler clk rate n) := by
  apply BitVec.eq_of_toNat_eq
  rw [← brp_toNat regular counts slow, BitVec.ofNat_toNat, BitVec.setWidth_eq]

theorem offered_error (offers : n ∈ Offers btc clk rate) :
    BitVec.ofNat 32 (prescaler clk rate n) * (pcanCalcSyncSeg + BitVec.ofNat 32 n / 2) ≠ 0 ∧
    (absU32 (rate - clk / (BitVec.ofNat 32 (prescaler clk rate n) *
      (pcanCalcSyncSeg + BitVec.ofNat 32 n / 2)))).toNat = rateError clk rate n := by
  have segments := regular.segments
  have brpMax := regular.brpMax
  obtain ⟨-, low, high⟩ := offers
  have bound : prescaler clk rate n * (n / 2 + 1) ≤ 1024 * 600 := Nat.mul_le_mul (by omega) (by omega)
  have product : (BitVec.ofNat 32 (prescaler clk rate n) *
      (pcanCalcSyncSeg + BitVec.ofNat 32 n / 2)).toNat = prescaler clk rate n * (n / 2 + 1) := by
    rw [BitVec.toNat_mul, (counter_toNat regular counts).2.2, BitVec.toNat_ofNat,
      Nat.mod_eq_of_lt (a := prescaler clk rate n) (by omega), Nat.mod_eq_of_lt (by omega)]
  constructor
  · intro zero
    have positive : 0 < prescaler clk rate n * (n / 2 + 1) := Nat.mul_pos low (Nat.succ_pos _)
    rw [zero] at product
    exact absurd product (Nat.ne_of_lt positive)
  · rw [absU32_toNat, BitVec.toNat_udiv, product]
    rfl

end Counter

structure Tracks (btc : PcanfdBittimingRange) (clk rate sp : U32) (scan : Scan Nat)
    (search : TimingSearch) : Prop where
  bitrate : search.bestBitrateError.toNat = (scan.best.map (rateError clk rate)).getD unplaced
  samplePoint : search.bestSamplePointError.toNat = (scan.best.map (splitError btc sp)).getD unplaced
  tseg : search.bestTseg = BitVec.ofNat 32 (scan.best.getD 0 / 2)
  brp : search.bestBrp = BitVec.ofNat 32 ((scan.best.map (prescaler clk rate)).getD 0)
  tseg1 : search.tseg1 = (scan.left.map fun n => (splitFor btc sp n).tseg1).getD 0
  tseg2 : search.tseg2 = (scan.left.map fun n => (splitFor btc sp n).tseg2).getD 0

theorem tracks_start (btc : PcanfdBittimingRange) (clk rate sp : U32) :
    Tracks btc clk rate sp Scan.start TimingSearch.start := by
  constructor <;> rfl

/-- The split a pass ends with, from the segments it started with. -/
def splitAfter (btc : PcanfdBittimingRange) (sp : U32) (n : Nat) (search : TimingSearch) :
    SamplePointSplit :=
  if splitError btc sp n < unplaced then splitFor btc sp n
  else ⟨0, uintMax, search.tseg1, search.tseg2⟩

theorem splitAfter_error (btc : PcanfdBittimingRange) (sp : U32) (n : Nat) (search : TimingSearch) :
    (splitAfter btc sp n search).error.toNat = splitError btc sp n := by
  have size := (splitFor btc sp n).error.isLt
  unfold splitAfter
  split
  · rfl
  · have top : uintMax.toNat = 4294967295 := rfl
    simp only [splitError, unplaced] at *
    omega

theorem Tracks.leftover {btc : PcanfdBittimingRange} {clk rate sp : U32} {scan : Scan Nat}
    {search : TimingSearch} (tracks : Tracks btc clk rate sp scan search) (n : Nat) :
    (splitAfter btc sp n search).tseg1 =
        ((leftover (splitError btc sp) unplaced scan n).map fun n => (splitFor btc sp n).tseg1).getD 0 ∧
      (splitAfter btc sp n search).tseg2 =
        ((leftover (splitError btc sp) unplaced scan n).map fun n => (splitFor btc sp n).tseg2).getD 0 := by
  unfold splitAfter BestScan.leftover
  split
  · exact ⟨rfl, rfl⟩
  · exact ⟨tracks.tseg1, tracks.tseg2⟩

section Pass
variable {btc : PcanfdBittimingRange} {clk rate sp : U32} {n : Nat} {scan : Scan Nat}
  {search : TimingSearch} (regular : btc.Regular)
  (counts : 4 ≤ n ∧ n ≤ 2 * (btc.tseg1Max.toNat + btc.tseg2Max.toNat) + 1)
  (slow : clk.toNat < 2 ^ 31) (asked : sp.toNat ≤ 10000)
include regular counts slow asked

theorem searchPass_eq (nonzero : (n / 2 + 1) * rate.toNat % 2 ^ 32 ≠ 0) :
    searchPass btc clk rate sp (BitVec.ofNat 32 n) search =
      if BitVec.ofNat 32 (prescaler clk rate n) < btc.brpMin ∨
          btc.brpMax < BitVec.ofNat 32 (prescaler clk rate n) then some (search, false)
      else (divU32 clk (BitVec.ofNat 32 (prescaler clk rate n) *
          (pcanCalcSyncSeg + BitVec.ofNat 32 n / 2))).bind fun bitrate =>
        if search.bestBitrateError < absU32 (rate - bitrate) then some (search, false)
        else some (search.consider (BitVec.ofNat 32 n) (BitVec.ofNat 32 (prescaler clk rate n))
          (absU32 (rate - bitrate)) (splitAfter btc sp n search)) := by
  have divisor : (pcanCalcSyncSeg + BitVec.ofNat 32 n / 2) * rate ≠ 0 := by
    intro zero
    exact nonzero (by rw [← divisor_toNat regular counts, zero]; rfl)
  have one : btc.brpInc ≠ 0 := by rw [regular.brpInc]; decide
  have steps (x : U32) : x / btc.brpInc * btc.brpInc = x := by
    rw [regular.brpInc]
    exact (mul_one (x / 1)).trans (BitVec.udiv_one)
  have update := update_eq_splitFor regular counts asked search.tseg1 search.tseg2
  rw [← (counter_toNat regular counts).2.1] at update
  simp only [searchPass, divU32_of_ne divisor, divU32_of_ne one, Option.bind_eq_bind,
    Option.bind_some, steps, brp_eq regular counts slow, update, Option.pure_def, splitAfter]

omit asked in
theorem offered_iff : ¬ (BitVec.ofNat 32 (prescaler clk rate n) < btc.brpMin ∨
    btc.brpMax < BitVec.ofNat 32 (prescaler clk rate n)) ↔ n ∈ Offers btc clk rate := by
  have size := @brp_toNat btc clk rate n regular counts slow
  rw [brp_eq regular counts slow] at size
  have one : (1 : U32).toNat = 1 := rfl
  rw [regular.brpMin, BitVec.lt_def, BitVec.lt_def, size, one]
  constructor
  · exact fun h => ⟨counts, by omega⟩
  · exact fun h => by have := h.2; omega

theorem pass_not_offered (nonzero : (n / 2 + 1) * rate.toNat % 2 ^ 32 ≠ 0)
    (not : n ∉ Offers btc clk rate) :
    searchPass btc clk rate sp (BitVec.ofNat 32 n) search = some (search, false) := by
  rw [searchPass_eq regular counts slow asked nonzero,
    if_pos (not_not.mp ((offered_iff regular counts slow).not.mpr not))]

theorem pass_tracks (tracks : Tracks btc clk rate sp scan search)
    (nonzero : (n / 2 + 1) * rate.toNat % 2 ^ 32 ≠ 0) (offers : n ∈ Offers btc clk rate) :
    ∃ next, searchPass btc clk rate sp (BitVec.ofNat 32 n) search =
        some (next, (step (rateError clk rate) (splitError btc sp) unplaced scan n).2) ∧
      Tracks btc clk rate sp (step (rateError clk rate) (splitError btc sp) unplaced scan n).1 next := by
  obtain ⟨divisor, error⟩ := offered_error regular counts offers
  rw [searchPass_eq regular counts slow asked nonzero,
    if_neg ((offered_iff regular counts slow).mpr offers), divU32_of_ne divisor, Option.bind_some]
  generalize absU32 _ = bitrateError at error ⊢
  have pointError := splitAfter_error btc sp n search
  have left := tracks.leftover n
  generalize splitAfter btc sp n search = split at pointError left ⊢
  rcases step_cases (rateError clk rate) (splitError btc sp) unplaced scan n with
    ⟨same, b, found, worse⟩ | ⟨same, b, found, tie, worse⟩ | ⟨same, better⟩ <;> rw [same]
  · have best : search.bestBitrateError.toNat = rateError clk rate b := by
      simp [tracks.bitrate, found]
    rw [if_pos (by rw [BitVec.lt_def]; omega)]
    exact ⟨search, rfl, tracks⟩
  · have best : search.bestBitrateError.toNat = rateError clk rate b := by
      simp [tracks.bitrate, found]
    have point : search.bestSamplePointError.toNat = splitError btc sp b := by
      simp [tracks.samplePoint, found]
    rw [if_neg (by rw [BitVec.lt_def]; omega), TimingSearch.consider]
    simp only [if_neg (show ¬ bitrateError < search.bestBitrateError by rw [BitVec.lt_def]; omega),
      if_pos (show search.bestSamplePointError < split.error by rw [BitVec.lt_def]; omega)]
    exact ⟨_, rfl, tracks.bitrate, tracks.samplePoint, tracks.tseg, tracks.brp, left.1, left.2⟩
  · have le : rateError clk rate n < unplaced := by
      have := wordDistance_le rate.toNat (offeredRate clk rate n)
      unfold rateError unplaced
      omega
    have kept : ¬ search.bestBitrateError < bitrateError := by
      rw [BitVec.lt_def, tracks.bitrate, error]
      cases found : scan.best with
      | none => exact Nat.not_lt.mpr (Nat.le_of_lt le)
      | some b =>
        rcases better b found with h | h <;> simp only [Option.map_some, Option.getD_some] <;> omega
    have closer : ¬ (if bitrateError < search.bestBitrateError then uintMax
        else search.bestSamplePointError) < split.error := by
      have size := split.error.isLt
      have top : uintMax.toNat = 4294967295 := rfl
      split <;> rename_i first <;> rw [BitVec.lt_def] at first ⊢
      · omega
      · rw [tracks.bitrate, error] at first
        rw [tracks.samplePoint]
        cases found : scan.best with
        | none =>
          simp only [Option.map_none, Option.getD_none, unplaced]
          omega
        | some b =>
          simp only [found, Option.map_some, Option.getD_some] at first ⊢
          rcases better b found with h | h <;> omega
    rw [if_neg kept, TimingSearch.consider]
    simp only [if_neg closer]
    have free : decide (bitrateError = 0 ∧ split.error = 0) =
        decide (rateError clk rate n = 0 ∧ splitError btc sp n = 0) := by
      rw [← error, ← pointError]
      simp [BitVec.toNat_eq]
    exact ⟨_, by rw [free]; rfl, by simpa [take] using error, by simpa [take] using pointError,
      (counter_toNat regular counts).2.1, rfl, left.1, left.2⟩

end Pass

/-- The loop counters in the order the loop takes them. -/
def counters (btc : PcanfdBittimingRange) : List Nat :=
  (List.range (2 * (btc.tseg1Max.toNat + btc.tseg2Max.toNat) - 2)).map
    fun k => 2 * (btc.tseg1Max.toNat + btc.tseg2Max.toNat) + 1 - k

instance (btc : PcanfdBittimingRange) (clk rate : U32) : DecidablePred (· ∈ Offers btc clk rate) :=
  fun _ => inferInstanceAs (Decidable (_ ∧ _))

section Run
variable {btc : PcanfdBittimingRange} {clk rate sp : U32} (regular : btc.Regular)
include regular

theorem mem_counters {n : Nat} : n ∈ counters btc ↔
    4 ≤ n ∧ n ≤ 2 * (btc.tseg1Max.toNat + btc.tseg2Max.toNat) + 1 := by
  have := regular.segments
  have := regular.sjwMax
  simp only [counters, List.mem_map, List.mem_range]
  constructor
  · rintro ⟨k, less, rfl⟩
    omega
  · exact fun h => ⟨2 * (btc.tseg1Max.toNat + btc.tseg2Max.toNat) + 1 - n, by omega, by omega⟩

theorem counters_sorted : (counters btc).Pairwise (· > ·) := by
  have := regular.segments
  refine List.pairwise_map.mpr (List.pairwise_lt_range.imp_of_mem ?_)
  intro a b _ later less
  have := List.mem_range.mp later
  omega

theorem tsegLast_toNat : (tsegLast btc).toNat = 4 := by
  rw [tsegLast, regular.tseg1Min, regular.tseg2Min]
  rfl

theorem tsegLast_ne_zero : tsegLast btc ≠ 0 := by
  intro zero
  have last := tsegLast_toNat regular
  rw [zero] at last
  exact absurd last (by decide)

theorem tsegChoices_eq : tsegChoices btc = (counters btc).map (BitVec.ofNat 32) := by
  have segments := regular.segments
  have first : ((btc.tseg1Max + btc.tseg2Max) * 2 + 1).toNat =
      2 * (btc.tseg1Max.toNat + btc.tseg2Max.toNat) + 1 := by
    have two : (2 : U32).toNat = 2 := rfl
    have one : (1 : U32).toNat = 1 := rfl
    rw [BitVec.toNat_add, BitVec.toNat_mul, BitVec.toNat_add, one, two]
    omega
  simp only [tsegChoices, counters, first, if_neg (tsegLast_ne_zero regular),
    tsegLast_toNat regular, List.map_map]
  have count : 2 * (btc.tseg1Max.toNat + btc.tseg2Max.toNat) + 1 + 1 - 4 =
      2 * (btc.tseg1Max.toNat + btc.tseg2Max.toNat) - 2 := by omega
  rw [count]
  apply List.map_congr_left
  intro k less
  have := List.mem_range.mp less
  apply BitVec.eq_of_toNat_eq
  rw [BitVec.toNat_sub, first, BitVec.toNat_ofNat, Function.comp_apply, BitVec.toNat_ofNat]
  omega

theorem passes_track (slow : clk.toNat < 2 ^ 31) (asked : sp.toNat ≤ 10000) (ns : List Nat)
    (counts : ∀ n ∈ ns, 4 ≤ n ∧ n ≤ 2 * (btc.tseg1Max.toNat + btc.tseg2Max.toNat) + 1)
    (nonzero : ∀ n ∈ ns, (n / 2 + 1) * rate.toNat % 2 ^ 32 ≠ 0) {state : Scan Nat}
    {search : TimingSearch} (tracks : Tracks btc clk rate sp state search) :
    ∃ result, searchPasses btc clk rate sp (ns.map (BitVec.ofNat 32)) search = some result ∧
      Tracks btc clk rate sp (scan (rateError clk rate) (splitError btc sp) unplaced
        (ns.filter (· ∈ Offers btc clk rate)) state) result := by
  induction ns generalizing state search with
  | nil => exact ⟨search, if_neg (tsegLast_ne_zero regular), tracks⟩
  | cons n rest ih =>
    have head := counts n (by simp)
    have divides := nonzero n (by simp)
    have next := fun state search => @ih (fun m hm => counts m (by simp [hm]))
      (fun m hm => nonzero m (by simp [hm])) state search
    by_cases offers : n ∈ Offers btc clk rate
    · obtain ⟨found, pass, after⟩ := pass_tracks regular head slow asked tracks divides offers
      have kept : (n :: rest).filter (· ∈ Offers btc clk rate) =
          n :: rest.filter (· ∈ Offers btc clk rate) := List.filter_cons_of_pos (by simpa using offers)
      rw [kept]
      simp only [List.map_cons, searchPasses, pass, Option.bind_eq_bind, Option.bind_some, scan]
      split
      · exact ⟨found, rfl, after⟩
      · exact next _ _ after
    · have left : (n :: rest).filter (· ∈ Offers btc clk rate) =
          rest.filter (· ∈ Offers btc clk rate) := List.filter_cons_of_neg (by simpa using offers)
      rw [left]
      simp only [List.map_cons, searchPasses, pass_not_offered regular head slow asked divides offers,
        Option.bind_eq_bind, Option.bind_some]
      exact next _ _ tracks

theorem search_finds (slow : clk.toNat < 2 ^ 31) (asked : sp.toNat ≤ 10000)
    (nonzero : ∀ n ∈ counters btc, (n / 2 + 1) * rate.toNat % 2 ^ 32 ≠ 0) :
    ∃ result state, searchPasses btc clk rate sp (tsegChoices btc) TimingSearch.start = some result ∧
      Tracks btc clk rate sp state result ∧
      Finds (rateError clk rate) (splitError btc sp) unplaced (Offers btc clk rate) state := by
  obtain ⟨result, found, tracks⟩ := passes_track regular slow asked (counters btc)
    (fun n hn => (mem_counters regular).mp hn) nonzero (tracks_start btc clk rate sp)
  have sorted := (counters_sorted regular).filter (· ∈ Offers btc clk rate)
  have finds := @scan_start_finds Nat _ (rateError clk rate) (splitError btc sp) unplaced
    (by decide) _ sorted
  have all : {n | n ∈ (counters btc).filter (· ∈ Offers btc clk rate)} = Offers btc clk rate := by
    ext n
    simp only [List.mem_filter, mem_counters regular, decide_eq_true_eq, Set.mem_ofPred_eq]
    exact ⟨And.right, fun h => ⟨h.1, h⟩⟩
  rw [all] at finds
  exact ⟨result, _, tsegChoices_eq regular ▸ found, tracks, finds⟩

end Run

end PcanDriver

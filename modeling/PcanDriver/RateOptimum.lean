import PcanDriver.Lib.NearestDivisor
import PcanDriver.RateResult

/-!
The prescaler and the number of quanta on which `pcan_bitrate_to_bittiming` settles, for any
capability record of consecutive prescalers: as long as no product wraps and the loop counter does
not, no other pair in range comes nearer to the rate. Without a least number of quanta the counter
goes on behind 0, and the search may settle on a number of quanta that is out of range.
-/
namespace PcanDriver
open NearestDivisor

section Statement

/-- A record and a request for which every product of the loop fits an `int`. -/
structure ProductsFit (btc : PcanfdBittimingRange) (clk rate : U32) : Prop where
  brpMin : btc.brpMin = 1
  brpInc : btc.brpInc = 1
  asks : 1 ≤ rate.toNat
  slow : clk.toNat < 2 ^ 31
  quanta : (1 + btc.tseg1Max.toNat + btc.tseg2Max.toNat) * rate.toNat < 2 ^ 31
  product : btc.brpMax.toNat * (1 + btc.tseg1Max.toNat + btc.tseg2Max.toNat) < 2 ^ 31

structure Nearest (btc : PcanfdBittimingRange) (clk rate : U32) (brp quanta : Nat) : Prop where
  inRange : 1 ≤ brp ∧ brp ≤ btc.brpMax.toNat
  longest : quanta ≤ 1 + btc.tseg1Max.toNat + btc.tseg2Max.toNat
  least : ∀ brp' quanta', 1 ≤ brp' → brp' ≤ btc.brpMax.toNat →
    1 + btc.tseg1Min.toNat + btc.tseg2Min.toNat ≤ quanta' →
    quanta' ≤ 1 + btc.tseg1Max.toNat + btc.tseg2Max.toNat →
      1 + btc.tseg1Min.toNat + btc.tseg2Min.toNat ≤ quanta ∧
        error clk.toNat rate.toNat brp quanta ≤ error clk.toNat rate.toNat brp' quanta'

end Statement

section Passes
variable {btc : PcanfdBittimingRange} {clk rate sp tseg : U32}

def quantaOf (tseg : U32) : Nat := tseg.toNat / 2 + 1

def brpOf (clk rate tseg : U32) : Nat :=
  clk.toNat / (quantaOf tseg * rate.toNat) + tseg.toNat % 2

def Tried (btc : PcanfdBittimingRange) (clk rate tseg : U32) : Prop :=
  1 ≤ brpOf clk rate tseg ∧ brpOf clk rate tseg ≤ btc.brpMax.toNat

def passError (clk rate tseg : U32) : Nat :=
  error clk.toNat rate.toNat (brpOf clk rate tseg) (quantaOf tseg)

def Counts (btc : PcanfdBittimingRange) (tseg : U32) : Prop :=
  quantaOf tseg ≤ 1 + btc.tseg1Max.toNat + btc.tseg2Max.toNat

theorem quanta_word (tseg : U32) : (pcanCalcSyncSeg + tseg / 2).toNat = quantaOf tseg := by
  have size := tseg.isLt
  have one : pcanCalcSyncSeg.toNat = 1 := rfl
  have two : (2 : U32).toNat = 2 := rfl
  rw [BitVec.toNat_add, BitVec.toNat_udiv, one, two, quantaOf]
  omega

variable (fits : ProductsFit btc clk rate) (counts : Counts btc tseg)
include fits counts

theorem divisor_fits : ((pcanCalcSyncSeg + tseg / 2) * rate).toNat = quantaOf tseg * rate.toNat ∧
    0 < quantaOf tseg * rate.toNat := by
  have bound : quantaOf tseg * rate.toNat < 2 ^ 31 :=
    Nat.lt_of_le_of_lt (Nat.mul_le_mul_right _ counts) fits.quanta
  rw [BitVec.toNat_mul, quanta_word, Nat.mod_eq_of_lt (by omega)]
  exact ⟨rfl, Nat.mul_pos (Nat.succ_pos _) fits.asks⟩

theorem brp_fits : (clk / ((pcanCalcSyncSeg + tseg / 2) * rate) + tseg % 2).toNat =
    brpOf clk rate tseg := by
  have two : (2 : U32).toNat = 2 := rfl
  have small := Nat.div_le_self clk.toNat (quantaOf tseg * rate.toNat)
  have slow := fits.slow
  rw [BitVec.toNat_add, BitVec.toNat_udiv, (divisor_fits fits counts).1, BitVec.toNat_umod, two,
    brpOf]
  generalize clk.toNat / (quantaOf tseg * rate.toNat) = quotient at *
  omega

theorem error_fits {brp : U32} (value : brp.toNat = brpOf clk rate tseg)
    (tried : Tried btc clk rate tseg) :
    brp * (pcanCalcSyncSeg + tseg / 2) ≠ 0 ∧
      (absU32 (rate - clk / (brp * (pcanCalcSyncSeg + tseg / 2)))).toNat =
        passError clk rate tseg := by
  have bound : brpOf clk rate tseg * quantaOf tseg < 2 ^ 31 :=
    Nat.lt_of_le_of_lt (Nat.mul_le_mul tried.2 counts) fits.product
  have product : (brp * (pcanCalcSyncSeg + tseg / 2)).toNat =
      brpOf clk rate tseg * quantaOf tseg := by
    rw [BitVec.toNat_mul, quanta_word, value, Nat.mod_eq_of_lt (by omega)]
  refine ⟨fun zero => ?_, ?_⟩
  · have positive : 0 < brpOf clk rate tseg * quantaOf tseg :=
      Nat.mul_pos tried.1 (Nat.succ_pos _)
    rw [zero] at product
    exact absurd product (Nat.ne_of_lt positive)
  · have slow := fits.slow
    have rateSmall : rate.toNat < 2 ^ 31 :=
      Nat.lt_of_le_of_lt (Nat.le_mul_of_pos_left rate.toNat (by omega)) fits.quanta
    have quotient := Nat.div_le_self clk.toNat (brpOf clk rate tseg * quantaOf tseg)
    rw [absU32_toNat, BitVec.toNat_udiv, product, passError, error]
    generalize clk.toNat / (brpOf clk rate tseg * quantaOf tseg) = offered at quotient ⊢
    unfold wordDistance Nat.dist
    omega

theorem searchPass_tried {search : TimingSearch} {result : TimingSearch × Bool}
    (pass : searchPass btc clk rate sp tseg search = some result) :
    (¬Tried btc clk rate tseg ∧ result = (search, false)) ∨
    Tried btc clk rate tseg ∧ ∃ brp bitrateError : U32, brp.toNat = brpOf clk rate tseg ∧
      bitrateError.toNat = passError clk rate tseg ∧
      ((search.bestBitrateError < bitrateError ∧ result = (search, false)) ∨
        ¬search.bestBitrateError < bitrateError ∧
          ∃ split, result = search.consider tseg brp bitrateError split) := by
  have value := brp_fits fits counts
  obtain ⟨divisor, positive⟩ := divisor_fits fits counts
  have nonzero : (pcanCalcSyncSeg + tseg / 2) * rate ≠ 0 := by
    intro zero
    rw [zero] at divisor
    exact absurd divisor (Nat.ne_of_lt positive)
  have one : btc.brpInc ≠ 0 := by rw [fits.brpInc]; decide
  have steps (x : U32) : x / btc.brpInc * btc.brpInc = x := by
    rw [fits.brpInc]
    exact (mul_one (x / 1)).trans (BitVec.udiv_one)
  unfold searchPass at pass
  simp only [divU32_of_ne nonzero, divU32_of_ne one, Option.bind_eq_bind, Option.bind_some, steps,
    Option.pure_def] at pass
  generalize clk / ((pcanCalcSyncSeg + tseg / 2) * rate) + tseg % 2 = brp at pass value
  have least : (1 : U32).toNat = 1 := rfl
  rw [fits.brpMin] at pass
  simp only [BitVec.lt_def, least, value] at pass
  split at pass
  next out =>
    refine .inl ⟨fun tried => ?_, (Option.some.inj pass).symm⟩
    have low := tried.1
    have high := tried.2
    omega
  next within =>
    have tried : Tried btc clk rate tseg := ⟨by omega, by omega⟩
    obtain ⟨product, error⟩ := error_fits fits counts value tried
    rw [divU32_of_ne product, Option.bind_some] at pass
    refine .inr ⟨tried, brp, _, value, error, ?_⟩
    split at pass
    next worse => exact .inl ⟨BitVec.lt_def.mpr worse, (Option.some.inj pass).symm⟩
    next kept =>
      obtain ⟨split, -, same⟩ := Option.bind_eq_some_iff.mp pass
      exact .inr ⟨fun less => kept (BitVec.lt_def.mp less), split, (Option.some.inj same).symm⟩

end Passes

section Loop
variable {btc : PcanfdBittimingRange} {clk rate sp tseg : U32} {search : TimingSearch}

/-- The pair that is held is one of a pass in `choices`, if there was one. -/
def Held (btc : PcanfdBittimingRange) (clk rate : U32) (choices : U32 → Prop)
    (search : TimingSearch) : Prop :=
  search.bestBitrateError = uintMax ∨ ∃ tseg, choices tseg ∧ Tried btc clk rate tseg ∧
    search.bestBrp.toNat = brpOf clk rate tseg ∧ search.bestTseg = tseg / 2 ∧
    search.bestBitrateError.toNat = passError clk rate tseg

structure Passed (btc : PcanfdBittimingRange) (clk rate : U32) (choices : U32 → Prop) (tseg : U32)
    (search : TimingSearch) (result : TimingSearch × Bool) : Prop where
  kept : result.1.bestBitrateError ≤ search.bestBitrateError
  bound : Tried btc clk rate tseg → result.1.bestBitrateError.toNat ≤ passError clk rate tseg
  held : Held btc clk rate choices result.1
  stops : result.2 = true → result.1.bestBitrateError = 0

theorem pass_leads (fits : ProductsFit btc clk rate) (counts : Counts btc tseg)
    {choices : U32 → Prop} (choice : choices tseg) (held : Held btc clk rate choices search)
    {result : TimingSearch × Bool} (pass : searchPass btc clk rate sp tseg search = some result) :
    Passed btc clk rate choices tseg search result := by
  have unchanged : ∀ stop, (stop = true → search.bestBitrateError = 0) →
      (Tried btc clk rate tseg → search.bestBitrateError.toNat ≤ passError clk rate tseg) →
      Passed btc clk rate choices tseg search (search, stop) :=
    fun _ stops bound => ⟨BitVec.le_refl _, bound, held, stops⟩
  rcases searchPass_tried fits counts pass with
    ⟨out, rfl⟩ | ⟨tried, brp, bitrateError, value, error, ⟨worse, rfl⟩ | ⟨notWorse, split, rfl⟩⟩
  · exact unchanged false nofun fun tried => absurd tried out
  · refine unchanged false nofun fun _ => ?_
    rw [← error]
    exact Nat.le_of_lt (BitVec.lt_def.mp worse)
  · unfold TimingSearch.consider
    dsimp only
    have least : ¬search.bestBitrateError.toNat < bitrateError.toNat :=
      mt BitVec.lt_def.mpr notWorse
    generalize limit : (if bitrateError < search.bestBitrateError then uintMax
      else search.bestSamplePointError) = bound
    split
    next later =>
      -- the sample point is not reset, so that the error in the rate is no smaller
      have same : search.bestBitrateError.toNat = bitrateError.toNat := by
        split at limit
        next =>
          have size := split.error.isLt
          have top : uintMax.toNat = 4294967295 := rfl
          rw [← limit, BitVec.lt_def] at later
          omega
        next notLess =>
          rw [BitVec.lt_def] at notLess
          omega
      exact ⟨BitVec.le_refl _, fun _ => Nat.le_of_eq (same.trans error), held, nofun⟩
    next =>
      refine ⟨BitVec.le_def.mpr (Nat.not_lt.mp least), fun _ => Nat.le_of_eq error,
        .inr ⟨tseg, choice, tried, value, rfl, error⟩, fun stop => ?_⟩
      exact (of_decide_eq_true stop).1

theorem passes_lead (fits : ProductsFit btc clk rate) {choices : U32 → Prop} (tsegs : List U32)
    (counts : ∀ tseg ∈ tsegs, Counts btc tseg) (chosen : ∀ tseg ∈ tsegs, choices tseg)
    (held : Held btc clk rate choices search) {result : TimingSearch}
    (passes : searchPasses btc clk rate sp tsegs search = some result) :
    result.bestBitrateError ≤ search.bestBitrateError ∧ Held btc clk rate choices result ∧
      ∀ tseg ∈ tsegs, Tried btc clk rate tseg →
        result.bestBitrateError.toNat ≤ passError clk rate tseg := by
  induction tsegs generalizing search with
  | nil =>
    unfold searchPasses at passes
    split at passes
    next => cases passes
    next =>
      obtain rfl := Option.some.inj passes
      exact ⟨BitVec.le_refl _, held, fun _ member => absurd member List.not_mem_nil⟩
  | cons tseg rest ih =>
    obtain ⟨⟨next, stop⟩, pass, passes⟩ := Option.bind_eq_some_iff.mp passes
    have lead := pass_leads fits (counts tseg List.mem_cons_self) (chosen tseg List.mem_cons_self)
      held pass
    cases stop with
    | true =>
      obtain rfl := Option.some.inj passes
      have exact_ : next.bestBitrateError = 0 := lead.stops rfl
      refine ⟨lead.kept, lead.held, fun _ _ _ => ?_⟩
      rw [exact_]
      exact Nat.zero_le _
    | false =>
      obtain ⟨less, last, bounds⟩ := ih
        (fun tseg member => counts tseg (List.mem_cons_of_mem _ member))
        (fun tseg member => chosen tseg (List.mem_cons_of_mem _ member)) lead.held passes
      refine ⟨BitVec.le_trans less lead.kept, last, fun other member tried => ?_⟩
      rcases List.mem_cons.mp member with rfl | later
      · exact Nat.le_trans (BitVec.le_def.mp less) (lead.bound tried)
      · exact bounds other later tried

end Loop

section Selection
variable {btc : PcanfdBittimingRange} {clk : U32} {bt timing : PcanBittiming}

theorem tsegLast_of_least (least : (btc.tseg1Min.toNat + btc.tseg2Min.toNat) % 2 ^ 31 ≠ 0) :
    tsegLast btc ≠ 0 := by
  intro zero
  have last := congrArg BitVec.toNat zero
  have two : (2 : U32).toNat = 2 := rfl
  have none : (0 : U32).toNat = 0 := rfl
  rw [tsegLast, BitVec.toNat_mul, BitVec.toNat_add, two, none] at last
  omega

theorem mem_tsegChoices (short : btc.tseg1Max.toNat + btc.tseg2Max.toNat + 1 < 2 ^ 31)
    (ends : tsegLast btc ≠ 0) (tseg : U32) : tseg ∈ tsegChoices btc ↔
      (tsegLast btc).toNat ≤ tseg.toNat ∧
        tseg.toNat ≤ 2 * (btc.tseg1Max.toNat + btc.tseg2Max.toNat) + 1 := by
  have first : ((btc.tseg1Max + btc.tseg2Max) * 2 + 1).toNat =
      2 * (btc.tseg1Max.toNat + btc.tseg2Max.toNat) + 1 := by
    have two : (2 : U32).toNat = 2 := rfl
    have one : (1 : U32).toNat = 1 := rfl
    rw [BitVec.toNat_add, BitVec.toNat_mul, BitVec.toNat_add, one, two]
    omega
  unfold tsegChoices
  generalize (btc.tseg1Max + btc.tseg2Max) * 2 + 1 = top at first ⊢
  dsimp only
  rw [← first, List.mem_map, if_neg ends]
  generalize tsegLast btc = last
  have size := top.isLt
  have back (k : Nat) (less : k ≤ top.toNat) : (top - BitVec.ofNat 32 k).toNat = top.toNat - k := by
    rw [BitVec.toNat_sub, BitVec.toNat_ofNat]
    omega
  constructor
  · rintro ⟨k, member, rfl⟩
    have less := List.mem_range.mp member
    rw [back k (by omega)]
    omega
  · rintro ⟨low, high⟩
    refine ⟨top.toNat - tseg.toNat, List.mem_range.mpr (by omega), ?_⟩
    apply BitVec.eq_of_toNat_eq
    rw [back _ (by omega)]
    omega

theorem succeeded_search (found : pcanBitrateToBittiming bt btc clk = some (0, timing)) :
    ∃ search, searchPasses btc clk bt.bitrate (samplePointWanted bt) (tsegChoices btc)
        TimingSearch.start = some search ∧
      bitrateErrorTooHigh search bt.bitrate = some false ∧ timing.brp = search.bestBrp := by
  unfold pcanBitrateToBittiming at found
  split at found
  next =>
    have error : -einval = 0 := congrArg Prod.fst (Option.some.inj found)
    exact absurd error (by decide)
  next =>
    obtain ⟨search, loop, found⟩ := Option.bind_eq_some_iff.mp found
    obtain ⟨high, limit, found⟩ := Option.bind_eq_some_iff.mp found
    cases high with
    | true =>
      have error : -edom = 0 := congrArg Prod.fst (Option.some.inj found)
      exact absurd error (by decide)
    | false =>
      obtain ⟨taken, take, same⟩ := Option.bind_eq_some_iff.mp found
      obtain rfl : taken = timing := congrArg Prod.snd (Option.some.inj same)
      obtain ⟨split, -, take⟩ := Option.bind_eq_some_iff.mp take
      obtain ⟨tq, -, take⟩ := Option.bind_eq_some_iff.mp take
      exact ⟨search, loop, limit, congrArg PcanBittiming.brp (Option.some.inj take).symm⟩

theorem accepted_placed {search : TimingSearch} {rate : U32} (nonzero : rate ≠ 0)
    (accepted : bitrateErrorTooHigh search rate = some false) :
    search.bestBitrateError ≠ uintMax := by
  intro worst
  have scale : pcanSamptScale.toNat = 10000 := rfl
  have limit : pcanCalcMaxError.toNat = 50 := rfl
  have top : uintMax.toNat = unplaced := rfl
  unfold bitrateErrorTooHigh at accepted
  rw [worst, if_neg (by decide : uintMax ≠ 0), doDiv, if_neg nonzero] at accepted
  have notHigh := of_decide_eq_false (Option.some.inj accepted)
  rw [BitVec.lt_def, BitVec.toNat_ofNat, scale, limit, top] at notHigh
  exact notHigh (unplaced_refused nonzero)

theorem lowest_toNat (small : btc.tseg1Min.toNat + btc.tseg2Min.toNat < 2 ^ 31) :
    (tsegLast btc).toNat = 2 * (btc.tseg1Min.toNat + btc.tseg2Min.toNat) := by
  have two : (2 : U32).toNat = 2 := rfl
  rw [tsegLast, BitVec.toNat_mul, BitVec.toNat_add, two]
  omega

theorem rounded_counter {rate : U32} {b t : Nat} (positive : 1 ≤ t) (small : t < 2 ^ 31)
    (rounded : Rounded clk.toNat rate.toNat b t) :
    ∃ tseg, quantaOf tseg = t ∧ brpOf clk rate tseg = b := by
  have counter (odd : Nat) (bit : odd ≤ 1) :
      (BitVec.ofNat 32 (2 * (t - 1) + odd)).toNat = 2 * (t - 1) + odd := by
    rw [BitVec.toNat_ofNat]
    omega
  have length (odd : Nat) (bit : odd ≤ 1) :
      quantaOf (BitVec.ofNat 32 (2 * (t - 1) + odd)) = t := by
    rw [quantaOf, counter odd bit]
    omega
  rcases rounded with same | same
  · refine ⟨BitVec.ofNat 32 (2 * (t - 1) + 0), length 0 (by decide), ?_⟩
    rw [brpOf, length 0 (by decide), counter 0 (by decide), same]
    omega
  · refine ⟨BitVec.ofNat 32 (2 * (t - 1) + 1), length 1 (by decide), ?_⟩
    rw [brpOf, length 1 (by decide), counter 1 (by decide), same]
    omega

/-- Whenever the search succeeds, no prescaler and number of quanta in range come nearer to the
    rate than those it settles on. -/
theorem selected_pair_nearest (fits : ProductsFit btc clk bt.bitrate)
    (least : (btc.tseg1Min.toNat + btc.tseg2Min.toNat) % 2 ^ 31 ≠ 0)
    (found : pcanBitrateToBittiming bt btc clk = some (0, timing)) :
    ∃ search, searchPasses btc clk bt.bitrate (samplePointWanted bt) (tsegChoices btc)
        TimingSearch.start = some search ∧ timing.brp = search.bestBrp ∧
      Nearest btc clk bt.bitrate search.bestBrp.toNat (search.bestTseg.toNat + 1) := by
  obtain ⟨search, loop, accepted, brp⟩ := succeeded_search found
  have asks := fits.asks
  have nonzero : bt.bitrate ≠ 0 := by
    intro zero
    rw [zero] at asks
    exact absurd asks (by decide)
  have short : btc.tseg1Max.toNat + btc.tseg2Max.toNat + 1 < 2 ^ 31 := by
    have product := Nat.le_mul_of_pos_right
      (1 + btc.tseg1Max.toNat + btc.tseg2Max.toNat) asks
    have quanta := fits.quanta
    omega
  have member := mem_tsegChoices short (tsegLast_of_least least)
  have counts : ∀ tseg ∈ tsegChoices btc, Counts btc tseg := by
    intro tseg choice
    have last := ((member tseg).mp choice).2
    unfold Counts quantaOf
    omega
  obtain ⟨-, held, bounds⟩ := passes_lead fits (tsegChoices btc) counts (fun _ choice => choice)
    (.inl rfl) loop
  obtain ⟨tseg, choice, tried, value, half, error_⟩ :=
    held.resolve_left (accepted_placed nonzero accepted)
  have two : (2 : U32).toNat = 2 := rfl
  have quanta : search.bestTseg.toNat + 1 = quantaOf tseg := by
    rw [half, BitVec.toNat_udiv, two, quantaOf]
  refine ⟨search, loop, brp, ?_⟩
  rw [value, quanta]
  refine ⟨tried, counts tseg choice, fun brp' quanta' low high short' long => ⟨?_, ?_⟩⟩
  · have first := ((member tseg).mp choice).1
    rw [lowest_toNat (by omega)] at first
    unfold quantaOf
    omega
  · have reached : clk.toNat / ((1 + btc.tseg1Max.toNat + btc.tseg2Max.toNat) *
        bt.bitrate.toNat) ≤ btc.brpMax.toNat := by
      have longest := Nat.mul_le_mul_right bt.bitrate.toNat (counts tseg choice)
      have positive : 0 < quantaOf tseg * bt.bitrate.toNat := Nat.mul_pos (Nat.succ_pos _) asks
      have less := Nat.div_le_div_left longest positive (a := clk.toNat)
      have high := tried.2
      unfold brpOf at high
      exact Nat.le_trans less (Nat.le_trans (Nat.le_add_right _ _) high)
    have one : 1 ≤ quanta' := by omega
    obtain ⟨b, t, range, ⟨later, limit⟩, rounded, near⟩ :=
      rounded_nearest asks reached one long low high
    obtain ⟨tseg', length, isBrp⟩ := rounded_counter (by omega) (by omega) rounded
    have choice' : tseg' ∈ tsegChoices btc := by
      refine (member tseg').mpr ⟨?_, ?_⟩
      · rw [lowest_toNat (by omega)]
        unfold quantaOf at length
        omega
      · unfold quantaOf at length
        omega
    have bound := bounds tseg' choice' (by unfold Tried; rwa [isBrp])
    rw [error_] at bound
    unfold passError at bound
    rw [isBrp, length] at bound
    exact Nat.le_trans bound near

theorem sja1000_selects_nearest :
    let bt := { PcanBittiming.zero with bitrate := 125000 }
    ∃ search, searchPasses sja1000Capabilities (8 * mhz) bt.bitrate (samplePointWanted bt)
        (tsegChoices sja1000Capabilities) TimingSearch.start = some search ∧
      Nearest sja1000Capabilities (8 * mhz) bt.bitrate search.bestBrp.toNat
        (search.bestTseg.toNat + 1) := by
  intro bt
  have succeeds : (pcanBitrateToBittiming bt sja1000Capabilities (8 * mhz)).map Prod.fst =
      some 0 := by decide +kernel
  obtain ⟨⟨err, timing⟩, found, rfl⟩ := Option.map_eq_some_iff.mp succeeds
  have fits : ProductsFit sja1000Capabilities (8 * mhz) bt.bitrate :=
    ⟨rfl, rfl, by decide, by decide, by decide, by decide⟩
  obtain ⟨search, loop, -, nearest⟩ := selected_pair_nearest fits (by decide) found
  exact ⟨search, loop, nearest⟩

end Selection

section Round
variable {btc : PcanfdBittimingRange} {clk rate sp tseg : U32}

theorem update_error {x y x' y' : U32} {split : SamplePointSplit}
    (updated : pcanUpdateSamplePoint btc sp tseg x y = some split) :
    ∃ split', pcanUpdateSamplePoint btc sp tseg x' y' = some split' ∧
      split'.error = split.error := by
  obtain ⟨down, first, updated⟩ := Option.bind_eq_some_iff.mp updated
  obtain ⟨up, second, updated⟩ := Option.bind_eq_some_iff.mp updated
  obtain rfl := Option.some.inj updated
  unfold pcanUpdateSamplePoint
  simp only [first, second, Option.bind_eq_bind, Option.bind_some]
  refine ⟨_, rfl, ?_⟩
  unfold SamplePointSplit.better
  dsimp only
  split <;> split <;> simp_all only

structure Stops (btc : PcanfdBittimingRange) (clk rate sp tseg brp : U32) : Prop where
  divided : ∃ quotient steps, divU32 clk ((pcanCalcSyncSeg + tseg / 2) * rate) = some quotient ∧
    divU32 (quotient + tseg % 2) btc.brpInc = some steps ∧ brp = steps * btc.brpInc
  within : ¬(brp < btc.brpMin ∨ btc.brpMax < brp)
  met : ∃ bitrate, divU32 clk (brp * (pcanCalcSyncSeg + tseg / 2)) = some bitrate ∧
    absU32 (rate - bitrate) = 0
  placed : ∃ tseg1 tseg2 split, pcanUpdateSamplePoint btc sp (tseg / 2) tseg1 tseg2 = some split ∧
    split.error = 0

theorem consider_stops {search next : TimingSearch} {brp bitrateError : U32}
    {split : SamplePointSplit} (stops : search.consider tseg brp bitrateError split = (next, true)) :
    bitrateError = 0 ∧ split.error = 0 ∧ next.bestBitrateError = 0 ∧ next.bestTseg = tseg / 2 ∧
      next.bestBrp = brp := by
  unfold TimingSearch.consider at stops
  dsimp only at stops
  generalize (if bitrateError < search.bestBitrateError then uintMax
    else search.bestSamplePointError) = limit at stops
  split at stops
  next => exact absurd (congrArg Prod.snd stops) Bool.false_ne_true
  next =>
    have flag := congrArg Prod.snd stops
    obtain rfl := congrArg Prod.fst stops
    obtain ⟨met, placed⟩ := of_decide_eq_true flag
    exact ⟨met, placed, met, rfl, rfl⟩

theorem never_below_zero (x : U32) : ¬x < 0 := BitVec.not_lt_zero

theorem consider_met {split : SamplePointSplit} (placed : split.error = 0) (search : TimingSearch)
    (brp : U32) : ∃ next, search.consider tseg brp 0 split = (next, true) := by
  unfold TimingSearch.consider
  dsimp only
  rw [placed, if_neg (never_below_zero _)]
  exact ⟨_, rfl⟩

theorem pass_stops {search next : TimingSearch}
    (stops : searchPass btc clk rate sp tseg search = some (next, true)) :
    Stops btc clk rate sp tseg next.bestBrp ∧ next.bestBitrateError = 0 ∧
      next.bestTseg = tseg / 2 := by
  unfold searchPass at stops
  obtain ⟨quotient, first, stops⟩ := Option.bind_eq_some_iff.mp stops
  obtain ⟨steps, second, stops⟩ := Option.bind_eq_some_iff.mp stops
  dsimp only at stops
  split at stops
  next => cases stops
  next within =>
  obtain ⟨bitrate, third, stops⟩ := Option.bind_eq_some_iff.mp stops
  split at stops
  next => cases stops
  obtain ⟨split_, updated, stops⟩ := Option.bind_eq_some_iff.mp stops
  obtain ⟨met, placed, error, half, brp⟩ := consider_stops (Option.some.inj stops)
  rw [brp]
  exact ⟨⟨⟨quotient, steps, first, second, rfl⟩, within, ⟨bitrate, third, met⟩,
    ⟨_, _, split_, updated, placed⟩⟩, error, half⟩

/-- A pass breaks out whatever those before it found, so that a round in which none does is
    followed by another. -/
theorem Stops.pass {brp : U32} (stops : Stops btc clk rate sp tseg brp) (search : TimingSearch) :
    ∃ next, searchPass btc clk rate sp tseg search = some (next, true) := by
  obtain ⟨⟨quotient, steps, first, second, rfl⟩, within, ⟨bitrate, third, met⟩,
    ⟨_, _, split, updated, placed⟩⟩ := stops
  obtain ⟨split', updated', error⟩ := @update_error btc sp (tseg / 2) _ _ search.tseg1 search.tseg2 _
    updated
  obtain ⟨next, taken⟩ := @consider_met tseg split' (error.trans placed) search (steps * btc.brpInc)
  refine ⟨next, ?_⟩
  unfold searchPass
  simp only [first, second, third, met, updated', taken, Option.bind_eq_bind, Option.bind_some,
    if_neg within, if_neg (never_below_zero _)]
  rfl

theorem passes_stop {tsegs : List U32}
    (returns : ∀ tseg ∈ tsegs, ∀ search, ∃ result,
      searchPass btc clk rate sp tseg search = some result)
    (stops : ∃ tseg ∈ tsegs, ∀ search, ∃ next,
      searchPass btc clk rate sp tseg search = some (next, true)) (search : TimingSearch) :
    ∃ tseg before next, searchPass btc clk rate sp tseg before = some (next, true) ∧
      searchPasses btc clk rate sp tsegs search = some next := by
  induction tsegs generalizing search with
  | nil =>
    obtain ⟨_, member, -⟩ := stops
    cases member
  | cons tseg rest ih =>
    obtain ⟨⟨next, stop⟩, pass⟩ := returns tseg List.mem_cons_self search
    simp only [searchPasses, pass, Option.bind_eq_bind, Option.bind_some]
    cases stop with
    | true => exact ⟨tseg, search, next, pass, rfl⟩
    | false =>
      refine ih (fun tseg member => returns tseg (List.mem_cons_of_mem _ member)) ?_ next
      obtain ⟨last, member, always⟩ := stops
      rcases List.mem_cons.mp member with rfl | later
      · obtain ⟨next', again⟩ := always search
        cases again.symm.trans pass
      · exact ⟨last, later, always⟩

end Round

section WithoutLeast

def withoutLeast : PcanfdBittimingRange :=
  { brpMin := 1, brpMax := 3, brpInc := 1, tseg1Min := 0, tseg1Max := 199999
    tseg2Min := 0, tseg2Max := 1, sjwMin := 1, sjwMax := 1 }

theorem update_returns (btc : PcanfdBittimingRange) (sp tseg tseg1 tseg2 : U32)
    (short : tseg.toNat < 2 ^ 31) :
    ∃ split, pcanUpdateSamplePoint btc sp tseg tseg1 tseg2 = some split := by
  have one : pcanCalcSyncSeg.toNat = 1 := rfl
  have quanta : tseg + pcanCalcSyncSeg ≠ 0 := by
    intro zero
    have value := congrArg BitVec.toNat zero
    have none : (0 : U32).toNat = 0 := rfl
    rw [BitVec.toNat_add, one, none] at value
    omega
  unfold pcanUpdateSamplePoint samplePointTrial
  simp only [divU32_of_ne quanta, Option.bind_eq_bind, Option.bind_some, Option.pure_def]
  exact ⟨_, rfl⟩

theorem half_short (tseg : U32) : (tseg / 2).toNat < 2 ^ 31 := by
  have size := tseg.isLt
  have two : (2 : U32).toNat = 2 := rfl
  rw [BitVec.toNat_udiv, two]
  omega

theorem quantaOf_range (tseg : U32) : 1 ≤ quantaOf tseg ∧ quantaOf tseg ≤ 2 ^ 31 := by
  have size := tseg.isLt
  unfold quantaOf
  omega

theorem odd_nonzero {quanta odd : Nat} (range : 1 ≤ quanta ∧ quanta ≤ 2 ^ 31)
    (coprime : Nat.Coprime 2 odd) : quanta * odd % 2 ^ 32 ≠ 0 := by
  intro zero
  have whole := (coprime.pow_left 32).dvd_of_dvd_mul_right (Nat.dvd_of_mod_eq_zero zero)
  have long := Nat.le_of_dvd range.1 whole
  omega

/-- Only 2 ^ 31 quanta of 2 clocks are no clocks at all in 32 bits, but for these the prescaler is
    0 or 1. -/
theorem clocks_nonzero {quanta brp odd : Nat} (range : 1 ≤ quanta ∧ quanta ≤ 2 ^ 31) (bit : odd < 2)
    (value : brp = 1200000 / (quanta * 3 % 2 ^ 32) + odd) (within : 1 ≤ brp ∧ brp ≤ 3) :
    brp * quanta % 2 ^ 32 ≠ 0 := by
  rw [Nat.mul_comm]
  obtain rfl | rfl | rfl : brp = 1 ∨ brp = 2 ∨ brp = 3 := by omega
  · exact odd_nonzero range (by decide)
  · rcases Nat.lt_or_eq_of_le range.2 with shorter | rfl
    · omega
    · have first : 1200000 / (2 ^ 31 * 3 % 2 ^ 32) = 0 := by decide
      omega
  · exact odd_nonzero range (by decide)

theorem without_least_brp (tseg : U32) :
    ((pcanCalcSyncSeg + tseg / 2) * 3).toNat = quantaOf tseg * 3 % 2 ^ 32 ∧
    (1200000 / ((pcanCalcSyncSeg + tseg / 2) * 3) + tseg % 2 : U32).toNat =
      1200000 / (quantaOf tseg * 3 % 2 ^ 32) + tseg.toNat % 2 := by
  have divisor : ((pcanCalcSyncSeg + tseg / 2) * 3).toNat = quantaOf tseg * 3 % 2 ^ 32 := by
    rw [BitVec.toNat_mul, quanta_word]
    rfl
  have clock : (1200000 : U32).toNat = 1200000 := rfl
  have two : (2 : U32).toNat = 2 := rfl
  have small := Nat.div_le_self 1200000 (quantaOf tseg * 3 % 2 ^ 32)
  refine ⟨divisor, ?_⟩
  rw [BitVec.toNat_add, BitVec.toNat_udiv, divisor, clock, BitVec.toNat_umod, two]
  generalize 1200000 / (quantaOf tseg * 3 % 2 ^ 32) = quotient at small ⊢
  clear divisor clock two
  omega

/-- At 3 bit/s no divisor of a pass is 0, however far the counter has gone. -/
theorem without_least_returns (tseg : U32) (search : TimingSearch) :
    ∃ result, searchPass withoutLeast 1200000 3 1 tseg search = some result := by
  obtain ⟨divisor, value⟩ := without_least_brp tseg
  have range := quantaOf_range tseg
  have nonzero : (pcanCalcSyncSeg + tseg / 2) * 3 ≠ 0 := by
    intro zero
    rw [zero] at divisor
    exact odd_nonzero range (by decide) divisor.symm
  have inc : withoutLeast.brpInc = 1 := rfl
  have steps (x : U32) : x / withoutLeast.brpInc * withoutLeast.brpInc = x := by
    rw [inc]
    exact (mul_one (x / 1)).trans BitVec.udiv_one
  unfold searchPass
  simp only [divU32_of_ne nonzero, divU32_of_ne (by decide : withoutLeast.brpInc ≠ 0),
    Option.bind_eq_bind, Option.bind_some, steps]
  generalize (1200000 / ((pcanCalcSyncSeg + tseg / 2) * 3) + tseg % 2 : U32) = brp at value ⊢
  split
  next => exact ⟨_, rfl⟩
  next within =>
  have limits : withoutLeast.brpMin.toNat = 1 ∧ withoutLeast.brpMax.toNat = 3 := by decide
  rw [BitVec.lt_def, BitVec.lt_def, limits.1, limits.2] at within
  have product : brp * (pcanCalcSyncSeg + tseg / 2) ≠ 0 := by
    intro zero
    have wrapped : brp.toNat * quantaOf tseg % 2 ^ 32 = 0 := by
      rw [← quanta_word, ← BitVec.toNat_mul, zero]
      rfl
    exact clocks_nonzero range (Nat.mod_lt _ Nat.two_pos) value (by omega) wrapped
  rw [divU32_of_ne product, Option.bind_some]
  split
  next => exact ⟨_, rfl⟩
  obtain ⟨split_, updated⟩ := update_returns withoutLeast 1 (tseg / 2) search.tseg1 search.tseg2
    (half_short tseg)
  rw [updated]
  exact ⟨_, rfl⟩

theorem update_trial {btc : PcanfdBittimingRange} {sp tseg tseg1 tseg2 : U32}
    {split : SamplePointSplit} (updated : pcanUpdateSamplePoint btc sp tseg tseg1 tseg2 = some split)
    (placed : split.error = 0) :
    ∃ i trial, samplePointTrial btc sp tseg i = some trial ∧ trial.samplePoint ≤ sp := by
  obtain ⟨down, first, updated⟩ := Option.bind_eq_some_iff.mp updated
  obtain ⟨up, second, updated⟩ := Option.bind_eq_some_iff.mp updated
  obtain rfl := Option.some.inj updated
  by_cases early : up.samplePoint ≤ sp
  · exact ⟨1, up, second, early⟩
  · rw [SamplePointSplit.better, if_neg fun taken => early taken.1] at placed
    by_cases early' : down.samplePoint ≤ sp
    · exact ⟨0, down, first, early'⟩
    · rw [SamplePointSplit.better, if_neg fun taken => early' taken.1] at placed
      exact absurd placed (by decide : uintMax ≠ 0)

theorem point_toNat {tseg rest point : U32} (short : tseg.toNat < 2 ^ 31)
    (fits : 10000 * rest.toNat < 2 ^ 32)
    (divided : divU32 (pcanSamptScale * rest) (tseg + pcanCalcSyncSeg) = some point) :
    point.toNat = 10000 * rest.toNat / (tseg.toNat + 1) := by
  have one : pcanCalcSyncSeg.toNat = 1 := rfl
  have scale : pcanSamptScale.toNat = 10000 := rfl
  unfold divU32 at divided
  split at divided
  next => cases divided
  next =>
    obtain rfl := Option.some.inj divided
    rw [BitVec.toNat_udiv, BitVec.toNat_mul, BitVec.toNat_add, scale, one, Nat.mod_eq_of_lt fits,
      Nat.mod_eq_of_lt (by omega)]

/-- With at most 200000 quanta before the sample point, it comes so early only in a bit of a
    thousand million quanta. -/
theorem early_far {tseg i : U32} (short : tseg.toNat < 2 ^ 31) {trial : SamplePointSplit}
    (tried : samplePointTrial withoutLeast 1 tseg i = some trial) (early : trial.samplePoint ≤ 1) :
    1000000000 ≤ tseg.toNat := by
  have one : pcanCalcSyncSeg.toNat = 1 := rfl
  have most : withoutLeast.tseg1Max.toNat = 199999 := rfl
  have clamped := clampU32_toNat (tseg + pcanCalcSyncSeg -
    1 * (tseg + pcanCalcSyncSeg) / pcanSamptScale - i) withoutLeast.tseg2Min withoutLeast.tseg2Max
    (by decide)
  have bounds : withoutLeast.tseg2Min.toNat = 0 ∧ withoutLeast.tseg2Max.toNat = 1 := by decide
  rw [bounds.1, bounds.2] at clamped
  unfold samplePointTrial at tried
  dsimp only at tried
  generalize clampU32 _ _ _ = tseg2 at clamped tried
  have few : tseg2.toNat ≤ 1 := by omega
  obtain ⟨point, divided, same⟩ := Option.bind_eq_some_iff.mp tried
  obtain rfl := Option.some.inj same
  have low : point.toNat ≤ 1 := BitVec.le_def.mp early
  clear tried same early clamped bounds
  have room := tseg2.isLt
  by_cases exceeds : withoutLeast.tseg1Max < tseg - tseg2
  · rw [if_pos exceeds] at divided
    have rest : (tseg + pcanCalcSyncSeg - (tseg - withoutLeast.tseg1Max)).toNat = 200000 := by
      rw [BitVec.toNat_sub, BitVec.toNat_sub, BitVec.toNat_add, one, most]
      omega
    rw [point_toNat short (by rw [rest]; decide) divided, rest] at low
    have bound := (Nat.div_lt_iff_lt_mul (Nat.succ_pos tseg.toNat)).mp (Nat.lt_succ_of_le low)
    omega
  · rw [if_neg exceeds] at divided
    rw [BitVec.lt_def, most, BitVec.toNat_sub] at exceeds
    have rest : (tseg + pcanCalcSyncSeg - tseg2).toNat = tseg.toNat + 1 - tseg2.toNat := by
      rw [BitVec.toNat_sub, BitVec.toNat_add, one]
      omega
    rw [point_toNat short (by rw [rest]; omega) divided, rest] at low
    have bound := (Nat.div_lt_iff_lt_mul (Nat.succ_pos tseg.toNat)).mp (Nat.lt_succ_of_le low)
    omega

/-- 1431772432 quanta of 3 clocks are 350000 clocks in 32 bits. -/
theorem without_least_stops : Stops withoutLeast 1200000 3 1 2863544862 3 := by
  have run : (searchPass withoutLeast 1200000 3 1 2863544862 TimingSearch.start).map
      (fun result => (result.1.bestBrp, result.2)) = some (3, true) := by decide +kernel
  obtain ⟨⟨next, stop⟩, pass, same⟩ := Option.map_eq_some_iff.mp run
  obtain ⟨brp, rfl⟩ : next.bestBrp = 3 ∧ stop = true := Prod.mk.inj same
  exact brp ▸ (pass_stops pass).1

theorem counter_chosen (tseg : U32) : tseg ∈ tsegChoices withoutLeast := by
  have endless : tsegLast withoutLeast = 0 := rfl
  unfold tsegChoices
  dsimp only
  rw [if_pos endless, List.mem_map]
  generalize (withoutLeast.tseg1Max + withoutLeast.tseg2Max) * 2 + 1 = top
  refine ⟨(top - tseg).toNat, List.mem_range.mpr (top - tseg).isLt, ?_⟩
  rw [BitVec.ofNat_toNat, BitVec.setWidth_eq, sub_sub_cancel]

/-- The loop goes on behind 0 and ends with a bit of more than a thousand million quanta. -/
theorem without_least_search : ∃ search,
    searchPasses withoutLeast 1200000 3 1 (tsegChoices withoutLeast) TimingSearch.start =
      some search ∧ search.bestBitrateError = 0 ∧ 1 ≤ search.bestBrp.toNat ∧
      1000000000 ≤ search.bestTseg.toNat ∧ search.bestTseg.toNat < 2 ^ 31 := by
  obtain ⟨tseg, before, search, stops, found⟩ := @passes_stop withoutLeast 1200000 3 1
    (tsegChoices withoutLeast) (fun tseg _ => without_least_returns tseg)
    ⟨2863544862, counter_chosen _, without_least_stops.pass⟩ TimingSearch.start
  obtain ⟨stopped, met, half⟩ := pass_stops stops
  obtain ⟨_, _, _, updated, placed⟩ := stopped.placed
  obtain ⟨_, _, tried, early⟩ := update_trial updated placed
  have within := stopped.within
  have low : withoutLeast.brpMin.toNat = 1 := rfl
  rw [BitVec.lt_def, low] at within
  rw [← half] at tried
  have short : search.bestTseg.toNat < 2 ^ 31 := half ▸ half_short tseg
  exact ⟨search, found, met, by omega, early_far short tried early, short⟩

theorem accepted_succeeds {btc : PcanfdBittimingRange} {clk : U32} {bt : PcanBittiming}
    {search : TimingSearch} (point : ¬(bt.samplePoint ≠ 0 ∧ pcanSamptScale < bt.samplePoint))
    (ticks : clk ≠ 0) (found : searchPasses btc clk bt.bitrate (samplePointWanted bt)
      (tsegChoices btc) TimingSearch.start = some search)
    (accepted : bitrateErrorTooHigh search bt.bitrate = some false)
    (short : search.bestTseg.toNat < 2 ^ 31) :
    ∃ timing, pcanBitrateToBittiming bt btc clk = some (0, timing) ∧
      timing.brp = search.bestBrp := by
  obtain ⟨split, updated⟩ := update_returns btc (samplePointWanted bt) search.bestTseg search.tseg1
    search.tseg2 short
  have tq : ∃ tq, doDiv (search.bestBrp.toNat * ghz) clk = some tq := ⟨_, if_neg ticks⟩
  obtain ⟨tq, divided⟩ := tq
  unfold pcanBitrateToBittiming takeSearch
  rw [if_neg point, found]
  simp only [Option.bind_eq_bind, Option.bind_some, accepted, updated, divided]
  exact ⟨_, rfl, rfl⟩

/-- Without a least number of quanta the search settles on more quanta than the controller has, at
    a rate of 0 bit/s, though 200000 quanta of 2 clocks are exactly the 3 bit/s asked for. -/
theorem without_least_not_nearest :
    let bt := { PcanBittiming.zero with bitrate := 3, samplePoint := 1 }
    ProductsFit withoutLeast 1200000 bt.bitrate ∧ ∃ timing search,
      pcanBitrateToBittiming bt withoutLeast 1200000 = some (0, timing) ∧
      searchPasses withoutLeast 1200000 bt.bitrate (samplePointWanted bt)
        (tsegChoices withoutLeast) TimingSearch.start = some search ∧
      timing.brp = search.bestBrp ∧
      error 1200000 3 2 200000 < error 1200000 3 search.bestBrp.toNat (search.bestTseg.toNat + 1) ∧
      ¬Nearest withoutLeast 1200000 bt.bitrate search.bestBrp.toNat (search.bestTseg.toNat + 1) := by
  intro bt
  obtain ⟨search, found, met, positive, far, short⟩ := without_least_search
  obtain ⟨timing, succeeds, brp⟩ := @accepted_succeeds withoutLeast 1200000 bt search (by decide)
    (by decide) found (if_pos met) short
  have fits : ProductsFit withoutLeast 1200000 bt.bitrate :=
    ⟨rfl, rfl, by decide, by decide, by decide, by decide⟩
  have clocks : 1200000 < search.bestBrp.toNat * (search.bestTseg.toNat + 1) :=
    Nat.lt_of_lt_of_le (by omega) (Nat.le_mul_of_pos_left _ positive)
  have standstill : error 1200000 3 search.bestBrp.toNat (search.bestTseg.toNat + 1) = 3 := by
    rw [error, Nat.div_eq_of_lt clocks]
    rfl
  have nearer : error 1200000 3 2 200000 <
      error 1200000 3 search.bestBrp.toNat (search.bestTseg.toNat + 1) := by
    rw [standstill]
    decide
  refine ⟨fits, timing, search, succeeds, found, brp, nearer, fun nearest => ?_⟩
  have least := nearest.least 2 200000 (by decide) (by decide) (by decide) (by decide)
  exact absurd nearer (Nat.not_lt.mpr least.2)

end WithoutLeast

end PcanDriver

import PcanDriver.Lib.FirstLeast
import PcanDriver.AbstractTiming

/-!
What the two loops of `pcan_convert_abstract` compare, in which order, and what they are left with.
-/
namespace PcanDriver
open FirstLeast

section Statement

def PcanTimingParameters.quanta (c : PcanTimingParameters) : Nat :=
  c.tseg1.toNat + c.tseg2.toNat + 1

/-- The order of the loops: many quanta first, then narrow jump widths. -/
def TriedBefore (c d : PcanTimingParameters) : Prop :=
  d.quanta < c.quanta ∨ c.quanta = d.quanta ∧ c.sjw.toNat < d.sjw.toNat

/-- The inner loop comes to these values, and their penalty is one that can be kept. -/
def TriedValues (abtOrg : PcanBittimingAbs) (cap : PcanfdBittimingRange) (sysclock tBitNs : U32)
    (c : PcanTimingParameters) : Prop :=
  ∃ tqNb ∈ tqChoices cap, ∃ trials, tqTrials abtOrg cap sysclock tBitNs tqNb = some trials ∧
    c ∈ trials ∧ c.penalty < penaltyInvalid

end Statement
section Trials
variable {abtOrg : PcanBittimingAbs} {cap : PcanfdBittimingRange} {sysclock tBitNs : U32}
  {tqNb : U16}

theorem divRound64_of_pos {a b : Nat} (positive : 0 < b) :
    divRound64 a b = some ((a + b / 2) / b) := by
  unfold divRound64
  rw [if_neg (Nat.ne_of_gt positive)]

theorem divRound64_zero (a : Nat) : divRound64 a 0 = none := if_pos rfl

structure Passes (abtOrg : PcanBittimingAbs) (cap : PcanfdBittimingRange)
    (sysclock tBitNs : U32) (tqNb : U16) (cur : PcanTimingParameters) : Prop where
  divided : tqPrescaler sysclock tBitNs tqNb = some cur.prescaler
  brp : ¬(cur.prescaler.setWidth 32 < cap.brpMin ∨ cap.brpMax < cur.prescaler.setWidth 32)
  length : prescalerPs sysclock cur.prescaler = some cur.tSclPs
  positive : cur.tSclPs ≠ 0
  tseg1 : tsegQuanta abtOrg.tseg1Ns cur.tSclPs = some cur.tseg1
  tseg2 : tsegQuanta abtOrg.tseg2Ns cur.tSclPs = some cur.tseg2
  quanta : cur.tseg1.toNat + cur.tseg2.toNat + 1 = tqNb.toNat
  range1 : ¬(cur.tseg1.setWidth 32 < cap.tseg1Min ∨ cap.tseg1Max < cur.tseg1.setWidth 32)
  range2 : ¬(cur.tseg2.setWidth 32 < cap.tseg2Min ∨ cap.tseg2Max < cur.tseg2.setWidth 32)
  tseg1Ns : cur.tseg1Ns = quantaNs cur.tseg1 cur.tSclPs
  tseg2Ns : cur.tseg2Ns = quantaNs cur.tseg2 cur.tSclPs

theorem tsegQuanta_some {tsegNs tSclPs : U32} (positive : tSclPs ≠ 0) :
    ∃ quanta, tsegQuanta tsegNs tSclPs = some quanta := by
  unfold tsegQuanta divRound divU32
  rw [if_neg positive]
  exact ⟨_, rfl⟩

theorem tqPrescaler_some (nonzero : tqNb ≠ 0) :
    tqPrescaler sysclock tBitNs tqNb = some (BitVec.ofNat 16
      ((tBitNs.toNat * sysclock.toNat + tqNb.toNat * ghz / 2) / (tqNb.toNat * ghz))) := by
  have count : 0 < tqNb.toNat := Nat.pos_of_ne_zero fun zero => nonzero (BitVec.eq_of_toNat_eq zero)
  unfold tqPrescaler
  rw [divRound64_of_pos (Nat.mul_pos count (by unfold ghz; omega)), Option.map_some]

theorem prescalerPs_some (ticks : sysclock ≠ 0) (prescaler : U16) :
    prescalerPs sysclock prescaler = some (BitVec.ofNat 32
      ((prescaler.toNat * 1000 * ghz + sysclock.toNat / 2) / sysclock.toNat)) := by
  have clock : 0 < sysclock.toNat :=
    Nat.pos_of_ne_zero fun zero => ticks (BitVec.eq_of_toNat_eq zero)
  unfold prescalerPs
  rw [divRound64_of_pos clock, Option.map_some]

theorem prescalerPs_stopped (prescaler : U16) : prescalerPs 0 prescaler = none := by
  have zero : (0 : U32).toNat = 0 := rfl
  unfold prescalerPs
  rw [zero, divRound64_zero, Option.map_none]

/-- A pass of the outer loop is given up, cannot divide by the clock, or goes on to the inner
    loop. -/
theorem tqTrial_cases (nonzero : tqNb ≠ 0) :
    tqTrial abtOrg cap sysclock tBitNs tqNb = some none ∨
      (sysclock = 0 ∧ tqTrial abtOrg cap sysclock tBitNs tqNb = none) ∨
      ∃ cur, sysclock ≠ 0 ∧ tqTrial abtOrg cap sysclock tBitNs tqNb = some (some cur) ∧
        Passes abtOrg cap sysclock tBitNs tqNb cur := by
  obtain ⟨prescaler, divided⟩ : ∃ prescaler, tqPrescaler sysclock tBitNs tqNb = some prescaler :=
    ⟨_, tqPrescaler_some nonzero⟩
  unfold tqTrial
  rw [divided]
  simp only [Option.bind_eq_bind, Option.bind_some, Option.pure_def]
  split
  next => exact .inl rfl
  next brp =>
  by_cases ticks : sysclock ≠ 0
  case neg =>
    obtain rfl := not_not.mp ticks
    rw [prescalerPs_stopped]
    exact .inr (.inl ⟨rfl, rfl⟩)
  obtain ⟨tSclPs, length⟩ : ∃ tSclPs, prescalerPs sysclock prescaler = some tSclPs :=
    ⟨_, prescalerPs_some ticks prescaler⟩
  rw [length]
  simp only [Option.bind_some]
  split
  next => exact .inl rfl
  next positive =>
  obtain ⟨tseg1, first⟩ := @tsegQuanta_some abtOrg.tseg1Ns _ positive
  obtain ⟨tseg2, second⟩ := @tsegQuanta_some abtOrg.tseg2Ns _ positive
  rw [first, second]
  simp only [Option.bind_some]
  split
  next => exact .inl rfl
  next quanta =>
  split
  next => exact .inl rfl
  next range1 =>
  split
  next => exact .inl rfl
  next range2 =>
  exact .inr (.inr ⟨_, ticks, rfl, divided, brp, length, positive, first, second, not_not.mp quanta,
    range1, range2, rfl, rfl⟩)

theorem tqTrial_passes {prescaler tseg1 tseg2 : U16} {tSclPs : U32}
    (divided : tqPrescaler sysclock tBitNs tqNb = some prescaler)
    (brp : ¬(prescaler.setWidth 32 < cap.brpMin ∨ cap.brpMax < prescaler.setWidth 32))
    (length : prescalerPs sysclock prescaler = some tSclPs) (positive : tSclPs ≠ 0)
    (first : tsegQuanta abtOrg.tseg1Ns tSclPs = some tseg1)
    (second : tsegQuanta abtOrg.tseg2Ns tSclPs = some tseg2)
    (quanta : tseg1.toNat + tseg2.toNat + 1 = tqNb.toNat)
    (range1 : ¬(tseg1.setWidth 32 < cap.tseg1Min ∨ cap.tseg1Max < tseg1.setWidth 32))
    (range2 : ¬(tseg2.setWidth 32 < cap.tseg2Min ∨ cap.tseg2Max < tseg2.setWidth 32)) :
    ∃ cur, tqTrial abtOrg cap sysclock tBitNs tqNb = some (some cur) ∧
      cur.tSclPs = tSclPs ∧ cur.tseg1 = tseg1 ∧ cur.tseg2 = tseg2 := by
  unfold tqTrial
  simp only [divided, length, first, second, Option.bind_eq_bind, Option.bind_some, if_neg brp,
    if_neg positive, if_neg (not_not.mpr quanta), if_neg range1, if_neg range2]
  exact ⟨_, rfl, rfl, rfl, rfl⟩

theorem tsegQuanta_bound {tsegNs tSclPs : U32} {quanta : U16} (short : tsegNs.toNat ≤ 128000)
    (counted : tsegQuanta tsegNs tSclPs = some quanta) :
    quanta.toNat * tSclPs.toNat ≤ 1000 * tsegNs.toNat + tSclPs.toNat / 2 := by
  have size := tSclPs.isLt
  unfold tsegQuanta divRound divU32 at counted
  split at counted
  next => cases counted
  next =>
  have same := Option.some.inj counted
  have thousand : (1000 : U32).toNat = 1000 := rfl
  have two : (2 : U32).toNat = 2 := rfl
  have dividend : (1000 * tsegNs + tSclPs / 2 : U32).toNat =
      1000 * tsegNs.toNat + tSclPs.toNat / 2 := by
    rw [BitVec.toNat_add, BitVec.toNat_mul, BitVec.toNat_udiv, thousand, two]
    omega
  have below : quanta.toNat ≤ (1000 * tsegNs.toNat + tSclPs.toNat / 2) / tSclPs.toNat := by
    rw [← same, BitVec.toNat_setWidth, BitVec.toNat_udiv, dividend]
    exact Nat.mod_le _ _
  exact Nat.le_trans (Nat.mul_le_mul_right _ below) (Nat.div_mul_le_self _ _)

theorem quantaNs_toNat {quanta : U16} {tSclPs : U32}
    (fits : quanta.toNat * tSclPs.toNat < 2 ^ 32) :
    (quantaNs quanta tSclPs).toNat = quanta.toNat * tSclPs.toNat / 1000 := by
  unfold quantaNs
  rw [BitVec.toNat_ofNat, Nat.mod_eq_of_lt (by omega)]

theorem Passes.lengths {cur : PcanTimingParameters} (passes : Passes abtOrg cap sysclock tBitNs tqNb cur)
    (first : abtOrg.tseg1Ns.toNat ≤ 128000) (second : abtOrg.tseg2Ns.toNat ≤ 64000)
    (four : 4 ≤ tqNb.toNat) :
    cur.tSclPs.toNat ≤ 96000000 ∧ cur.tseg1Ns.toNat ≤ 176000 ∧ cur.tseg2Ns.toNat ≤ 112000 := by
  have bound1 := tsegQuanta_bound first passes.tseg1
  have bound2 := tsegQuanta_bound (by omega) passes.tseg2
  have three : 3 * cur.tSclPs.toNat ≤
      cur.tseg1.toNat * cur.tSclPs.toNat + cur.tseg2.toNat * cur.tSclPs.toNat := by
    rw [← Nat.add_mul]
    exact Nat.mul_le_mul_right _ (by have := passes.quanta; omega)
  have ns1 := @quantaNs_toNat cur.tseg1 cur.tSclPs (by omega)
  have ns2 := @quantaNs_toNat cur.tseg2 cur.tSclPs (by omega)
  rw [passes.tseg1Ns, passes.tseg2Ns, ns1, ns2]
  omega

theorem Passes.ns {cur : PcanTimingParameters} (passes : Passes abtOrg cap sysclock tBitNs tqNb cur)
    (first : abtOrg.tseg1Ns.toNat ≤ 128000) (second : abtOrg.tseg2Ns.toNat ≤ 64000)
    (four : 4 ≤ tqNb.toNat) :
    cur.tseg1Ns.toNat = cur.tseg1.toNat * cur.tSclPs.toNat / 1000 ∧
      cur.tseg2Ns.toNat = cur.tseg2.toNat * cur.tSclPs.toNat / 1000 := by
  obtain ⟨short, -⟩ := passes.lengths first second four
  have bound1 := tsegQuanta_bound first passes.tseg1
  have bound2 := tsegQuanta_bound (by omega) passes.tseg2
  rw [passes.tseg1Ns, passes.tseg2Ns]
  exact ⟨quantaNs_toNat (by omega), quantaNs_toNat (by omega)⟩

/-- The inner loop has no division by zero: the bit is shorter than 2^32 picoseconds. -/
theorem Passes.divisor {cur : PcanTimingParameters} (passes : Passes abtOrg cap sysclock tBitNs tqNb cur)
    (first : abtOrg.tseg1Ns.toNat ≤ 128000) (second : abtOrg.tseg2Ns.toNat ≤ 64000)
    (four : 4 ≤ tqNb.toNat) :
    0 < (cur.tSclPs + cur.tseg1Ns * 1000 + cur.tseg2Ns * 1000).toNat := by
  obtain ⟨short, ns1, ns2⟩ := passes.lengths first second four
  have positive : 0 < cur.tSclPs.toNat :=
    Nat.pos_of_ne_zero fun zero => passes.positive (BitVec.eq_of_toNat_eq zero)
  have thousand : (1000 : U32).toNat = 1000 := rfl
  have ps1 : (cur.tseg1Ns * 1000).toNat ≤ 176000000 := by
    rw [BitVec.toNat_mul, thousand]
    exact Nat.le_trans (Nat.mod_le _ _) (by omega)
  have ps2 : (cur.tseg2Ns * 1000).toNat ≤ 112000000 := by
    rw [BitVec.toNat_mul, thousand]
    exact Nat.le_trans (Nat.mod_le _ _) (by omega)
  rw [BitVec.toNat_add, BitVec.toNat_add, Nat.mod_eq_of_lt (a := cur.tSclPs.toNat + _) (by omega),
    Nat.mod_eq_of_lt (by omega)]
  omega

def jumpTrial (abtOrg : PcanBittimingAbs) (cur : PcanTimingParameters) (sjw : U16) :
    PcanTimingParameters :=
  let divisor := (cur.tSclPs + cur.tseg1Ns * 1000 + cur.tseg2Ns * 1000).toNat
  let cur := { cur with
    sjw
    sjwNs := quantaNs sjw cur.tSclPs
    baudrate := BitVec.ofNat 32 ((1000 * ghz + divisor / 2) / divisor) }
  { cur with penalty := timingPenalty abtOrg cur }

theorem sjwTrial_some {cur : PcanTimingParameters}
    (divisor : 0 < (cur.tSclPs + cur.tseg1Ns * 1000 + cur.tseg2Ns * 1000).toNat) (sjw : U16) :
    sjwTrial abtOrg cur sjw = some (jumpTrial abtOrg cur sjw) := by
  unfold sjwTrial
  rw [divRound64_of_pos divisor]
  rfl

theorem jumpTrial_quanta (cur : PcanTimingParameters) (sjw : U16) :
    (jumpTrial abtOrg cur sjw).quanta = cur.quanta := rfl

theorem tqTrials_eq {cur : PcanTimingParameters} {widths : List U16}
    (passed : tqTrial abtOrg cap sysclock tBitNs tqNb = some (some cur))
    (divisor : 0 < (cur.tSclPs + cur.tseg1Ns * 1000 + cur.tseg2Ns * 1000).toNat)
    (ends : sjwChoices cap = some widths) :
    tqTrials abtOrg cap sysclock tBitNs tqNb = some (widths.map (jumpTrial abtOrg cur)) := by
  have all : sjwTrial abtOrg cur = fun sjw => pure (jumpTrial abtOrg cur sjw) :=
    funext (sjwTrial_some divisor)
  unfold tqTrials
  rw [passed]
  simp only [Option.bind_eq_bind, Option.bind_some, ends, all, List.mapM_pure]
  rfl

end Trials
section Choices
variable {cap : PcanfdBittimingRange}

theorem countdown_toNat {first : U16} {k : Nat} (enough : k ≤ first.toNat) :
    (first - BitVec.ofNat 16 k).toNat = first.toNat - k := by
  have size := first.isLt
  have word : (BitVec.ofNat 16 k).toNat = k := by
    rw [BitVec.toNat_ofNat, Nat.mod_eq_of_lt (by omega)]
  rw [BitVec.toNat_sub_of_le (BitVec.le_def.mpr (by omega)), word]

theorem countup_toNat {first : U16} {k : Nat} (room : first.toNat + k < 2 ^ 16) :
    (first + BitVec.ofNat 16 k).toNat = first.toNat + k := by
  rw [BitVec.toNat_add, BitVec.toNat_ofNat, Nat.mod_eq_of_lt (by omega : k < 2 ^ 16),
    Nat.mod_eq_of_lt room]

theorem tqChoices_iff {tqNb : U16} : tqNb ∈ tqChoices cap ↔
    4 ≤ tqNb.toNat ∧ tqNb ≤ (cap.tseg1Max + cap.tseg2Max + 1).setWidth 16 := by
  unfold tqChoices
  simp only [List.mem_map, List.mem_range, BitVec.le_def]
  generalize (cap.tseg1Max + cap.tseg2Max + 1).setWidth 16 = first
  constructor
  · rintro ⟨k, below, rfl⟩
    rw [countdown_toNat (by omega)]
    omega
  · rintro ⟨four, high⟩
    refine ⟨first.toNat - tqNb.toNat, by omega, BitVec.eq_of_toNat_eq ?_⟩
    rw [countdown_toNat (by omega)]
    omega

theorem tqChoices_down : (tqChoices cap).Pairwise fun a b => b.toNat < a.toNat := by
  unfold tqChoices
  rw [List.pairwise_map]
  refine List.pairwise_lt_range.imp_of_mem ?_
  intro i j hi hj lt
  rw [List.mem_range] at hi hj
  rw [countdown_toNat (by omega), countdown_toNat (by omega)]
  omega

theorem sjwChoices_up {widths : List U16} (ends : sjwChoices cap = some widths) :
    widths.Pairwise fun a b => a.toNat < b.toNat := by
  unfold sjwChoices at ends
  split at ends
  next => cases ends
  next last =>
  rw [BitVec.not_le, BitVec.lt_def] at last
  have bound : cap.sjwMax.toNat < 0xffff := last
  obtain rfl := Option.some.inj ends
  rw [List.pairwise_map]
  refine List.pairwise_lt_range.imp_of_mem ?_
  intro i j hi hj lt
  rw [List.mem_range] at hi hj
  rw [countup_toNat (by omega), countup_toNat (by omega)]
  omega

theorem mem_sjwChoices {widths : List U16} {sjw : U16} (ends : sjwChoices cap = some widths)
    (low : (cap.sjwMin.setWidth 16 : U16) ≤ sjw) (high : sjw.toNat ≤ cap.sjwMax.toNat) :
    sjw ∈ widths := by
  unfold sjwChoices at ends
  split at ends
  next => cases ends
  next =>
  obtain rfl := Option.some.inj ends
  rw [BitVec.le_def] at low
  have size := sjw.isLt
  rw [List.mem_map]
  refine ⟨sjw.toNat - (cap.sjwMin.setWidth 16 : U16).toNat, ?_, BitVec.eq_of_toNat_eq ?_⟩
  · rw [List.mem_range]
    omega
  · rw [countup_toNat (by omega)]
    omega

theorem sjwChoices_bounds {widths : List U16} {sjw : U16} (ends : sjwChoices cap = some widths)
    (member : sjw ∈ widths) :
    (cap.sjwMin.setWidth 16 : U16).toNat ≤ sjw.toNat ∧ sjw.toNat ≤ cap.sjwMax.toNat := by
  unfold sjwChoices at ends
  split at ends
  next => cases ends
  next last =>
  rw [BitVec.not_le, BitVec.lt_def] at last
  have bound : cap.sjwMax.toNat < 0xffff := last
  obtain rfl := Option.some.inj ends
  obtain ⟨k, inside, rfl⟩ := List.mem_map.mp member
  rw [List.mem_range] at inside
  rw [countup_toNat (by omega)]
  omega

end Choices

section Search
variable {abtOrg : PcanBittimingAbs} {cap : PcanfdBittimingRange} {sysclock tBitNs : U32}
  (first : abtOrg.tseg1Ns.toNat ≤ 128000) (second : abtOrg.tseg2Ns.toNat ≤ 64000)

theorem tqTrials_given_up {tqNb : U16}
    (given : tqTrial abtOrg cap sysclock tBitNs tqNb = some none) :
    tqTrials abtOrg cap sysclock tBitNs tqNb = some [] := by
  unfold tqTrials
  rw [given]
  rfl

include first second in
/-- A pass of the outer loop compares nothing, does not return, or compares every jump width. -/
theorem tqTrials_cases {tqNb : U16} (choice : tqNb ∈ tqChoices cap) :
    tqTrials abtOrg cap sysclock tBitNs tqNb = some [] ∨
      ((sysclock = 0 ∨ sjwChoices cap = none) ∧ tqTrials abtOrg cap sysclock tBitNs tqNb = none) ∨
      ∃ cur widths, sysclock ≠ 0 ∧ sjwChoices cap = some widths ∧
        Passes abtOrg cap sysclock tBitNs tqNb cur ∧
        tqTrials abtOrg cap sysclock tBitNs tqNb = some (widths.map (jumpTrial abtOrg cur)) := by
  have four := (tqChoices_iff.mp choice).1
  have nonzero : tqNb ≠ 0 := by
    rintro rfl
    exact absurd four (by decide)
  rcases @tqTrial_cases abtOrg cap sysclock tBitNs tqNb nonzero with
    given | ⟨stopped, missing⟩ | ⟨cur, ticks, passed, passes⟩
  · exact .inl (tqTrials_given_up given)
  · refine .inr (.inl ⟨.inl stopped, ?_⟩)
    unfold tqTrials
    rw [missing]
    rfl
  · cases ends : sjwChoices cap with
    | none =>
      refine .inr (.inl ⟨.inr rfl, ?_⟩)
      unfold tqTrials
      rw [passed, ends]
      rfl
    | some widths =>
      exact .inr (.inr ⟨cur, widths, ticks, rfl, passes,
        tqTrials_eq passed (passes.divisor first second four) ends⟩)

variable (abtOrg cap sysclock tBitNs) in
def allTrials : List PcanTimingParameters :=
  (tqChoices cap).flatMap fun tqNb => (tqTrials abtOrg cap sysclock tBitNs tqNb).getD []

include first second in
theorem mem_tqTrials {tqNb : U16} (choice : tqNb ∈ tqChoices cap) {c : PcanTimingParameters}
    (member : c ∈ (tqTrials abtOrg cap sysclock tBitNs tqNb).getD []) :
    c.quanta = tqNb.toNat := by
  rcases tqTrials_cases first second choice with
    empty | ⟨-, missing⟩ | ⟨cur, widths, -, -, passes, trials⟩
  · rw [empty] at member
    cases member
  · rw [missing] at member
    cases member
  · rw [trials, Option.getD_some, List.mem_map] at member
    obtain ⟨sjw, -, rfl⟩ := member
    rw [jumpTrial_quanta]
    exact passes.quanta

include first second in
theorem allTrials_ordered : (allTrials abtOrg cap sysclock tBitNs).Pairwise TriedBefore := by
  unfold allTrials
  rw [List.pairwise_flatMap]
  constructor
  · intro tqNb choice
    rcases tqTrials_cases first second choice with
      empty | ⟨-, missing⟩ | ⟨cur, widths, -, ends, -, trials⟩
    · rw [empty]
      exact List.Pairwise.nil
    · rw [missing]
      exact List.Pairwise.nil
    · rw [trials, Option.getD_some, List.pairwise_map]
      refine (sjwChoices_up ends).imp ?_
      intro a b narrower
      exact .inr ⟨rfl, narrower⟩
  · refine tqChoices_down.imp_of_mem ?_
    intro a b ha hb lt c hc d hd
    rw [TriedBefore, mem_tqTrials first second ha hc, mem_tqTrials first second hb hd]
    exact .inl lt

theorem searchBaudrate_eq : searchBaudrate abtOrg cap sysclock tBitNs =
    (tqChoices cap).foldlM
      (fun best tqNb => (tqTrials abtOrg cap sysclock tBitNs tqNb).map
        (List.foldl (keep fun c => c.penalty.toNat) best))
      { PcanTimingParameters.zero with penalty := penaltyInvalid } := by
  have same : keepBaudrate = keep fun c => c.penalty.toNat := rfl
  unfold searchBaudrate
  rw [same]
  congr
  funext best tqNb
  cases tqTrials abtOrg cap sysclock tBitNs tqNb <;> rfl

theorem tried_iff {c : PcanTimingParameters} : TriedValues abtOrg cap sysclock tBitNs c ↔
    c ∈ allTrials abtOrg cap sysclock tBitNs ∧ c.penalty < penaltyInvalid := by
  unfold TriedValues allTrials
  rw [List.mem_flatMap]
  constructor
  · rintro ⟨tqNb, choice, trials, returned, member, kept⟩
    exact ⟨⟨tqNb, choice, by rwa [returned]⟩, kept⟩
  · rintro ⟨⟨tqNb, choice, member⟩, kept⟩
    cases returned : tqTrials abtOrg cap sysclock tBitNs tqNb with
    | none =>
      rw [returned] at member
      cases member
    | some trials =>
      rw [returned] at member
      exact ⟨tqNb, choice, trials, returned, member, kept⟩

include first second in
theorem search_cases :
    ((∀ c, ¬TriedValues abtOrg cap sysclock tBitNs c) ∧
      (searchBaudrate abtOrg cap sysclock tBitNs = none ∨
        searchBaudrate abtOrg cap sysclock tBitNs =
          some { PcanTimingParameters.zero with penalty := penaltyInvalid })) ∨
      ∃ best, Leads (fun c => c.penalty.toNat) TriedBefore (TriedValues abtOrg cap sysclock tBitNs) best ∧
        searchBaudrate abtOrg cap sysclock tBitNs = some best := by
  by_cases ends : sysclock = 0 ∨ sjwChoices cap = none
  · have nothing : ∀ tqNb ∈ tqChoices cap, tqTrials abtOrg cap sysclock tBitNs tqNb = none ∨
        tqTrials abtOrg cap sysclock tBitNs tqNb = some [] := by
      intro tqNb choice
      rcases tqTrials_cases first second choice with empty | ⟨-, missing⟩ | ⟨_, _, ticks, some, -⟩
      · exact .inr empty
      · exact .inl missing
      · rcases ends with stopped | never
        · exact absurd stopped ticks
        · cases never.symm.trans some
    refine .inl ⟨?_, ?_⟩
    · rintro c ⟨tqNb, choice, trials, returned, member, -⟩
      rcases nothing tqNb choice with missing | empty
      · cases missing.symm.trans returned
      · obtain rfl := Option.some.inj (empty.symm.trans returned)
        cases member
    · rw [searchBaudrate_eq]
      exact foldlM_nothing nothing _
  · have all : ∀ tqNb ∈ tqChoices cap, tqTrials abtOrg cap sysclock tBitNs tqNb =
        some ((tqTrials abtOrg cap sysclock tBitNs tqNb).getD []) := by
      intro tqNb choice
      rcases tqTrials_cases first second choice with empty | ⟨never, -⟩ | ⟨_, _, -, -, -, trials⟩
      · rw [empty, Option.getD_some]
      · exact absurd never ends
      · rw [trials, Option.getD_some]
    rw [searchBaudrate_eq, foldlM_groups all]
    have folded := @foldl_keep _ (fun c => c.penalty.toNat) _
      (allTrials abtOrg cap sysclock tBitNs) (allTrials_ordered first second)
      { PcanTimingParameters.zero with penalty := penaltyInvalid }
    rcases folded with ⟨same, least⟩ | ⟨better, member, ahead⟩
    · refine .inl ⟨?_, .inr (congrArg some same)⟩
      intro c tried
      obtain ⟨member, kept⟩ := tried_iff.mp tried
      exact absurd kept (Nat.not_lt.mpr (least c member))
    · refine .inr ⟨_, ⟨tried_iff.mpr ⟨member, better⟩, ?_⟩, rfl⟩
      intro c tried
      exact ahead c (tried_iff.mp tried).1

include first second in
theorem convert_cases
    (rated : divRound (BitVec.ofNat 32 ghz) abtOrg.bitrate = some tBitNs) :
    ((∀ c, ¬TriedValues abtOrg cap sysclock tBitNs c) ∧
      ∀ abtResult abt, pcanConvertAbstract abtResult abtOrg cap sysclock ≠ some (1, abt)) ∨
      ∃ best, Leads (fun c => c.penalty.toNat) TriedBefore (TriedValues abtOrg cap sysclock tBitNs) best ∧
        ∀ abtResult, pcanConvertAbstract abtResult abtOrg cap sysclock =
          some (1, best.toAbstract abtResult abtOrg) := by
  unfold pcanConvertAbstract
  rw [rated]
  simp only [Option.bind_eq_bind, Option.bind_some]
  rcases @search_cases abtOrg cap sysclock tBitNs first second with
    ⟨nothing, missing | start⟩ | ⟨best, leads, found⟩
  · refine .inl ⟨nothing, fun abtResult abt same => ?_⟩
    rw [missing] at same
    cases same
  · refine .inl ⟨nothing, fun abtResult abt same => ?_⟩
    rw [start, Option.bind_some, if_pos rfl] at same
    have zero_one : (0 : Int) = 1 := congrArg Prod.fst (Option.some.inj same)
    exact absurd zero_one (by decide)
  · refine .inr ⟨best, leads, fun abtResult => ?_⟩
    have kept := (tried_iff.mp leads.1).2
    rw [found, Option.bind_some, if_neg (BitVec.ne_of_lt kept)]
    rfl

end Search

end PcanDriver

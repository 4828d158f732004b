import Mathlib.Data.Nat.Dist
import Mathlib.Tactic.IntervalCases
import Mathlib.Tactic.Linarith
import PcanDriver.Lib.RoundedDivision

/-!
The roundings between two timings of about the same bit in `pcan_timing.c`: the segments of the
original are counted in quanta of another length, to the nearest, their lengths are rounded down to
whole nanoseconds, and these are counted again in quanta of whole nanoseconds.
-/
namespace PcanDriver
open RoundedDivision

section Matched

/-- The segments of a quantum of `ps` picoseconds next to those of a quantum of `brp` times 125 ns,
    with bits of the same length in whole nanoseconds. -/
structure Matched (brp tseg1 tseg2 ps first second : Nat) : Prop where
  least : 1 ≤ brp
  range1 : 1 ≤ tseg1 ∧ tseg1 ≤ 16
  range2 : 1 ≤ tseg2 ∧ tseg2 ≤ 8
  four : 4 ≤ 1 + tseg1 + tseg2
  count1 : first = nearest (125000 * (brp * tseg1)) ps
  count2 : second = nearest (125000 * (brp * tseg2)) ps
  bit : first * ps / 1000 + second * ps / 1000 + ps / 1000 =
    125 * (brp + brp * tseg1 + brp * tseg2)
  more : 1 + tseg1 + tseg2 ≤ first + second + 1

variable {brp tseg1 tseg2 ps first second : Nat}

theorem half_quantum (few1 : 2 * (first * ps) ≤ 2 * (125000 * (brp * tseg1)) + ps)
    (few2 : 2 * (second * ps) ≤ 2 * (125000 * (brp * tseg2)) + ps)
    (bit : first * ps / 1000 + second * ps / 1000 + ps / 1000 =
      125 * (brp + brp * tseg1 + brp * tseg2)) : 62500 * brp ≤ ps := by
  omega

theorem few_quanta {tseg count : Nat} (low : 62500 * brp ≤ ps) (positive : 0 < ps)
    (counted : count = nearest (125000 * (brp * tseg)) ps) : count ≤ 2 * tseg := by
  have bound := nearest_le (125000 * (brp * tseg)) (b := ps)
  rw [← counted] at bound
  have doubled := Nat.mul_le_mul_right tseg low
  rw [Nat.mul_assoc] at doubled
  have cancelled : 2 * count * ps ≤ (4 * tseg + 1) * ps := by
    rw [Nat.add_mul, Nat.mul_assoc 4, Nat.mul_assoc 2, Nat.mul_comm tseg ps, Nat.one_mul]
    rw [Nat.mul_comm ps tseg]
    rw [Nat.mul_comm ps tseg] at doubled
    omega
  have counts := Nat.le_of_mul_le_mul_right cancelled positive
  omega

namespace Matched
variable (matched : Matched brp tseg1 tseg2 ps first second)
include matched

theorem low : 62500 * brp ≤ ps := by
  refine half_quantum ?_ ?_ matched.bit
  · rw [matched.count1]
    exact nearest_le _
  · rw [matched.count2]
    exact nearest_le _

theorem positive : 0 < ps := by
  have low := matched.low
  have least := matched.least
  omega

theorem span : 125000 * (brp * (1 + tseg1 + tseg2)) ≤ (first + second + 1) * ps ∧
    (first + second + 1) * ps ≤ 125000 * (brp * (1 + tseg1 + tseg2)) + 2997 := by
  have bit := matched.bit
  simp only [Nat.mul_add, Nat.mul_one, Nat.add_mul, Nat.one_mul]
  omega

theorem high : ps ≤ 125000 * brp + 749 := by
  by_contra long
  have least : 125000 * brp + 750 ≤ ps := by omega
  have bits := Nat.mul_le_mul matched.more least
  have span := matched.span.2
  have four := matched.four
  rw [Nat.mul_add, Nat.mul_left_comm, Nat.mul_comm (1 + tseg1 + tseg2) brp] at bits
  omega

theorem few1 : first ≤ 2 * tseg1 := few_quanta matched.low matched.positive matched.count1

theorem few2 : second ≤ 2 * tseg2 := few_quanta matched.low matched.positive matched.count2

end Matched

theorem ns_near {prescaler mega ps ns : Nat} (ticks : 0 < mega)
    (isPs : ps = nearest (prescaler * 1000000) mega) (isNs : ns = nearest (prescaler * 1000) mega) :
    2000 * ns ≤ 2 * ps + 1001 ∧ 2 * ps ≤ 2000 * ns + 1001 := by
  have psLow := nearest_le (prescaler * 1000000) (b := mega)
  have psHigh := lt_nearest (a := prescaler * 1000000) ticks
  have nsLow := nearest_le (prescaler * 1000) (b := mega)
  have nsHigh := lt_nearest (a := prescaler * 1000) ticks
  rw [← isPs] at psLow psHigh
  rw [← isNs] at nsLow nsHigh
  constructor
  · apply Nat.le_of_mul_le_mul_right _ ticks
    rw [Nat.add_mul, Nat.mul_assoc, Nat.mul_assoc]
    omega
  · apply Nat.le_of_mul_le_mul_right _ ticks
    rw [Nat.add_mul, Nat.mul_assoc, Nat.mul_assoc]
    omega

section Recount
variable {ns : Nat} (near : 2000 * ns ≤ 2 * ps + 1001 ∧ 2 * ps ≤ 2000 * ns + 1001)
include near

theorem recount {count : Nat} (few : count ≤ 50) (long : 60 ≤ ns) :
    nearest (count * ps / 1000) ns = count := by
  have above := Nat.mul_le_mul_left count near.1
  have below := Nat.mul_le_mul_left count near.2
  rw [Nat.mul_add, Nat.mul_left_comm, Nat.mul_left_comm count 2] at above
  rw [Nat.mul_add, Nat.mul_left_comm, Nat.mul_left_comm count 2000] at below
  apply nearest_eq
  · omega
  · omega

theorem recount_jump {sjw jump : Nat} (least : 1 ≤ brp) (low : 62500 * brp ≤ ps)
    (high : ps ≤ 125000 * brp + 749) (short : brp ≤ 64) (width : 1 ≤ sjw ∧ sjw ≤ 4)
    (same : jump * ps / 1000 % 2 ^ 32 = 125 * (brp * sjw)) :
    sjw ≤ nearest (125 * (brp * sjw)) ns ∧ nearest (125 * (brp * sjw)) ns ≤ jump := by
  have positive : 0 < ns := by omega
  constructor
  · apply le_nearest positive
    have longer : ns ≤ 125 * brp + 1 := by omega
    have product := Nat.mul_le_mul_left sjw longer
    rw [Nat.mul_add, Nat.mul_left_comm, Nat.mul_comm sjw brp] at product
    omega
  · apply Nat.le_of_lt_succ
    unfold nearest
    rw [Nat.div_lt_iff_lt_mul positive, Nat.succ_eq_add_one, Nat.add_mul, Nat.one_mul]
    have most : brp * sjw ≤ brp * 4 := Nat.mul_le_mul_left brp width.2
    by_cases wide : 8 ≤ jump
    · have product := Nat.mul_le_mul_right ns wide
      omega
    · -- So narrow a jump width does not wrap in 32 bits.
      have product := Nat.mul_le_mul (Nat.le_of_lt_succ (Nat.not_le.mp wide)) high
      rw [Nat.mod_eq_of_lt (by omega)] at same
      have below := Nat.mul_le_mul_left jump near.2
      rw [Nat.mul_add, Nat.mul_left_comm, Nat.mul_left_comm jump 2000] at below
      omega

end Recount

section Bits
variable (matched : Matched brp tseg1 tseg2 ps first second)
include matched

theorem Matched.bounds :
    (2 * (first * ps) ≤ 2 * (125000 * (brp * tseg1)) + ps ∧
      2 * (125000 * (brp * tseg1)) < 2 * (first * ps) + ps) ∧
    2 * (second * ps) ≤ 2 * (125000 * (brp * tseg2)) + ps ∧
      2 * (125000 * (brp * tseg2)) < 2 * (second * ps) + ps := by
  have positive := matched.positive
  have low1 := nearest_le (125000 * (brp * tseg1)) (b := ps)
  have high1 := lt_nearest (a := 125000 * (brp * tseg1)) positive
  have low2 := nearest_le (125000 * (brp * tseg2)) (b := ps)
  have high2 := lt_nearest (a := 125000 * (brp * tseg2)) positive
  rw [← matched.count1] at low1 high1
  rw [← matched.count2] at low2 high2
  exact ⟨⟨low1, high1⟩, low2, high2⟩

theorem Matched.slack : 2 * ((first + second + 1) * ps) + (first + second + 1) ≤
    251256 * (brp * (1 + tseg1 + tseg2)) := by
  have few1 := matched.few1
  have few2 := matched.few2
  have range1 := matched.range1
  have range2 := matched.range2
  have span := matched.span.2
  have quanta := Nat.mul_le_mul matched.least matched.four
  by_cases shortest : brp * (1 + tseg1 + tseg2) = 4
  · -- The bit of 500 ns: what is lost in the three roundings down is less than there could be.
    have least := matched.least
    have four := matched.four
    obtain rfl : brp = 1 := by
      by_contra other
      have product := Nat.mul_le_mul (by omega : 2 ≤ brp) four
      omega
    have bounds := matched.bounds
    have bit := matched.bit
    have more := matched.more
    obtain ⟨rfl, rfl⟩ | ⟨rfl, rfl⟩ : tseg1 = 1 ∧ tseg2 = 2 ∨ tseg1 = 2 ∧ tseg2 = 1 := by omega
    · interval_cases first <;> interval_cases second <;> omega
    · interval_cases first <;> interval_cases second <;> omega
  · omega

theorem Matched.rate {prescaler mega : Nat} (ticks : 0 < mega)
    (isPs : ps = nearest (prescaler * 1000000) mega) :
    199 * (8 * (prescaler * (1 + first + second))) ≤ 200 * (mega * (brp * (1 + tseg1 + tseg2))) ∧
    200 * (mega * (brp * (1 + tseg1 + tseg2))) ≤ 201 * (8 * (prescaler * (1 + first + second))) := by
  have low := nearest_le (prescaler * 1000000) (b := mega)
  have high := lt_nearest (a := prescaler * 1000000) ticks
  rw [← isPs] at low high
  have few1 := matched.few1
  have few2 := matched.few2
  have range1 := matched.range1
  have range2 := matched.range2
  have quanta := Nat.mul_le_mul matched.least matched.four
  have slack := Nat.mul_le_mul_right mega matched.slack
  have span := Nat.mul_le_mul_right mega matched.span.1
  have shorter := Nat.mul_le_mul_left (first + second + 1) low
  have longer := Nat.mul_le_mul_left (first + second + 1) (Nat.le_of_lt high)
  have count : first + second + 1 ≤ 13 * (brp * (1 + tseg1 + tseg2)) := by omega
  have counts := Nat.mul_le_mul_right mega count
  constructor
  · linarith
  · linarith

theorem Matched.sample :
    Nat.dist ((1 + first) * (1 + tseg1 + tseg2)) ((1 + tseg1) * (1 + first + second)) ≤
      1 + tseg1 + tseg2 := by
  obtain ⟨⟨low1, -⟩, low2, -⟩ := matched.bounds
  obtain ⟨spanLow, spanHigh⟩ := matched.span
  have low := matched.low
  have high := matched.high
  have least := matched.least
  have later : (1 + first) * (1 + tseg1 + tseg2) ≤
      (1 + tseg1) * (1 + first + second) + (1 + tseg1 + tseg2) := by
    apply Nat.le_of_mul_le_mul_right _ matched.positive
    have segment : 2 * (ps + first * ps) ≤ 2 * ps + 250000 * (brp + brp * tseg1) := by omega
    have segments := Nat.mul_le_mul_left (1 + tseg1 + tseg2) segment
    have bits := Nat.mul_le_mul_left (1 + tseg1) spanLow
    linarith
  have earlier : (1 + tseg1) * (1 + first + second) ≤
      (1 + first) * (1 + tseg1 + tseg2) + (1 + tseg1 + tseg2) := by
    apply Nat.le_of_mul_le_mul_right _ matched.positive
    have segment : 250000 * (brp + brp * tseg1) ≤ 2 * (first * ps) + 3 * ps := by
      simp only [Nat.mul_add, Nat.mul_one, Nat.add_mul, Nat.one_mul] at spanLow
      omega
    have segments := Nat.mul_le_mul_left (1 + tseg1 + tseg2) segment
    have bits := Nat.mul_le_mul_left (1 + tseg1) spanHigh
    have room : (1 + tseg1) * 5994 ≤ (1 + tseg1 + tseg2) * ps :=
      Nat.mul_le_mul (Nat.le_add_right _ _) (by omega)
    linarith
  unfold Nat.dist
  omega

end Bits

end Matched

section ThreeQuanta

/-- Three quanta at 80 MHz, which the search does not try, come out as five that are as long, unless
    it is seven that are not: a quantum was one clock of 8 MHz then, and the jump width is met. -/
theorem three_quanta {brp sjw ns tqNb prescaler segment jump : Nat}
    (rounded : ns ≤ 375 * brp + 3 ∧ 375 * brp ≤ ns + 3) (five : 5 ≤ tqNb)
    (quanta : segment + segment + 1 = tqNb)
    (divided : prescaler = nearest (ns * 80) (tqNb * 1000))
    (counted : segment = nearest (125000 * brp) (12500 * prescaler)) (positive : 0 < prescaler)
    (penalty : Nat.dist (segment * (12500 * prescaler) / 1000 + segment * (12500 * prescaler) / 1000 +
        12500 * prescaler / 1000) (375 * brp) +
      Nat.dist (jump * (12500 * prescaler) / 1000) (125 * (brp * sjw)) ≤ 25 * brp)
    (other : 2 ≤ brp ∨ sjw % 2 = 1) : segment = 2 ∧ prescaler = 6 * brp := by
  have low := nearest_le (ns * 80) (b := tqNb * 1000)
  have high := lt_nearest (a := ns * 80) (b := tqNb * 1000) (by omega)
  have count := nearest_le (125000 * brp) (b := 12500 * prescaler)
  rw [← divided] at low high
  rw [← counted] at count
  unfold Nat.dist at penalty
  simp only [Nat.mul_left_comm _ 12500] at penalty count
  have longer : 28 * brp ≤ segment * prescaler + segment * prescaler + prescaler := by omega
  have least : 4 * brp ≤ prescaler := by omega
  have few : segment < 4 := by
    by_contra many
    have product := Nat.mul_le_mul_right prescaler (Nat.not_lt.mp many)
    omega
  obtain rfl | rfl : segment = 2 ∨ segment = 3 := by omega
  · subst quanta
    exact ⟨rfl, by omega⟩
  · subst quanta
    obtain rfl : prescaler = 4 * brp := by omega
    obtain rfl : brp = 1 := by omega
    omega

end ThreeQuanta

end PcanDriver

import PcanDriver.Timestamps

/-!
The two helpers that every timestamp goes through, step by step: the loop that borrows seconds in
`timeval_add_us` (`pcan_common.h`) and the comparison after the borrow in `subtract_timeval`
(`pcan_main.c`).
-/
namespace PcanDriver

section Source

def long (x : Int) : Int := Int.bmod x (2 ^ 64)

theorem long_bounds (x : Int) : -2 ^ 63 ≤ long x ∧ long x < 2 ^ 63 := bmod_bounds x

theorem long_exact {x : Int} (low : -2 ^ 63 ≤ x) (high : x < 2 ^ 63) : long x = x :=
  bmod_exact low high

theorem long_second_lt {usec : Int} (negative : usec < 0) : usec < long (usec + usecPerSec) := by
  unfold usecPerSec
  by_cases low : -2 ^ 63 ≤ usec
  · rw [long_exact (by omega) (by omega)]
    omega
  · have := (long_bounds (usec + 1000000)).1
    omega

/-- `while (tv->tv_usec < 0)`. -/
def borrowSeconds (tv : Timeval) : Timeval :=
  if tv.tvUsec < 0 then
    borrowSeconds ⟨long (tv.tvSec - 1), long (tv.tvUsec + usecPerSec)⟩
  else tv
termination_by (-tv.tvUsec).toNat
decreasing_by
  next negative =>
    have closer := long_second_lt negative
    omega

/-- `timeval_add_us` as it goes: what it comes to is `timevalAddUs`. -/
def timevalAddUsLoop (tv : Timeval) (us : Int) : Timeval :=
  let tv := borrowSeconds ⟨tv.tvSec, long (tv.tvUsec + us)⟩
  ⟨long (tv.tvSec + tv.tvUsec.tdiv usecPerSec), tv.tvUsec.tmod usecPerSec⟩

end Source

section Addition
variable {tv : Timeval} {us : Int}

structure Timeval.Fits (tv : Timeval) : Prop where
  usec : -2 ^ 63 ≤ tv.tvUsec
  sec : tv.tvSec < 2 ^ 63
  low : -2 ^ 63 * usecPerSec ≤ timevalToUs tv

theorem borrowed_exact (fits : tv.Fits) (negative : tv.tvUsec < 0) :
    (⟨long (tv.tvSec - 1), long (tv.tvUsec + usecPerSec)⟩ : Timeval) =
      ⟨tv.tvSec - 1, tv.tvUsec + usecPerSec⟩ := by
  obtain ⟨usec, sec, low⟩ := fits
  unfold timevalToUs usecPerSec at low
  rw [long_exact (by omega) (by omega), long_exact (by unfold usecPerSec; omega)
    (by unfold usecPerSec; omega)]

theorem borrowed_fits (fits : tv.Fits) (negative : tv.tvUsec < 0) :
    (⟨tv.tvSec - 1, tv.tvUsec + usecPerSec⟩ : Timeval).Fits := by
  obtain ⟨usec, sec, low⟩ := fits
  unfold timevalToUs at low
  refine ⟨?_, ?_, ?_⟩ <;> simp only [timevalToUs, usecPerSec] at low ⊢ <;> omega

theorem borrowSeconds_spec (fits : tv.Fits) :
    timevalToUs (borrowSeconds tv) = timevalToUs tv ∧ 0 ≤ (borrowSeconds tv).tvUsec ∧
      (borrowSeconds tv).tvUsec < max usecPerSec (tv.tvUsec + 1) := by
  induction tv using borrowSeconds.induct with
  | case1 tv negative ih =>
    rw [borrowed_exact fits negative] at ih
    obtain ⟨same, nonneg, less⟩ := ih (borrowed_fits fits negative)
    rw [borrowSeconds, if_pos negative, borrowed_exact fits negative]
    refine ⟨same.trans ?_, nonneg, ?_⟩
    · dsimp only [timevalToUs, usecPerSec]
      omega
    · dsimp only [usecPerSec] at less ⊢
      omega
  | case2 tv nonneg =>
    rw [borrowSeconds, if_neg nonneg]
    exact ⟨rfl, by omega, by omega⟩

/-- Neither the sum of the microseconds nor the seconds of the result leave a `long`. -/
structure AddsUp (tv : Timeval) (us : Int) : Prop where
  secLow : -2 ^ 63 ≤ tv.tvSec
  secHigh : tv.tvSec < 2 ^ 63
  sumLow : -2 ^ 63 ≤ tv.tvUsec + us
  sumHigh : tv.tvUsec + us < 2 ^ 63
  low : -2 ^ 63 * usecPerSec ≤ timevalToUs tv + us
  high : timevalToUs tv + us < 2 ^ 63 * usecPerSec

theorem timevalAddUsLoop_exact (adds : AddsUp tv us) :
    (timevalAddUsLoop tv us).Normal ∧
      timevalToUs (timevalAddUsLoop tv us) = timevalToUs tv + us := by
  obtain ⟨secLow, secHigh, sumLow, sumHigh, low, high⟩ := adds
  have added : timevalToUs ⟨tv.tvSec, tv.tvUsec + us⟩ = timevalToUs tv + us :=
    (Int.add_assoc _ _ _).symm
  obtain ⟨same, nonneg, -⟩ := @borrowSeconds_spec ⟨tv.tvSec, tv.tvUsec + us⟩
    ⟨sumLow, secHigh, added ▸ low⟩
  unfold timevalAddUsLoop
  rw [long_exact sumLow sumHigh]
  generalize borrowSeconds ⟨tv.tvSec, tv.tvUsec + us⟩ = borrowed at same nonneg
  rw [added] at same
  rw [← same] at low high ⊢
  have carried : borrowed.tvUsec.tdiv usecPerSec = borrowed.tvUsec / usecPerSec :=
    Int.tdiv_eq_ediv_of_nonneg nonneg
  have left : borrowed.tvUsec.tmod usecPerSec = borrowed.tvUsec % usecPerSec :=
    Int.tmod_eq_emod_of_nonneg nonneg
  unfold timevalToUs Timeval.Normal at *
  simp only [carried, left]
  unfold usecPerSec at *
  rw [long_exact (by omega) (by omega)]
  omega

theorem Timeval.Normal.unique {tv' : Timeval} (normal : tv.Normal) (normal' : tv'.Normal)
    (same : timevalToUs tv = timevalToUs tv') : tv = tv' := by
  obtain ⟨sec, usec⟩ := tv
  obtain ⟨sec', usec'⟩ := tv'
  dsimp only [timevalToUs, Timeval.Normal, usecPerSec] at same normal normal'
  rw [Timeval.mk.injEq]
  omega

theorem timevalAddUsLoop_eq (adds : AddsUp tv us) : timevalAddUsLoop tv us = timevalAddUs tv us := by
  obtain ⟨normal, sum⟩ := timevalAddUsLoop_exact adds
  refine normal.unique (timevalAddUs_normal tv us) ?_
  rw [sum, timevalAddUs_toUs, bmod_exact adds.sumLow adds.sumHigh]
  exact Int.add_assoc _ _ _

end Addition

section Difference
variable {x y : Timeval}

theorem subtractTimeval_exact (xNormal : x.Normal) (yNormal : y.Normal) (ySec : 0 ≤ y.tvSec) :
    ((subtractTimeval x y).isSome = true ↔ timevalToUs y ≤ timevalToUs x) ∧
      ∀ d, subtractTimeval x y = some d →
        d.Normal ∧ timevalToUs d = timevalToUs x - timevalToUs y := by
  obtain ⟨xLow, xHigh⟩ := xNormal
  obtain ⟨yLow, yHigh⟩ := yNormal
  unfold subtractTimeval
  dsimp only [timevalToUs, Timeval.Normal, usecPerSec] at *
  split
  · next noBorrow =>
    split
    · next later =>
      refine ⟨iff_of_true rfl (by omega), fun d same => ?_⟩
      cases same
      dsimp only
      omega
    · next earlier => exact ⟨iff_of_false Bool.false_ne_true (by omega), fun d same => by cases same⟩
  · next borrow =>
    split
    · next some_ =>
      split
      · next later =>
        refine ⟨iff_of_true rfl (by omega), fun d same => ?_⟩
        cases same
        dsimp only
        omega
      · next earlier =>
        exact ⟨iff_of_false Bool.false_ne_true (by omega), fun d same => by cases same⟩
    · next none =>
      exact ⟨iff_of_false Bool.false_ne_true (by omega), fun d same => by cases same⟩

/-- Of sums that fit and of times from zero on, every timestamp is exact and normalised. -/
theorem time_arithmetic_exact {tv : Timeval} {us : Int} (adds : AddsUp tv us)
    (xNormal : x.Normal) (yNormal : y.Normal) (ySec : 0 ≤ y.tvSec) :
    ((timevalAddUsLoop tv us).Normal ∧
      timevalToUs (timevalAddUsLoop tv us) = timevalToUs tv + us) ∧
    ((subtractTimeval x y).isSome = true ↔ timevalToUs y ≤ timevalToUs x) ∧
      ∀ d, subtractTimeval x y = some d →
        d.Normal ∧ timevalToUs d = timevalToUs x - timevalToUs y :=
  ⟨timevalAddUsLoop_exact adds, subtractTimeval_exact xNormal yNormal ySec⟩

theorem two_seconds_back :
    timevalToUs (timevalAddUsLoop ⟨5, 200000⟩ (-2300000)) = 2900000 ∧
      (subtractTimeval ⟨7, 100000⟩ ⟨5, 200000⟩).isSome = true := by
  have adds : AddsUp ⟨5, 200000⟩ (-2300000) :=
    ⟨by decide, by decide, by decide, by decide, by decide, by decide⟩
  have exact_ := @time_arithmetic_exact ⟨7, 100000⟩ ⟨5, 200000⟩ ⟨5, 200000⟩ (-2300000) adds
    (by decide) (by decide) (by decide)
  exact ⟨exact_.1.2, exact_.2.1.mpr (by decide)⟩

end Difference

end PcanDriver

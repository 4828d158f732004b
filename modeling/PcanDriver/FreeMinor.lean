import Mathlib.Data.List.Perm.Subperm
import Mathlib.Data.Nat.Find
import PcanDriver.Types
import PcanDriver.Lib.StepSystem

/-!
Minors of registered devices (`pcan_main.c`). A device is put into the list of the driver before
`pcan_find_free_minor` looks for a minor that no other one has; one that gets none is taken out of
the list again (`pcan_usb_core.c`).
-/
namespace PcanDriver
open StepSystem

section Source

/-- What the list of the driver holds of a device; `dev` stands for its address. A device that
    has got no minor is in nobody's way and is left out, also where it could not be unlinked. -/
structure RegisteredDev where
  dev : Nat
  nMinor : Nat
deriving Repr, DecidableEq

/-- The inner loop: whether a device other than `pdev` has the minor. -/
def minorUsed (devices : List RegisteredDev) (pdev : Option Nat) (minor : Int) : Bool :=
  devices.any fun d => some d.dev ≠ pdev ∧ (d.nMinor : Int) = minor

/-- The outer loop; `minor` is an `int`. -/
def findMinorLoop (used : Int → Bool) (fromMinor untilMinor : Int) : Nat → Int → Option Int
  | 0, _ => none
  | passes + 1, minor =>
    if used minor then
      let next := Int.bmod (minor + 1) (2 ^ 32)
      if untilMinor > fromMinor ∧ next > untilMinor then some (-enodev)
      else findMinorLoop used fromMinor untilMinor passes next
    else some minor

/-- Each device ends one pass at most, and the `int` may wrap once. -/
def pcanFindFreeMinor (devices : List RegisteredDev) (pdev : Option Nat)
    (fromMinor untilMinor : Int) : Option Int :=
  findMinorLoop (minorUsed devices pdev) fromMinor untilMinor (devices.length + 2)
    (if 0 ≤ fromMinor then fromMinor else 0)

/-- A new device is put at the end of the list, a removed one is unlinked unless the list is
    locked just then. -/
inductive RegistryCall where
  | pcanAddDevInList (dev : Nat) (fromMinor untilMinor : Int)
  | pcanRemoveDevFromList (dev : Nat) (locked : Bool)
deriving Repr, DecidableEq

/-- The result is the minor that an added device has got. -/
def registryStep (devices : List RegisteredDev) :
    RegistryCall → List RegisteredDev × Option Int
  | .pcanAddDevInList dev fromMinor untilMinor =>
    match pcanFindFreeMinor (devices ++ [⟨dev, 0⟩]) (some dev) fromMinor untilMinor with
    | some minor =>
      (if minor < 0 then devices else devices ++ [⟨dev, minor.toNat⟩], some minor)
    | none => (devices, none)
  | .pcanRemoveDevFromList dev locked =>
    (if locked then devices else devices.filter (·.dev ≠ dev), none)

end Source

section Statement
variable (devices : List RegisteredDev) (pdev : Option Nat)

structure LeastFree (start minor : Nat) : Prop where
  above : start ≤ minor
  free : minorUsed devices pdev minor = false
  least : ∀ k, start ≤ k → k < minor → minorUsed devices pdev k = true

/-- What a search between two bounds is to find; without a range there is no upper bound. -/
def FindsLeast (fromMinor untilMinor result : Int) : Prop :=
  ∃ m, LeastFree devices pdev fromMinor.toNat m ∧
    result = if fromMinor ≤ untilMinor ∧ untilMinor < m then -enodev else m

/-- A minor that is found at once is not below zero's range, and one that is found later is the
    search's own: there is more than one to choose from, and the `int` does not wrap. -/
def SearchSound (fromMinor untilMinor : Int) : Prop :=
  ∃ m, LeastFree devices pdev fromMinor.toNat m ∧
    (m = fromMinor.toNat → ¬(fromMinor ≤ untilMinor ∧ untilMinor < 0)) ∧
    (m ≠ fromMinor.toNat → fromMinor ≠ untilMinor ∧
      (m < 2 ^ 31 ∨ fromMinor < untilMinor ∧ untilMinor < 2 ^ 31 - 1))

def NewDev (devices : List RegisteredDev) : RegistryCall → Prop
  | .pcanAddDevInList dev _ _ => ∀ d ∈ devices, d.dev ≠ dev
  | .pcanRemoveDevFromList _ _ => True

end Statement

section Search
variable {devices : List RegisteredDev} {pdev : Option Nat} {fromMinor untilMinor : Int}

theorem minorUsed_iff (minor : Nat) : minorUsed devices pdev minor = true ↔
    ∃ d ∈ devices, some d.dev ≠ pdev ∧ d.nMinor = minor := by
  unfold minorUsed
  simp only [List.any_eq_true, decide_eq_true_eq, Int.natCast_inj]

theorem minorUsed_negative {minor : Int} (negative : minor < 0) :
    minorUsed devices pdev minor = false := by
  unfold minorUsed
  rw [List.any_eq_false]
  intro d _ used
  have := (of_decide_eq_true used).2
  omega

theorem minor_free_between (devices : List RegisteredDev) (pdev : Option Nat) (start : Nat) :
    ∃ m, start ≤ m ∧ m ≤ start + devices.length ∧ minorUsed devices pdev m = false := by
  by_contra none_free
  have all : List.range' start (devices.length + 1) ⊆ devices.map (·.nMinor) := by
    intro m member
    obtain ⟨above, below⟩ := List.mem_range'_1.mp member
    have used : minorUsed devices pdev m = true := by
      by_contra free
      exact none_free ⟨m, above, by omega, Bool.eq_false_iff.mpr free⟩
    obtain ⟨d, member, -, same⟩ := (minorUsed_iff m).mp used
    exact List.mem_map.mpr ⟨d, member, same⟩
  have fewer := (List.Nodup.subperm List.nodup_range' all).length_le
  rw [List.length_range', List.length_map] at fewer
  omega

theorem leastFree_exists (devices : List RegisteredDev) (pdev : Option Nat) (start : Nat) :
    ∃ m, LeastFree devices pdev start m ∧ m ≤ start + devices.length := by
  obtain ⟨m, above, near, free⟩ := minor_free_between devices pdev start
  have some_free : ∃ m, start ≤ m ∧ minorUsed devices pdev m = false := ⟨m, above, free⟩
  refine ⟨Nat.find some_free, ⟨(Nat.find_spec some_free).1, (Nat.find_spec some_free).2, ?_⟩,
    Nat.le_trans (Nat.find_min' some_free ⟨above, free⟩) near⟩
  intro k above below
  by_contra free
  exact Nat.find_min some_free below ⟨above, Bool.eq_false_iff.mpr free⟩

theorem LeastFree.unique {start m m' : Nat} (least : LeastFree devices pdev start m)
    (least' : LeastFree devices pdev start m') : m = m' := by
  rcases Nat.lt_trichotomy m m' with below | same | below
  · exact absurd ((least'.least m least.above below).symm.trans least.free) (by decide)
  · exact same
  · exact absurd ((least.least m' least'.above below).symm.trans least'.free) (by decide)

theorem int_exact {x : Int} (low : -2 ^ 31 ≤ x) (high : x < 2 ^ 31) : Int.bmod x (2 ^ 32) = x := by
  apply Int.bmod_eq_of_le_mul_two
  · push_cast
    omega
  · push_cast
    omega

theorem findMinorLoop_next {used : Int → Bool} {k : Nat} (taken : used k = true)
    (int : (k : Int) + 1 < 2 ^ 31) (inside : fromMinor < untilMinor → (k : Int) + 1 ≤ untilMinor)
    (passes : Nat) : findMinorLoop used fromMinor untilMinor (passes + 1) k =
      findMinorLoop used fromMinor untilMinor passes (k + 1 : Nat) := by
  rw [findMinorLoop, if_pos taken, int_exact (by omega) int]
  simp only
  rw [if_neg fun both => by have := inside both.1; omega]
  rfl

theorem findMinorLoop_runs {used : Int → Bool} {k n : Nat}
    (taken : ∀ j, k ≤ j → j < k + n → used j = true) (int : (k : Int) + n < 2 ^ 31)
    (inside : fromMinor < untilMinor → 0 < n → (k : Int) + n ≤ untilMinor) (passes : Nat) :
    findMinorLoop used fromMinor untilMinor (n + passes) k =
      findMinorLoop used fromMinor untilMinor passes (k + n : Nat) := by
  induction n generalizing k with
  | zero => rw [Nat.zero_add, Nat.add_zero]
  | succ n ih =>
    rw [Nat.add_right_comm, findMinorLoop_next (taken k (Nat.le_refl k) (by omega)) (by omega)
      (fun limited => by have := inside limited (by omega); omega)]
    rw [ih (fun j above below => taken j (by omega) (by omega)) (by omega)
      (fun limited _ => by have := inside limited (by omega); omega)]
    congr 2
    omega

theorem firstMinor_eq (fromMinor : Int) :
    (if 0 ≤ fromMinor then fromMinor else 0) = (fromMinor.toNat : Int) := by
  split <;> omega

section Outcomes
variable {m : Nat} (least : LeastFree devices pdev fromMinor.toNat m)
  (near : m ≤ fromMinor.toNat + devices.length)
include least near

theorem findFreeMinor_runs {last : Nat} (above : fromMinor.toNat ≤ last) (below : last ≤ m)
    (int : last < 2 ^ 31)
    (inside : fromMinor < untilMinor → fromMinor.toNat < last → (last : Int) ≤ untilMinor) :
    ∃ passes, pcanFindFreeMinor devices pdev fromMinor untilMinor =
      findMinorLoop (minorUsed devices pdev) fromMinor untilMinor (passes + 2) last := by
  have runs := @findMinorLoop_runs fromMinor untilMinor (minorUsed devices pdev) fromMinor.toNat
    (last - fromMinor.toNat) (fun j start before => least.least j start (by omega)) (by omega)
    (fun limited later => by have := inside limited (by omega); omega)
    (devices.length - (last - fromMinor.toNat) + 2)
  have enough : last - fromMinor.toNat + (devices.length - (last - fromMinor.toNat) + 2) =
      devices.length + 2 := by omega
  have there : fromMinor.toNat + (last - fromMinor.toNat) = last := by omega
  rw [enough, there] at runs
  refine ⟨devices.length - (last - fromMinor.toNat), ?_⟩
  unfold pcanFindFreeMinor
  rw [firstMinor_eq]
  exact runs

theorem findFreeMinor_found (int : m < 2 ^ 31)
    (inside : fromMinor < untilMinor → fromMinor.toNat < m → (m : Int) ≤ untilMinor) :
    pcanFindFreeMinor devices pdev fromMinor untilMinor = some (m : Int) := by
  obtain ⟨passes, result⟩ := findFreeMinor_runs least near least.above (Nat.le_refl m) int inside
  rw [result, findMinorLoop, least.free, if_neg Bool.false_ne_true]

theorem findFreeMinor_exhausted (later : fromMinor.toNat < m) (limited : fromMinor < untilMinor)
    (beyond : untilMinor < m) (int : untilMinor < 2 ^ 31 - 1) :
    pcanFindFreeMinor devices pdev fromMinor untilMinor = some (-enodev) := by
  obtain ⟨last, isLast⟩ : ∃ last, last = max fromMinor.toNat untilMinor.toNat := ⟨_, rfl⟩
  obtain ⟨passes, result⟩ := @findFreeMinor_runs devices pdev fromMinor untilMinor m least near
    last (by omega) (by omega) (by omega) (fun _ _ => by omega)
  have taken : minorUsed devices pdev last = true := least.least last (by omega) (by omega)
  rw [result, findMinorLoop, if_pos taken, int_exact (by omega) (by omega)]
  exact if_pos ⟨limited, by omega⟩

theorem findFreeMinor_wrapped (start : fromMinor < 2 ^ 31) (full : 2 ^ 31 ≤ m)
    (endless : fromMinor < untilMinor → untilMinor = 2 ^ 31 - 1) :
    pcanFindFreeMinor devices pdev fromMinor untilMinor = some (-2 ^ 31) := by
  obtain ⟨last, isLast⟩ : ∃ last : Nat, last = 2 ^ 31 - 1 := ⟨_, rfl⟩
  obtain ⟨passes, result⟩ := @findFreeMinor_runs devices pdev fromMinor untilMinor m least near
    last (by omega) (by omega) (by omega) (fun limited _ => by have := endless limited; omega)
  have taken : minorUsed devices pdev last = true := least.least last (by omega) (by omega)
  have wraps : Int.bmod ((last : Int) + 1) (2 ^ 32) = -2 ^ 31 := by
    rw [isLast]
    decide
  rw [result, findMinorLoop, if_pos taken, wraps]
  simp only
  rw [if_neg fun both => by have := endless both.1; omega, findMinorLoop,
    minorUsed_negative (by decide), if_neg Bool.false_ne_true]

end Outcomes

theorem findsLeast_iff (start : fromMinor < 2 ^ 31) (until_ : untilMinor < 2 ^ 31) :
    ∃ result, pcanFindFreeMinor devices pdev fromMinor untilMinor = some result ∧
      (FindsLeast devices pdev fromMinor untilMinor result ↔
        SearchSound devices pdev fromMinor untilMinor) := by
  obtain ⟨m, least, near⟩ := leastFree_exists devices pdev fromMinor.toNat
  have only : ∀ {Q : Nat → Prop},
      (∃ m', LeastFree devices pdev fromMinor.toNat m' ∧ Q m') ↔ Q m := fun {Q} =>
    ⟨fun ⟨m', least', holds⟩ => least.unique least' ▸ holds, fun holds => ⟨m, least, holds⟩⟩
  unfold FindsLeast SearchSound
  simp only [only]
  have above := least.above
  by_cases found : m < 2 ^ 31 ∧
      (fromMinor < untilMinor → fromMinor.toNat < m → (m : Int) ≤ untilMinor)
  · refine ⟨m, findFreeMinor_found least near found.1 found.2, ?_⟩
    split
    · unfold enodev
      omega
    · omega
  by_cases exhausted : fromMinor.toNat < m ∧ fromMinor < untilMinor ∧ untilMinor < m ∧
      untilMinor < 2 ^ 31 - 1
  · refine ⟨-enodev, findFreeMinor_exhausted least near exhausted.1 exhausted.2.1 exhausted.2.2.1
      exhausted.2.2.2, ?_⟩
    split
    · omega
    · unfold enodev
      omega
  · refine ⟨-2 ^ 31, findFreeMinor_wrapped least near start (by omega) (by omega), ?_⟩
    split
    · unfold enodev
      omega
    · omega

end Search

section Registry

theorem findMinorLoop_unused {used : Int → Bool} {fromMinor untilMinor minor result : Int}
    {passes : Nat}
    (returned : findMinorLoop used fromMinor untilMinor passes minor = some result)
    (positive : 0 ≤ result) : used result = false := by
  induction passes generalizing minor with
  | zero =>
    rw [findMinorLoop] at returned
    cases returned
  | succ passes ih =>
    rw [findMinorLoop] at returned
    split at returned
    next taken =>
      dsimp only at returned
      split at returned
      next beyond =>
        have out : -enodev = result := Option.some.inj returned
        unfold enodev at out
        omega
      next inside => exact ih returned
    next free => exact Option.some.inj returned ▸ Bool.eq_false_iff.mpr free

/-- No two devices of the list have the same minor, nor the same address. -/
def MinorsDiffer (devices : List RegisteredDev) : Prop :=
  devices.Pairwise fun d d' => d.dev ≠ d'.dev ∧ d.nMinor ≠ d'.nMinor

theorem registryStep_keeps (devices : List RegisteredDev) (call : RegistryCall)
    (differ : MinorsDiffer devices) (fresh : NewDev devices call) :
    MinorsDiffer (registryStep devices call).1 := by
  cases call with
  | pcanAddDevInList dev fromMinor untilMinor =>
    cases found : pcanFindFreeMinor (devices ++ [⟨dev, 0⟩]) (some dev) fromMinor untilMinor with
    | none =>
      simp only [registryStep, found]
      exact differ
    | some minor =>
      simp only [registryStep, found]
      split
      next rejected => exact differ
      next kept =>
        have unused := findMinorLoop_unused found (Int.not_lt.mp kept)
        have same : (minor.toNat : Int) = minor := Int.toNat_of_nonneg (Int.not_lt.mp kept)
        refine List.pairwise_append.mpr ⟨differ, List.pairwise_singleton _ _, ?_⟩
        intro d registered d' added
        rw [List.mem_singleton.mp added]
        refine ⟨fresh d registered, fun taken => ?_⟩
        have used : minorUsed (devices ++ [⟨dev, 0⟩]) (some dev) minor.toNat = true :=
          (minorUsed_iff _).mpr ⟨d, List.mem_append_left _ registered,
            fun none_ => fresh d registered (Option.some.inj none_), taken⟩
        rw [same, unused] at used
        cases used
  | pcanRemoveDevFromList dev locked =>
    cases locked with
    | false => exact differ.filter _
    | true => exact differ

/-- A search finds what it should just where it is sound; and whatever devices have been added and
    removed, no two registered ones share a minor. -/
theorem free_minor_iff (devices : List RegisteredDev) (pdev : Option Nat)
    (fromMinor untilMinor : Int) (start : fromMinor < 2 ^ 31) (until_ : untilMinor < 2 ^ 31)
    (calls : List RegistryCall) (fresh : Admitted NewDev registryStep [] calls) :
    (∃ result, pcanFindFreeMinor devices pdev fromMinor untilMinor = some result ∧
      (FindsLeast devices pdev fromMinor untilMinor result ↔
        SearchSound devices pdev fromMinor untilMinor)) ∧
    ∀ registered ∈ states registryStep [] calls, MinorsDiffer registered :=
  ⟨findsLeast_iff start until_, states_invariant registryStep_keeps List.Pairwise.nil fresh⟩

end Registry

section Samples

theorem second_usb_minor : (32 : Int) < 2 ^ 31 ∧ ∀ registered ∈ states registryStep []
    [.pcanAddDevInList 1 32 63, .pcanAddDevInList 2 32 63, .pcanRemoveDevFromList 1 false,
      .pcanAddDevInList 3 32 63], MinorsDiffer registered :=
  ⟨by decide, (free_minor_iff [⟨1, 32⟩] (some 2) 32 63 (by decide) (by decide)
    [.pcanAddDevInList 1 32 63, .pcanAddDevInList 2 32 63, .pcanRemoveDevFromList 1 false,
      .pcanAddDevInList 3 32 63]
    (by simp only [Admitted, NewDev]; decide)).2⟩

theorem one_minor_range : ¬∀ (devices : List RegisteredDev) (pdev : Option Nat)
    (fromMinor untilMinor : Int), fromMinor < 2 ^ 31 → untilMinor < 2 ^ 31 →
    ∃ result, pcanFindFreeMinor devices pdev fromMinor untilMinor = some result ∧
      FindsLeast devices pdev fromMinor untilMinor result := by
  intro every
  obtain ⟨result, returned, m, least, same⟩ :=
    every [⟨1, 32⟩] none 32 32 (by decide) (by decide)
  have computed : pcanFindFreeMinor [⟨1, 32⟩] none 32 32 = some 33 := by decide
  have value : result = 33 := Option.some.inj (returned.symm.trans computed)
  have later : m ≠ 32 := fun here => by
    have free := least.free
    rw [here] at free
    exact absurd free (by decide)
  have above : 32 ≤ m := least.above
  rw [if_pos ⟨Int.le_refl 32, by omega⟩, value] at same
  exact absurd same (by decide)

end Samples

end PcanDriver

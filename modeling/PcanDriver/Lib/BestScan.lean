import Mathlib.Order.Basic
import Mathlib.Data.Set.Insert
import Mathlib.Tactic.Common

/-!
A scan that keeps the best element so far by two costs, the first of them first, and
ends early at an element that costs nothing. An element whose second cost reaches
`top` cannot be placed. Beside the best element the scan remembers the last one it
placed on the way, which need not be the best one.
-/
namespace BestScan
variable {A : Type} [LinearOrder A] (error cost : A → Nat) (top : Nat)

structure Scan (A : Type) where
  best : Option A
  left : Option A

def Scan.start : Scan A := ⟨none, none⟩

def leftover (s : Scan A) (a : A) : Option A :=
  if cost a < top then some a else s.left

def take (s : Scan A) (a : A) : Scan A × Bool :=
  (⟨some a, leftover cost top s a⟩, decide (error a = 0 ∧ cost a = 0))

def step (s : Scan A) (a : A) : Scan A × Bool :=
  match s.best with
  | none => take error cost top s a
  | some b =>
    if error b < error a then (s, false)
    else if error a = error b ∧ cost b < cost a then
      ({ s with left := leftover cost top s a }, false)
    else take error cost top s a

def scan : List A → Scan A → Scan A
  | [], s => s
  | a :: rest, s =>
    if (step error cost top s a).2 then (step error cost top s a).1
    else scan rest (step error cost top s a).1

def Free (a : A) : Prop := error a = 0 ∧ cost a = 0

/-- What the scan, which visits the greater of two elements first, makes of them: a
tie goes to the later one, unless they cost nothing. -/
def Prefers (b c : A) : Prop :=
  error b < error c ∨ error b = error c ∧ (cost b < cost c ∨
    cost b = cost c ∧ (Free error cost b → c < b) ∧ (¬ Free error cost b → b < c))

def IsBest (S : Set A) (b : A) : Prop :=
  b ∈ S ∧ ∀ c ∈ S, c ≠ b → Prefers error cost b c

/-- No element visited before has a smaller error. -/
def Leads (S : Set A) (a : A) : Prop :=
  a ∈ S ∧ ∀ c ∈ S, a < c → error a ≤ error c

def IsLastPlaced (S : Set A) (a : A) : Prop :=
  Leads error S a ∧ cost a < top ∧ ∀ c ∈ S, c < a → cost c < top → ¬ Leads error S c

/-- The element that is placed last: the best one if it can be. -/
def Supplies (S : Set A) (a : A) : Prop :=
  (IsBest error cost S a ∧ cost a < top) ∨
    (∃ b, IsBest error cost S b ∧ top ≤ cost b) ∧ IsLastPlaced error cost top S a

variable {error cost top}

theorem IsBest.unique {S : Set A} {a b : A} (first : IsBest error cost S a)
    (second : IsBest error cost S b) : a = b := by
  by_contra differ
  have ab := first.2 b second.1 (Ne.symm differ)
  have ba := second.2 a first.1 differ
  have errors : error a = error b := by
    rcases ab with h | h <;> rcases ba with k | k <;> omega
  have costs : cost a = cost b := by
    rcases ab with h | ⟨-, h | h⟩ <;> rcases ba with k | ⟨-, k | k⟩ <;> omega
  have free : Free error cost a ↔ Free error cost b := by simp [Free, errors, costs]
  simp only [Prefers, errors, costs, lt_irrefl, false_or, true_and, free] at ab ba
  by_cases nothing : Free error cost b
  · exact lt_asymm (ab.1 nothing) (ba.1 nothing)
  · exact lt_asymm (ab.2 nothing) (ba.2 nothing)

theorem IsBest.error_le {S : Set A} {b c : A} (best : IsBest error cost S b) (member : c ∈ S) :
    error b ≤ error c := by
  by_cases same : c = b
  · rw [same]
  · rcases best.2 c member same with h | h <;> omega

theorem IsBest.cost_le {S : Set A} {b c : A} (best : IsBest error cost S b) (member : c ∈ S)
    (tie : error c = error b) : cost b ≤ cost c := by
  by_cases same : c = b
  · rw [same]
  · rcases best.2 c member same with h | ⟨-, h | h⟩ <;> omega

theorem IsLastPlaced.unique {S : Set A} {a b : A} (first : IsLastPlaced error cost top S a)
    (second : IsLastPlaced error cost top S b) : a = b := by
  rcases lt_trichotomy a b with h | h | h
  · exact absurd first.1 (second.2.2 a first.1.1 h first.2.1)
  · exact h
  · exact absurd second.1 (first.2.2 b second.1.1 h second.2.1)

theorem Supplies.unique {S : Set A} {a b : A} (first : Supplies error cost top S a)
    (second : Supplies error cost top S b) : a = b := by
  rcases first with ⟨best, placed⟩ | ⟨⟨c, best, high⟩, last⟩ <;>
    rcases second with ⟨best', placed'⟩ | ⟨⟨c', best', high'⟩, last'⟩
  · exact best.unique best'
  · have := best.unique best'; subst this; omega
  · have := best.unique best'; subst this; omega
  · exact last.unique last'

theorem Supplies.placed {S : Set A} {a : A} (supplies : Supplies error cost top S a) :
    a ∈ S ∧ cost a < top := by
  rcases supplies with ⟨best, placed⟩ | ⟨-, last⟩
  · exact ⟨best.1, placed⟩
  · exact ⟨last.1.1, last.2.1⟩

section Invariant
variable (error cost top)

/-- What holds after the elements of `seen`, none of which ended the scan. -/
structure Scanned (seen : Set A) (s : Scan A) : Prop where
  busy : ∀ c ∈ seen, ¬ Free error cost c
  empty : s.best = none → seen = ∅
  best : ∀ b, s.best = some b → IsBest error cost seen b
  left : ∀ a, s.left = some a ↔ IsLastPlaced error cost top seen a

end Invariant

theorem leads_insert_old {seen : Set A} {a c : A} (later : ∀ d ∈ seen, a < d) (old : c ∈ seen) :
    Leads error (insert a seen) c ↔ Leads error seen c := by
  constructor
  · exact fun h => ⟨old, fun d hd lt => h.2 d (Set.mem_insert_of_mem a hd) lt⟩
  · refine fun h => ⟨Set.mem_insert_of_mem a old, fun d hd lt => ?_⟩
    rcases Set.mem_insert_iff.mp hd with rfl | hd
    · exact absurd lt (lt_asymm (later c old))
    · exact h.2 d hd lt

theorem leads_insert_new {seen : Set A} {a : A} (later : ∀ d ∈ seen, a < d) :
    Leads error (insert a seen) a ↔ ∀ d ∈ seen, error a ≤ error d := by
  constructor
  · exact fun h d hd => h.2 d (Set.mem_insert_of_mem a hd) (later d hd)
  · refine fun h => ⟨Set.mem_insert a seen, fun d hd lt => ?_⟩
    rcases Set.mem_insert_iff.mp hd with rfl | hd
    · exact absurd lt (lt_irrefl d)
    · exact h d hd

theorem lastPlaced_insert_placed {seen : Set A} {a : A} (later : ∀ d ∈ seen, a < d)
    (leads : ∀ d ∈ seen, error a ≤ error d) (placed : cost a < top) (x : A) :
    IsLastPlaced error cost top (insert a seen) x ↔ x = a := by
  have leading := (leads_insert_new later).mpr leads
  constructor
  · intro last
    rcases Set.mem_insert_iff.mp last.1.1 with same | old
    · exact same
    · exact absurd leading (last.2.2 a (Set.mem_insert a seen) (later x old) placed)
  · rintro rfl
    refine ⟨leading, placed, fun c hc lt => ?_⟩
    rcases Set.mem_insert_iff.mp hc with rfl | hc
    · exact absurd lt (lt_irrefl c)
    · exact absurd lt (lt_asymm (later c hc))

/-- An element that does not lead, or cannot be placed, changes nothing. -/
theorem lastPlaced_insert_other {seen : Set A} {a : A} (later : ∀ d ∈ seen, a < d)
    (other : cost a < top → ¬ Leads error (insert a seen) a) (x : A) :
    IsLastPlaced error cost top (insert a seen) x ↔ IsLastPlaced error cost top seen x := by
  constructor
  · intro last
    have old : x ∈ seen := by
      rcases Set.mem_insert_iff.mp last.1.1 with rfl | old
      · exact absurd last.1 (other last.2.1)
      · exact old
    refine ⟨(leads_insert_old later old).mp last.1, last.2.1, fun c hc lt placed leads => ?_⟩
    exact last.2.2 c (Set.mem_insert_of_mem a hc) lt placed ((leads_insert_old later hc).mpr leads)
  · intro last
    refine ⟨(leads_insert_old later last.1.1).mpr last.1, last.2.1, fun c hc lt placed leads => ?_⟩
    rcases Set.mem_insert_iff.mp hc with rfl | hc
    · exact other placed leads
    · exact last.2.2 c hc lt placed ((leads_insert_old later hc).mp leads)

theorem leftover_iff {seen : Set A} {a : A} {s : Scan A} (later : ∀ d ∈ seen, a < d)
    (leads : ∀ d ∈ seen, error a ≤ error d)
    (left : ∀ x, s.left = some x ↔ IsLastPlaced error cost top seen x) (x : A) :
    leftover cost top s a = some x ↔ IsLastPlaced error cost top (insert a seen) x := by
  unfold leftover
  split
  · rename_i placed
    rw [lastPlaced_insert_placed later leads placed, Option.some.injEq, eq_comm]
  · rename_i high
    rw [left, lastPlaced_insert_other later (fun placed => absurd placed high)]

omit [LinearOrder A] in
theorem busy_insert {seen : Set A} {a : A} (busy : ∀ c ∈ seen, ¬ Free error cost c)
    (new : ¬ Free error cost a) : ∀ c ∈ insert a seen, ¬ Free error cost c := by
  intro c hc
  rcases Set.mem_insert_iff.mp hc with rfl | hc
  · exact new
  · exact busy c hc

theorem best_insert_keep {seen : Set A} {a b : A} (best : IsBest error cost seen b)
    (worse : error b < error a ∨ error a = error b ∧ cost b < cost a) :
    IsBest error cost (insert a seen) b := by
  refine ⟨Set.mem_insert_of_mem a best.1, fun c hc differ => ?_⟩
  rcases Set.mem_insert_iff.mp hc with rfl | hc
  · rcases worse with h | ⟨same, h⟩
    · exact Or.inl h
    · exact Or.inr ⟨same.symm, Or.inl h⟩
  · exact best.2 c hc differ

theorem best_insert_take {seen : Set A} {a b : A} (later : ∀ d ∈ seen, a < d)
    (best : IsBest error cost seen b) (busy : ¬ Free error cost a)
    (better : error a < error b ∨ error a = error b ∧ cost a ≤ cost b) :
    IsBest error cost (insert a seen) a := by
  refine ⟨Set.mem_insert a seen, fun c hc differ => ?_⟩
  have old : c ∈ seen := (Set.mem_insert_iff.mp hc).resolve_left differ
  have errors := best.error_le old
  have lt := later c old
  unfold Prefers
  rcases better with h | ⟨same, h⟩
  · exact Or.inl (by omega)
  · by_cases tie : error c = error b
    · have costs := best.cost_le old tie
      exact Or.inr ⟨by omega, (Nat.lt_or_ge (cost a) (cost c)).imp id
        (fun ge => ⟨by omega, fun free => absurd free busy, fun _ => lt⟩)⟩
    · exact Or.inl (by omega)

theorem best_singleton_take (a : A) : IsBest error cost (insert a ∅) a :=
  ⟨Set.mem_insert a ∅, fun c hc differ =>
    absurd ((Set.mem_insert_iff.mp hc).resolve_left differ) (Set.notMem_empty c)⟩

/-- A taken element that costs nothing ends the scan; any other keeps the invariant. -/
theorem scanned_take {seen : Set A} {s : Scan A} {a : A} (later : ∀ d ∈ seen, a < d)
    (scanned : Scanned error cost top seen s)
    (better : ∀ b, s.best = some b → error a < error b ∨ error a = error b ∧ cost a ≤ cost b)
    (busy : ¬ Free error cost a) : Scanned error cost top (insert a seen) (take error cost top s a).1 := by
  have leads : ∀ d ∈ seen, error a ≤ error d := by
    intro d hd
    cases found : s.best with
    | none => exact absurd (scanned.empty found ▸ hd) (Set.notMem_empty d)
    | some b =>
      have le := (scanned.best b found).error_le hd
      rcases better b found with h | h <;> omega
  refine ⟨busy_insert scanned.busy busy, fun h => absurd h (by simp [take]), ?_,
    leftover_iff later leads scanned.left⟩
  intro b same
  obtain rfl : a = b := by simpa [take] using same
  cases found : s.best with
  | none => rw [scanned.empty found]; exact best_singleton_take a
  | some b => exact best_insert_take later (scanned.best b found) busy (better b found)

omit [LinearOrder A] in
variable (error cost top) in
theorem step_cases (s : Scan A) (a : A) :
    ((step error cost top s a = (s, false)) ∧ ∃ b, s.best = some b ∧ error b < error a) ∨
    (step error cost top s a = ({ s with left := leftover cost top s a }, false) ∧
      ∃ b, s.best = some b ∧ error a = error b ∧ cost b < cost a) ∨
    (step error cost top s a = take error cost top s a ∧
      ∀ b, s.best = some b → error a < error b ∨ error a = error b ∧ cost a ≤ cost b) := by
  cases found : s.best with
  | none => exact Or.inr (Or.inr ⟨by simp [step, found], by simp⟩)
  | some b =>
    by_cases worse : error b < error a
    · exact Or.inl ⟨by simp [step, found, worse], b, rfl, worse⟩
    · by_cases tie : error a = error b ∧ cost b < cost a
      · exact Or.inr (Or.inl ⟨by simp [step, found, tie], b, rfl, tie⟩)
      · refine Or.inr (Or.inr ⟨by simp [step, found, worse, tie], ?_⟩)
        intro c same
        obtain rfl : b = c := by simpa using same
        omega

theorem scanned_step {seen : Set A} {s : Scan A} {a : A} (later : ∀ d ∈ seen, a < d)
    (scanned : Scanned error cost top seen s) (goesOn : (step error cost top s a).2 = false) :
    Scanned error cost top (insert a seen) (step error cost top s a).1 := by
  rcases step_cases error cost top s a with
    ⟨same, b, found, worse⟩ | ⟨same, b, found, tie, worse⟩ | ⟨same, better⟩
  · have best := scanned.best b found
    have busy : ¬ Free error cost a := fun free => by have := free.1; omega
    rw [same]
    refine ⟨busy_insert scanned.busy busy, fun h => absurd h (by simp [found]), ?_, ?_⟩
    · intro c hc
      obtain rfl : b = c := by simpa [found] using hc
      exact best_insert_keep best (Or.inl worse)
    · intro x
      rw [scanned.left x, lastPlaced_insert_other later]
      intro _ leads
      have := leads.2 b (Set.mem_insert_of_mem a best.1) (later b best.1)
      omega
  · have best := scanned.best b found
    have busy : ¬ Free error cost a := fun free => by have := free.2; omega
    have leads : ∀ d ∈ seen, error a ≤ error d := fun d hd => tie ▸ best.error_le hd
    rw [same]
    refine ⟨busy_insert scanned.busy busy, fun h => absurd h (by simp [found]), ?_,
      leftover_iff later leads scanned.left⟩
    intro c hc
    obtain rfl : b = c := by simpa [found] using hc
    exact best_insert_keep best (Or.inr ⟨tie, worse⟩)
  · rw [same] at goesOn ⊢
    refine scanned_take later scanned better ?_
    intro free
    simp [take, free.1, free.2] at goesOn

omit [LinearOrder A] in
theorem step_ends {s : Scan A} {a : A} (ends : (step error cost top s a).2 = true) :
    Free error cost a ∧ (step error cost top s a).1.best = some a := by
  rcases step_cases error cost top s a with
    ⟨same, -⟩ | ⟨same, -⟩ | ⟨same, -⟩ <;> rw [same] at ends ⊢
  · simp at ends
  · simp at ends
  · exact ⟨by simpa [take, Free] using ends, by simp [take]⟩

theorem best_of_free {S seen : Set A} {a : A} (member : a ∈ S) (free : Free error cost a)
    (busy : ∀ c ∈ seen, ¬ Free error cost c) (rest : ∀ c ∈ S, c ∈ seen ∨ c ≤ a) :
    IsBest error cost S a := by
  refine ⟨member, fun c hc differ => ?_⟩
  obtain ⟨noError, noCost⟩ := free
  by_cases freeToo : Free error cost c
  · have lt : c < a := lt_of_le_of_ne ((rest c hc).resolve_left (busy c · freeToo)) differ
    obtain ⟨h, k⟩ := freeToo
    exact Or.inr ⟨by omega, Or.inr ⟨by omega, fun _ => lt, fun no => absurd ⟨noError, noCost⟩ no⟩⟩
  · by_cases h : error c = 0
    · have : cost c ≠ 0 := fun k => freeToo ⟨h, k⟩
      exact Or.inr ⟨by omega, Or.inl (by omega)⟩
    · exact Or.inl (by omega)

/-- What the result of a whole scan says about the elements scanned. -/
structure Finds (error cost : A → Nat) (top : Nat) (S : Set A) (s : Scan A) : Prop where
  empty : s.best = none → S = ∅
  best : ∀ b, s.best = some b → IsBest error cost S b
  left : ∀ b, s.best = some b → top ≤ cost b → ∀ a, s.left = some a ↔ IsLastPlaced error cost top S a

theorem scan_finds (positive : 0 < top) (as : List A) {seen : Set A} {s : Scan A}
    (sorted : as.Pairwise (· > ·)) (later : ∀ a ∈ as, ∀ d ∈ seen, a < d)
    (scanned : Scanned error cost top seen s) :
    Finds error cost top (seen ∪ {a | a ∈ as}) (scan error cost top as s) := by
  induction as generalizing seen s with
  | nil =>
    have all : seen ∪ {a | a ∈ ([] : List A)} = seen := by ext; simp
    rw [all]
    exact ⟨scanned.empty, scanned.best, fun _ _ _ => scanned.left⟩
  | cons a rest ih =>
    obtain ⟨below, sorted⟩ := List.pairwise_cons.mp sorted
    have laterHead := later a (by simp)
    unfold scan
    by_cases ends : (step error cost top s a).2 = true
    · obtain ⟨free, found⟩ := step_ends ends
      rw [if_pos ends]
      have best : IsBest error cost (seen ∪ {x | x ∈ a :: rest}) a := by
        refine best_of_free (by simp) free scanned.busy fun c hc => ?_
        rcases hc with old | new
        · exact Or.inl old
        · rcases List.mem_cons.mp new with rfl | new
          · exact Or.inr le_rfl
          · exact Or.inr (le_of_lt (below c new))
      refine ⟨fun h => absurd (found.symm.trans h) (by simp), fun b hb => ?_, fun b hb high => ?_⟩ <;>
        obtain rfl : a = b := Option.some.inj (found.symm.trans hb)
      · exact best
      · have := free.2; omega
    · rw [if_neg ends]
      have all : seen ∪ {x | x ∈ a :: rest} = insert a seen ∪ {x | x ∈ rest} := by
        ext x; simp [or_left_comm, or_assoc]
      rw [all]
      refine ih sorted (fun x hx d hd => ?_) (scanned_step laterHead scanned (by simpa using ends))
      rcases Set.mem_insert_iff.mp hd with rfl | hd
      · exact below x hx
      · exact later x (List.mem_cons_of_mem a hx) d hd

variable (error cost top) in
theorem scanned_start : Scanned error cost top ∅ (Scan.start : Scan A) where
  busy := fun c hc => absurd hc (Set.notMem_empty c)
  empty := fun _ => rfl
  best := fun b hb => by simp [Scan.start] at hb
  left := fun a => ⟨fun h => by simp [Scan.start] at h,
    fun last => absurd last.1.1 (Set.notMem_empty a)⟩

theorem scan_start_finds (positive : 0 < top) {as : List A} (sorted : as.Pairwise (· > ·)) :
    Finds error cost top {a | a ∈ as} (scan error cost top as Scan.start) := by
  have finds := scan_finds positive as sorted (fun _ _ d hd => absurd hd (Set.notMem_empty d))
    (scanned_start error cost top)
  rwa [Set.empty_union] at finds

end BestScan

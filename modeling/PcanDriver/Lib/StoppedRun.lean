import PcanDriver.Lib.StepSystem

/-!
Runs that end with the first output that stops them. Two such runs over the same
inputs are compared with the runs that are not stopped: what an observer sees is the
same exactly if the inputs that only one of them reaches show nothing.
-/
namespace StepSystem
variable {S I O E : Type}

/-- The number of inputs taken, the one that stops the run included. -/
def reached (step : S → I → S × O) (stop : O → Bool) : S → List I → Nat
  | _, [] => 0
  | s, i :: rest => if stop (step s i).2 then 1 else reached step stop (step s i).1 rest + 1

/-- What the steps of a run show, from the states before and after each of them. -/
def observed (shows : S → S → List E) (ts : List (Transition S I O)) : List E :=
  ts.flatMap fun t => shows t.before t.after

/-- Input number `k` is reached from one of two states only. -/
def ReachedOnce (step : S → I → S × O) (stop : O → Bool) (s t : S) (is : List I) (k : Nat) : Prop :=
  min (reached step stop s is) (reached step stop t is) ≤ k ∧
    k < max (reached step stop s is) (reached step stop t is)

section Prefixes

theorem transitions_take (step : S → I → S × O) (s : S) (is : List I) (count : Nat) :
    transitions step s (is.take count) = (transitions step s is).take count := by
  induction is generalizing s count with
  | nil => simp [transitions]
  | cons i rest ih =>
    cases count with
    | zero => rfl
    | succ count => simp only [List.take_succ_cons, transitions, ih]

theorem flatten_eq_nil {lists : List (List E)} :
    lists.flatten = [] ↔ ∀ k (inside : k < lists.length), lists[k] = [] := by
  rw [List.flatten_eq_nil_iff]
  constructor
  · intro all k inside
    exact all _ (List.getElem_mem inside)
  · intro all list mem
    obtain ⟨k, inside, same⟩ := List.mem_iff_getElem.mp mem
    exact same ▸ all k inside

theorem flatten_take_of_le {lists : List (List E)} {a b : Nat} (le : a ≤ b) :
    (lists.take a).flatten = (lists.take b).flatten ↔
      ∀ k (inside : k < lists.length), a ≤ k → k < b → lists[k] = [] := by
  have split : lists.take b = lists.take a ++ (lists.drop a).take (b - a) := by
    rw [← List.take_add, Nat.add_sub_cancel' le]
  rw [split, List.flatten_append, List.self_eq_append_right, flatten_eq_nil]
  constructor
  · intro all k inside above below
    have here : k - a < ((lists.drop a).take (b - a)).length := by
      simp only [List.length_take, List.length_drop]
      omega
    have empty := all (k - a) here
    simpa only [List.getElem_take, List.getElem_drop, Nat.add_sub_cancel' above] using empty
  · intro all k inside
    simp only [List.length_take, List.length_drop] at inside
    simp only [List.getElem_take, List.getElem_drop]
    exact all (a + k) (by omega) (by omega) (by omega)

theorem flatten_take_iff (lists : List (List E)) (a b : Nat) :
    (lists.take a).flatten = (lists.take b).flatten ↔
      ∀ k (inside : k < lists.length), min a b ≤ k → k < max a b → lists[k] = [] := by
  rcases Nat.le_total a b with le | le
  · rw [flatten_take_of_le le, Nat.min_eq_left le, Nat.max_eq_right le]
  · rw [eq_comm, flatten_take_of_le le, Nat.min_eq_right le, Nat.max_eq_left le]

/-- Inputs that do not stop the run, as long as `inv` holds, are all taken. -/
theorem all_of_taken {step : S → I → S × O} {stop : O → Bool} {inv : S → Prop} {good : I → Prop}
    (keep : ∀ s i, inv s → good i → inv (step s i).1 ∧ stop (step s i).2 = false) {s : S}
    (start : inv s) {is : List I} (taken : ∀ i ∈ is.take (reached step stop s is), good i) :
    ∀ i ∈ is, good i := by
  induction is generalizing s with
  | nil => exact taken
  | cons i rest ih =>
    have first : good i := by
      apply taken
      unfold reached
      split <;> exact List.mem_cons_self
    obtain ⟨holds, goes⟩ := keep s i start first
    rw [reached, goes, if_neg Bool.false_ne_true, List.take_succ_cons] at taken
    intro j member
    rcases List.mem_cons.mp member with rfl | later
    · exact first
    · exact ih holds (fun k inside => taken k (List.mem_cons_of_mem _ inside)) j later

end Prefixes

section Compare
variable {step : S → I → S × O} {stop : O → Bool} {related : S → S → Prop}
  {shows : S → S → List E}

theorem related_shows (keep : ∀ s t i, related s t → related (step s i).1 (step t i).1)
    (same : ∀ s t s' t', related s t → related s' t' → shows s s' = shows t t')
    {s t : S} (start : related s t) (is : List I) :
    (transitions step s is).map (fun x => shows x.before x.after) =
      (transitions step t is).map (fun x => shows x.before x.after) := by
  induction is generalizing s t with
  | nil => rfl
  | cons i rest ih =>
    have next := keep s t i start
    simp only [transitions, List.map_cons, ih next, same s t _ _ start next]

theorem stopped_runs_show_same_iff
    (keep : ∀ s t i, related s t → related (step s i).1 (step t i).1)
    (same : ∀ s t s' t', related s t → related s' t' → shows s s' = shows t t')
    {s t : S} (start : related s t) (is : List I) :
    observed shows (transitions step s (is.take (reached step stop s is))) =
        observed shows (transitions step t (is.take (reached step stop t is))) ↔
      ∀ k (inside : k < (transitions step s is).length), ReachedOnce step stop s t is k →
        shows (transitions step s is)[k].before (transitions step s is)[k].after = [] := by
  have equal := related_shows keep same start is
  unfold observed
  simp only [transitions_take, List.flatMap_def, List.map_take, ← equal]
  rw [flatten_take_iff]
  simp only [List.length_map, List.getElem_map, ReachedOnce, and_imp]

end Compare

end StepSystem

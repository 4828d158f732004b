import Mathlib.Data.List.Nodup

/-!
Folds whose steps write one slot of a state at most. A slot that only one entry names holds
what that entry writes, in whatever order the entries come.
-/
namespace KeyedWrites
variable {S E K V : Type} {step : S → E → S} {key : E → Option K} {get : K → S → V}
  {put : E → V → V}

/-- An entry puts its part into the slot that it names and leaves the others alone. -/
structure Writes (step : S → E → S) (key : E → Option K) (get : K → S → V) (put : E → V → V) :
    Prop where
  slot : ∀ s e k, key e = some k → get k (step s e) = put e (get k s)
  frame : ∀ s e k, key e ≠ some k → get k (step s e) = get k s

variable {entries : List E} {e : E} {k : K} {s : S}

theorem Writes.untouched (writes : Writes step key get put) (other : k ∉ entries.filterMap key) :
    get k (entries.foldl step s) = get k s := by
  induction entries generalizing s with
  | nil => rfl
  | cons first rest ih =>
    have here : key first ≠ some k := fun named =>
      other (List.mem_filterMap.mpr ⟨first, List.mem_cons_self, named⟩)
    have later : k ∉ rest.filterMap key := fun member =>
      let ⟨e, present, named⟩ := List.mem_filterMap.mp member
      other (List.mem_filterMap.mpr ⟨e, List.mem_cons_of_mem first present, named⟩)
    rw [List.foldl_cons, ih later, writes.frame s first k here]

theorem Writes.written [DecidableEq K] (writes : Writes step key get put)
    (once : (entries.filterMap key).count k ≤ 1) (member : e ∈ entries) (named : key e = some k) :
    get k (entries.foldl step s) = put e (get k s) := by
  induction entries generalizing s with
  | nil => cases member
  | cons first rest ih =>
    rw [List.foldl_cons]
    by_cases here : key first = some k
    · rw [List.filterMap_cons_some here, List.count_cons_self] at once
      have others : k ∉ rest.filterMap key := List.count_eq_zero.mp (by omega)
      rcases List.mem_cons.mp member with rfl | later
      · rw [writes.untouched others, writes.slot s e k named]
      · exact absurd (List.mem_filterMap.mpr ⟨e, later, named⟩) others
    · have later : e ∈ rest := by
        rcases List.mem_cons.mp member with rfl | later
        · exact absurd named here
        · exact later
      have fewer : (rest.filterMap key).count k ≤ 1 :=
        Nat.le_trans (((List.sublist_cons_self first rest).filterMap key).count_le k) once
      rw [ih fewer later, writes.frame s first k here]

end KeyedWrites

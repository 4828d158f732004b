import Mathlib.Data.List.Basic
import Mathlib.Tactic.Common

/-!
Folds that keep the element of least cost, the first one where several cost the same. What comes
first is said by a relation that holds along the list.
-/
namespace FirstLeast
variable {A Q : Type} {cost : A → Nat} {before : A → A → Prop}

section Statement
variable (cost before)

def keep (best a : A) : A := if cost a < cost best then a else best

/-- What the fold makes of two elements. -/
def Ahead (a b : A) : Prop := cost a < cost b ∨ cost a = cost b ∧ before a b

def Leads (S : A → Prop) (a : A) : Prop := S a ∧ ∀ b, S b → b = a ∨ Ahead cost before a b

end Statement

theorem foldl_keep {as : List A} (ordered : as.Pairwise before) (top : A) :
    (as.foldl (keep cost) top = top ∧ ∀ a ∈ as, cost top ≤ cost a) ∨
      cost (as.foldl (keep cost) top) < cost top ∧
        Leads cost before (· ∈ as) (as.foldl (keep cost) top) := by
  induction as generalizing top with
  | nil => exact .inl ⟨rfl, by simp⟩
  | cons a rest ih =>
    obtain ⟨first, ordered⟩ := List.pairwise_cons.mp ordered
    rw [List.foldl_cons]
    by_cases less : cost a < cost top
    · rw [keep, if_pos less]
      rcases ih ordered a with ⟨same, least⟩ | ⟨better, member, ahead⟩
      · rw [same]
        refine .inr ⟨less, List.mem_cons_self, ?_⟩
        intro b hb
        rcases List.mem_cons.mp hb with rfl | hb
        · exact .inl rfl
        · rcases Nat.lt_or_eq_of_le (least b hb) with lt | eq
          · exact .inr (.inl lt)
          · exact .inr (.inr ⟨eq, first b hb⟩)
      · refine .inr ⟨Nat.lt_trans better less, List.mem_cons_of_mem a member, ?_⟩
        intro b hb
        rcases List.mem_cons.mp hb with rfl | hb
        · exact .inr (.inl better)
        · exact ahead b hb
    · rw [keep, if_neg less]
      rcases ih ordered top with ⟨same, least⟩ | ⟨better, member, ahead⟩
      · refine .inl ⟨same, ?_⟩
        intro b hb
        rcases List.mem_cons.mp hb with rfl | hb
        · exact Nat.le_of_not_lt less
        · exact least b hb
      · refine .inr ⟨better, List.mem_cons_of_mem a member, ?_⟩
        intro b hb
        rcases List.mem_cons.mp hb with rfl | hb
        · exact .inr (.inl (Nat.lt_of_lt_of_le better (Nat.le_of_not_lt less)))
        · exact ahead b hb

section Groups
variable {qs : List Q} {group : Q → Option (List A)}

theorem foldlM_groups {elements : Q → List A} (all : ∀ q ∈ qs, group q = some (elements q))
    (top : A) : (qs.foldlM (fun best q => (group q).map (List.foldl (keep cost) best)) top) =
      some ((qs.flatMap elements).foldl (keep cost) top) := by
  induction qs generalizing top with
  | nil => rfl
  | cons q rest ih =>
    rw [List.foldlM_cons, all q List.mem_cons_self, List.flatMap_cons, List.foldl_append]
    exact ih (fun q hq => all q (List.mem_cons_of_mem _ hq)) _

theorem foldlM_nothing (nothing : ∀ q ∈ qs, group q = none ∨ group q = some []) (top : A) :
    qs.foldlM (fun best q => (group q).map (List.foldl (keep cost) best)) top = none ∨
      qs.foldlM (fun best q => (group q).map (List.foldl (keep cost) best)) top = some top := by
  induction qs generalizing top with
  | nil => exact .inr rfl
  | cons q rest ih =>
    rw [List.foldlM_cons]
    rcases nothing q List.mem_cons_self with missing | empty
    · rw [missing]
      exact .inl rfl
    · rw [empty]
      exact ih (fun q hq => nothing q (List.mem_cons_of_mem _ hq)) top

end Groups

end FirstLeast

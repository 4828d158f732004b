import Mathlib.Data.List.Basic
import Mathlib.Data.List.Nodup
import Mathlib.Tactic.Common

/-!
A list of records with one record for each key at most. Looking a key up, changing and
removing its record act as on a partial map, and change what the records hold together by
that one record.
-/
namespace KeyedList
variable {K V W : Type} [DecidableEq K] (key : V → K)

def find (k : K) (items : List V) : Option V := items.find? fun item => key item = k

def erase (k : K) (items : List V) : List V := items.eraseP fun item => key item = k

def modify (k : K) (change : V → V) : List V → List V
  | [] => []
  | item :: rest =>
    if key item = k then change item :: rest else item :: modify k change rest

def Unique (items : List V) : Prop := (items.map key).Nodup

variable {key} {k k' : K} {items : List V} {item : V}

theorem find_cons (k : K) (item : V) (items : List V) :
    find key k (item :: items) = if key item = k then some item else find key k items := by
  unfold find
  rw [List.find?_cons]
  by_cases same : key item = k
  · simp [same]
  · simp [same]

theorem key_of_find (found : find key k items = some item) : key item = k := by
  have held := List.find?_some found
  exact of_decide_eq_true held

theorem mem_of_find (found : find key k items = some item) : item ∈ items :=
  List.mem_of_find?_eq_some found

theorem mem_of_mem_erase (member : item ∈ erase key k items) : item ∈ items :=
  List.mem_of_mem_eraseP member

theorem mem_modify {change : V → V} (member : item ∈ modify key k change items) :
    item ∈ items ∨ ∃ old, find key k items = some old ∧ item = change old := by
  induction items with
  | nil => exact .inl member
  | cons first rest ih =>
    unfold modify at member
    by_cases here : key first = k
    · rw [if_pos here] at member
      rcases List.mem_cons.mp member with same | later
      · exact .inr ⟨first, (find_cons k first rest).trans (if_pos here), same⟩
      · exact .inl (List.mem_cons_of_mem first later)
    · rw [if_neg here] at member
      rcases List.mem_cons.mp member with same | later
      · exact .inl (same ▸ List.mem_cons_self)
      · rcases ih later with before | ⟨old, found, same⟩
        · exact .inl (List.mem_cons_of_mem first before)
        · exact .inr ⟨old, (find_cons k first rest).trans ((if_neg here).trans found), same⟩

theorem find_none_iff : find key k items = none ↔ k ∉ items.map key := by
  unfold find
  rw [List.find?_eq_none]
  simp

theorem Unique.find_of_mem (unique : Unique key items) (member : item ∈ items) :
    find key (key item) items = some item := by
  induction items with
  | nil => cases member
  | cons first rest ih =>
    have apart := List.nodup_cons.mp unique
    rw [find_cons]
    rcases List.mem_cons.mp member with rfl | later
    · exact if_pos rfl
    · have other : key first ≠ key item := fun same =>
        apart.1 (same ▸ List.mem_map_of_mem later)
      rw [if_neg other]
      exact ih apart.2 later

theorem Unique.cons (unique : Unique key items) (fresh : find key (key item) items = none) :
    Unique key (item :: items) := by
  unfold Unique
  rw [List.map_cons, List.nodup_cons]
  exact ⟨find_none_iff.mp fresh, unique⟩

theorem Unique.erase (unique : Unique key items) (k : K) : Unique key (erase key k items) :=
  List.Nodup.sublist ((List.eraseP_sublist).map key) unique

theorem erase_absent (absent : find key k items = none) : erase key k items = items := by
  refine List.eraseP_of_forall_not fun item member => ?_
  have missing := find_none_iff.mp absent
  simp only [decide_eq_true_eq]
  exact fun same => missing (same ▸ List.mem_map_of_mem member)

theorem map_modify {change : V → V} (keeps : ∀ item, key item = k → key (change item) = k)
    (items : List V) : (modify key k change items).map key = items.map key := by
  induction items with
  | nil => rfl
  | cons item rest ih =>
    unfold modify
    split
    next here => rw [List.map_cons, List.map_cons, keeps item here, here]
    next => rw [List.map_cons, List.map_cons, ih]

theorem Unique.modify {change : V → V} (unique : Unique key items)
    (keeps : ∀ item, key item = k → key (change item) = k) :
    Unique key (modify key k change items) := by
  unfold Unique
  rw [map_modify keeps]
  exact unique

theorem find_modify {change : V → V} (keeps : ∀ item, key item = k → key (change item) = k)
    (k' : K) (items : List V) : find key k' (modify key k change items) =
      if k' = k then (find key k items).map change else find key k' items := by
  induction items with
  | nil => simp [modify, find]
  | cons item rest ih =>
    unfold modify
    by_cases here : key item = k
    · rw [if_pos here, find_cons, find_cons, find_cons, keeps item here, if_pos here]
      by_cases same : k' = k
      · rw [if_pos same, if_pos same.symm]
        rfl
      · have other : key item ≠ k' := fun equal => same (equal.symm.trans here)
        rw [if_neg same, if_neg (Ne.symm same), if_neg other]
    · rw [if_neg here, find_cons, find_cons, find_cons, if_neg here, ih]
      by_cases same : k' = k
      · rw [if_pos same, if_neg (same ▸ here), if_pos same]
      · rw [if_neg same, if_neg same]

theorem find_erase (unique : Unique key items) (k k' : K) :
    find key k' (erase key k items) = if k' = k then none else find key k' items := by
  induction items with
  | nil => simp [erase, find]
  | cons item rest ih =>
    have apart := List.nodup_cons.mp unique
    unfold erase
    by_cases here : key item = k
    · rw [List.eraseP_cons_of_pos (by simpa using here), find_cons]
      by_cases same : k' = k
      · rw [if_pos same, same, ← here]
        exact find_none_iff.mpr apart.1
      · rw [if_neg same, if_neg fun equal => same (equal.symm.trans here)]
    · rw [List.eraseP_cons_of_neg (by simpa using here), find_cons, find_cons]
      have rest_eq := ih apart.2
      unfold erase at rest_eq
      rw [rest_eq]
      by_cases same : k' = k
      · rw [if_pos same, if_pos same, if_neg (same ▸ here)]
      · rw [if_neg same, if_neg same]

theorem perm_erase (collect : V → List W) (found : find key k items = some item) :
    (items.flatMap collect).Perm (collect item ++ (erase key k items).flatMap collect) := by
  induction items with
  | nil => cases found
  | cons first rest ih =>
    rw [find_cons] at found
    unfold erase
    by_cases here : key first = k
    · rw [if_pos here] at found
      obtain rfl := Option.some.inj found
      rw [List.eraseP_cons_of_pos (by simpa using here), List.flatMap_cons]
    · rw [if_neg here] at found
      rw [List.eraseP_cons_of_neg (by simpa using here), List.flatMap_cons, List.flatMap_cons]
      refine (List.Perm.append_left _ (ih found)).trans ?_
      rw [← List.append_assoc, ← List.append_assoc]
      exact List.Perm.append_right _ List.perm_append_comm

theorem perm_modify (collect : V → List W) (change : V → V)
    (found : find key k items = some item) :
    ((modify key k change items).flatMap collect).Perm
      (collect (change item) ++ (erase key k items).flatMap collect) := by
  induction items with
  | nil => cases found
  | cons first rest ih =>
    rw [find_cons] at found
    unfold erase modify
    by_cases here : key first = k
    · rw [if_pos here] at found
      obtain rfl := Option.some.inj found
      rw [List.eraseP_cons_of_pos (by simpa using here), if_pos here, List.flatMap_cons]
    · rw [if_neg here] at found
      rw [List.eraseP_cons_of_neg (by simpa using here), if_neg here, List.flatMap_cons,
        List.flatMap_cons]
      refine (List.Perm.append_left _ (ih found)).trans ?_
      rw [← List.append_assoc, ← List.append_assoc]
      exact List.Perm.append_right _ List.perm_append_comm

end KeyedList

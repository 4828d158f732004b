import Mathlib.Tactic.Common
import Mathlib.Data.List.Perm.Basic

/-!
Accounting for a queue that may lose its newest element or be flushed. Whatever
the order of events, every accepted element has exactly one fate, and the
elements delivered come out in the order they were accepted in.
-/
namespace LossyQueue
variable {C : Type}

inductive Event (C : Type) where
  | idle
  | accept (c : C)
  | deliver (c : C)
  | lose (c : C)
  | flush (cs : List C)
deriving Repr, DecidableEq

inductive Step : List C → Event C → List C → Prop
  | idle (q : List C) : Step q .idle q
  | accept (q : List C) (c : C) : Step q (.accept c) (q ++ [c])
  | deliver (q : List C) (c : C) : Step (c :: q) (.deliver c) q
  | lose (q : List C) (c : C) : Step (q ++ [c]) (.lose c) q
  | flush (q : List C) : Step q (.flush q) []

inductive Chain : List C → List (Event C) → List C → Prop
  | nil (q : List C) : Chain q [] q
  | cons {a b c : List C} {e : Event C} {es : List (Event C)} (first : Step a e b)
      (rest : Chain b es c) : Chain a (e :: es) c

def accepted : List (Event C) → List C
  | [] => []
  | .accept c :: es => c :: accepted es
  | _ :: es => accepted es

def delivered : List (Event C) → List C
  | [] => []
  | .deliver c :: es => c :: delivered es
  | _ :: es => delivered es

def lost : List (Event C) → List C
  | [] => []
  | .lose c :: es => c :: lost es
  | _ :: es => lost es

def flushed : List (Event C) → List C
  | [] => []
  | .flush cs :: es => cs ++ flushed es
  | _ :: es => flushed es

inductive Fate where
  | delivered
  | queued
  | lost
  | flushed
deriving Repr, DecidableEq

def select (f : Fate) (fates : List (C × Fate)) : List C :=
  (fates.filter (·.2 = f)).map (·.1)

theorem select_append (f : Fate) (xs ys : List (C × Fate)) :
    select f (xs ++ ys) = select f xs ++ select f ys := by simp [select]

theorem select_all (f g : Fate) (q : List C) :
    select f (q.map fun c => (c, g)) = if g = f then q else [] := by
  induction q with
  | nil => simp [select]
  | cons c rest ih =>
    by_cases same : g = f
    · simp only [same, if_true] at ih ⊢
      simp only [List.map_cons, select, List.filter_cons, decide_true, if_true] at ih ⊢
      rw [ih]
    · simp only [same, if_false] at ih ⊢
      simp [select, same]

theorem select_sublist (f : Fate) (fates : List (C × Fate)) :
    (select f fates).Sublist (fates.map (·.1)) :=
  List.Sublist.map _ List.filter_sublist

/-- Every element that was in the queue or came in has one of the four fates. -/
structure Account (start : List C) (events : List (Event C)) (finish : List C)
    (fates : List (C × Fate)) : Prop where
  elements : fates.map (·.1) = start ++ accepted events
  delivered : select .delivered fates = delivered events
  queued : select .queued fates = finish
  lost : (select .lost fates).Perm (lost events)
  flushed : select .flushed fates = flushed events

theorem chain_account {start finish : List C} {events : List (Event C)}
    (chain : Chain start events finish) : ∃ fates, Account start events finish fates := by
  induction chain with
  | nil q =>
    refine ⟨q.map fun c => (c, .queued), ?_⟩
    constructor <;> simp [select_all, accepted, delivered, lost, flushed, Function.comp_def]
  | @cons now _ _ _ _ first rest ih =>
    obtain ⟨fates, account⟩ := ih
    have elements := account.elements
    cases first with
    | idle q => exact ⟨fates, ⟨elements, account.delivered, account.queued, account.lost,
        account.flushed⟩⟩
    | accept q c =>
      refine ⟨fates, ⟨?_, account.delivered, account.queued, account.lost, account.flushed⟩⟩
      simpa [accepted] using elements
    | deliver q c =>
      refine ⟨(c, .delivered) :: fates, ⟨?_, ?_, account.queued, account.lost, account.flushed⟩⟩
      · simp [accepted, elements]
      · simpa [select, delivered] using account.delivered
    | lose q c =>
      -- the lost element stood behind everything that stays in the queue
      obtain ⟨kept, later, split, kept_elements, later_elements⟩ := List.map_eq_append_iff.mp elements
      refine ⟨kept ++ (c, .lost) :: later, ⟨?_, ?_, ?_, ?_, ?_⟩⟩
      · simp [accepted, kept_elements, later_elements]
      · refine Eq.trans ?_ account.delivered
        rw [split]
        simp [select]
      · refine Eq.trans ?_ account.queued
        rw [split]
        simp [select]
      · have moved : (select .lost (kept ++ (c, .lost) :: later)).Perm
            (c :: select .lost fates) := by
          rw [split]
          simp only [select, List.filter_append, List.map_append, List.filter_cons, decide_true,
            if_true, List.map_cons]
          exact List.perm_middle
        exact moved.trans (account.lost.cons c)
      · refine Eq.trans ?_ account.flushed
        rw [split]
        simp [select]
    | flush q =>
      rw [List.nil_append] at elements
      refine ⟨now.map (fun c => (c, .flushed)) ++ fates, ⟨?_, ?_, ?_, ?_, ?_⟩⟩
      · simp [accepted, elements, Function.comp_def]
      · rw [select_append, select_all]
        exact account.delivered
      · rw [select_append, select_all]
        exact account.queued
      · rw [select_append, select_all]
        exact account.lost
      · rw [select_append, select_all, account.flushed]
        rfl

theorem delivered_sublist {events : List (Event C)} {finish : List C} {fates : List (C × Fate)}
    (account : Account [] events finish fates) : (delivered events).Sublist (accepted events) := by
  have sub := select_sublist .delivered fates
  rwa [account.delivered, account.elements, List.nil_append] at sub

end LossyQueue

import Mathlib.Tactic.Common

/-!
Runs of deterministic step systems. A step consumes one input and emits one
output; nondeterminism of an environment is carried by the inputs. Invariants
and simulations are proved for one step here and lifted to whole runs once.
-/
namespace StepSystem
variable {S T I O : Type}

def run (step : S → I → S × O) : S → List I → S × List O
  | s, [] => (s, [])
  | s, i :: rest => ((run step (step s i).1 rest).1, (step s i).2 :: (run step (step s i).1 rest).2)

/-- The state after each prefix of a run, starting with the initial one. -/
def states (step : S → I → S × O) : S → List I → List S
  | s, [] => [s]
  | s, i :: rest => s :: states step (step s i).1 rest

structure Transition (S I O : Type) where
  before : S
  input : I
  output : O
  after : S

def transitions (step : S → I → S × O) : S → List I → List (Transition S I O)
  | _, [] => []
  | s, i :: rest => ⟨s, i, (step s i).2, (step s i).1⟩ :: transitions step (step s i).1 rest

/-- Every step of the run is taken from a state that admits it. -/
def Admitted (allow : S → I → Prop) (step : S → I → S × O) : S → List I → Prop
  | _, [] => True
  | s, i :: rest => allow s i ∧ Admitted allow step (step s i).1 rest

theorem run_append (step : S → I → S × O) (s : S) (xs ys : List I) :
    run step s (xs ++ ys) = ((run step (run step s xs).1 ys).1,
      (run step s xs).2 ++ (run step (run step s xs).1 ys).2) := by
  induction xs generalizing s with
  | nil => rfl
  | cons i rest ih => simp only [List.cons_append, run, ih]

theorem final_state_mem (step : S → I → S × O) (s : S) (is : List I) :
    (run step s is).1 ∈ states step s is := by
  induction is generalizing s with
  | nil => simp [run, states]
  | cons i rest ih => exact List.mem_cons_of_mem _ (ih _)

theorem states_invariant {step : S → I → S × O} {allow : S → I → Prop} {inv : S → Prop}
    (keep : ∀ s i, inv s → allow s i → inv (step s i).1)
    {s : S} {is : List I} (start : inv s) (admitted : Admitted allow step s is) :
    ∀ t ∈ states step s is, inv t := by
  induction is generalizing s with
  | nil =>
    intro t mem
    simp only [states, List.mem_singleton] at mem
    exact mem ▸ start
  | cons i rest ih =>
    intro t mem
    rcases List.mem_cons.mp mem with first | later
    · exact first ▸ start
    · exact ih (keep s i start admitted.1) admitted.2 t later

theorem run_invariant {step : S → I → S × O} {allow : S → I → Prop} {inv : S → Prop}
    (keep : ∀ s i, inv s → allow s i → inv (step s i).1)
    {s : S} {is : List I} (start : inv s) (admitted : Admitted allow step s is) :
    inv (run step s is).1 :=
  states_invariant keep start admitted _ (final_state_mem step s is)

theorem transitions_invariant {step : S → I → S × O} {allow : S → I → Prop} {inv : S → Prop}
    {good : Transition S I O → Prop}
    (keep : ∀ s i, inv s → allow s i → inv (step s i).1)
    (each : ∀ s i, inv s → allow s i → good ⟨s, i, (step s i).2, (step s i).1⟩)
    {s : S} {is : List I} (start : inv s) (admitted : Admitted allow step s is) :
    ∀ t ∈ transitions step s is, good t := by
  induction is generalizing s with
  | nil =>
    intro t mem
    cases mem
  | cons i rest ih =>
    intro t mem
    rcases List.mem_cons.mp mem with first | later
    · exact first ▸ each s i start admitted.1
    · exact ih (keep s i start admitted.1) admitted.2 t later

theorem admitted_all {allow : S → I → Prop} (all : ∀ s i, allow s i) (step : S → I → S × O) (s : S)
    (is : List I) : Admitted allow step s is := by
  induction is generalizing s with
  | nil => trivial
  | cons i rest ih => exact ⟨all s i, ih _⟩

theorem admitted_true (step : S → I → S × O) (s : S) (is : List I) :
    Admitted (fun _ _ => True) step s is :=
  admitted_all (fun _ _ => trivial) step s is

/-- Where a good state after a step says that the step was kept to, good states along a
    run say it of the whole run. -/
theorem admitted_of_states {step : S → I → S × O} {allow keep : S → I → Prop} {inv good : S → Prop}
    (next : ∀ s i, inv s → allow s i → inv (step s i).1)
    (each : ∀ s i, inv s → allow s i → good (step s i).1 → keep s i)
    {s : S} {is : List I} (start : inv s) (admitted : Admitted allow step s is)
    (all : ∀ t ∈ states step s is, good t) : Admitted keep step s is := by
  induction is generalizing s with
  | nil => trivial
  | cons i rest ih =>
    have later : ∀ t ∈ states step (step s i).1 rest, good t :=
      fun t mem => all t (List.mem_cons_of_mem _ mem)
    have first : (step s i).1 ∈ states step (step s i).1 rest := by
      cases rest <;> simp [states]
    exact ⟨each s i start admitted.1 (later _ first),
      ih (next s i start admitted.1) admitted.2 later⟩

/-- Where what a step puts out is good exactly if the step is kept to, and it then stays
    in the invariant, a run is good exactly if it is kept to. -/
theorem outputs_iff_admitted {step : S → I → S × O} {allow keep : S → I → Prop}
    {inv : S → Prop} {good : O → Prop}
    (next : ∀ s i, inv s → allow s i → keep s i → inv (step s i).1)
    (each : ∀ s i, inv s → allow s i → (good (step s i).2 ↔ keep s i))
    {s : S} {is : List I} (start : inv s) (admitted : Admitted allow step s is) :
    (∀ o ∈ (run step s is).2, good o) ↔ Admitted keep step s is := by
  induction is generalizing s with
  | nil => exact ⟨fun _ => trivial, fun _ _ mem => nomatch mem⟩
  | cons i rest ih =>
    simp only [run, List.forall_mem_cons, Admitted, each s i start admitted.1]
    constructor
    · rintro ⟨kept, later⟩
      exact ⟨kept, (ih (next s i start admitted.1 kept) admitted.2).mp later⟩
    · rintro ⟨kept, later⟩
      exact ⟨kept, (ih (next s i start admitted.1 kept) admitted.2).mpr later⟩

instance decidableAdmitted (allow : S → I → Prop) [∀ s i, Decidable (allow s i)]
    (step : S → I → S × O) : (s : S) → (is : List I) → Decidable (Admitted allow step s is)
  | _, [] => isTrue trivial
  | s, i :: rest =>
    have := decidableAdmitted allow step (step s i).1 rest
    inferInstanceAs (Decidable (allow s i ∧ Admitted allow step (step s i).1 rest))

theorem Admitted.and {step : S → I → S × O} {allow keep : S → I → Prop} {s : S} {is : List I}
    (first : Admitted allow step s is) (second : Admitted keep step s is) :
    Admitted (fun s i => allow s i ∧ keep s i) step s is := by
  induction is generalizing s with
  | nil => trivial
  | cons i rest ih => exact ⟨⟨first.1, second.1⟩, ih first.2 second.2⟩

theorem admitted_of_forall {step : S → I → S × O} {allow : I → Prop} (s : S) {is : List I}
    (all : ∀ i ∈ is, allow i) : Admitted (fun _ i => allow i) step s is := by
  induction is generalizing s with
  | nil => trivial
  | cons i rest ih =>
    obtain ⟨first, later⟩ := List.forall_mem_cons.mp all
    exact ⟨first, ih _ later⟩

/-- Where a step keeps an invariant exactly if it is kept to, the invariant holds along a
    run exactly if the run is kept to. -/
theorem states_iff_admitted {step : S → I → S × O} {allow keep : S → I → Prop} {inv : S → Prop}
    (each : ∀ s i, inv s → allow s i → (inv (step s i).1 ↔ keep s i)) {s : S} {is : List I}
    (start : inv s) (admitted : Admitted allow step s is) :
    (∀ t ∈ states step s is, inv t) ↔ Admitted keep step s is := by
  constructor
  · intro all
    induction is generalizing s with
    | nil => trivial
    | cons i rest ih =>
      have later : ∀ t ∈ states step (step s i).1 rest, inv t :=
        fun t mem => all t (List.mem_cons_of_mem _ mem)
      have next : inv (step s i).1 := by
        apply later
        cases rest <;> simp [states]
      exact ⟨(each s i start admitted.1).mp next, ih next admitted.2 later⟩
  · intro kept
    exact states_invariant (fun s i holds both => (each s i holds both.1).mpr both.2) start
      (admitted.and kept)

theorem run_outputs {step : S → I → S × O} {allow : S → I → Prop} {inv : S → Prop}
    {good : O → Prop} (keep : ∀ s i, inv s → allow s i → inv (step s i).1)
    (each : ∀ s i, inv s → allow s i → good (step s i).2)
    {s : S} {is : List I} (start : inv s) (admitted : Admitted allow step s is) :
    ∀ o ∈ (run step s is).2, good o :=
  (outputs_iff_admitted (fun s i holds allowed _ => keep s i holds allowed)
    (fun s i holds allowed => ⟨fun _ => allowed, fun _ => each s i holds allowed⟩) start
    admitted).mpr admitted

/-- A measure that every step extends by what it outputs adds up over a run. -/
theorem run_accumulates {A : Type} {step : S → I → S × O} {allow : S → I → Prop}
    {inv : S → Prop} {measure : S → List A} {emitted : O → List A}
    (keep : ∀ s i, inv s → allow s i → inv (step s i).1)
    (each : ∀ s i, inv s → allow s i → measure (step s i).1 = measure s ++ emitted (step s i).2)
    {s : S} {is : List I} (start : inv s) (admitted : Admitted allow step s is) :
    measure (run step s is).1 = measure s ++ (run step s is).2.flatMap emitted := by
  induction is generalizing s with
  | nil => simp [run]
  | cons i rest ih =>
    rw [run, ih (keep s i start admitted.1) admitted.2, each s i start admitted.1,
      List.flatMap_cons, List.append_assoc]

/-- What is in the state and what comes in is put out in its order, or is still there. -/
theorem run_conserves {A : Type} {step : S → I → S × O} {allow : S → I → Prop}
    {inv : S → Prop} {content : S → List A} {received : I → List A} {emitted : O → List A}
    (keep : ∀ s i, inv s → allow s i → inv (step s i).1)
    (each : ∀ s i, inv s → allow s i →
      content s ++ received i = emitted (step s i).2 ++ content (step s i).1)
    {s : S} {is : List I} (start : inv s) (admitted : Admitted allow step s is) :
    content s ++ is.flatMap received =
      (run step s is).2.flatMap emitted ++ content (run step s is).1 := by
  induction is generalizing s with
  | nil => simp [run]
  | cons i rest ih =>
    rw [run, List.flatMap_cons, List.flatMap_cons, ← List.append_assoc,
      each s i start admitted.1, List.append_assoc, ih (keep s i start admitted.1) admitted.2,
      List.append_assoc]

/-- A forward simulation of the runs that the concrete states admit. -/
theorem run_simulation_admitted {concrete : S → I → S × O} {abstract : T → I → T × O}
    {allow : S → I → Prop} {related : S → T → Prop}
    (match_step : ∀ s t i, related s t → allow s i →
      related (concrete s i).1 (abstract t i).1 ∧ (concrete s i).2 = (abstract t i).2)
    {s : S} {t : T} (start : related s t) {is : List I}
    (admitted : Admitted allow concrete s is) :
    related (run concrete s is).1 (run abstract t is).1 ∧
      (run concrete s is).2 = (run abstract t is).2 := by
  induction is generalizing s t with
  | nil => exact ⟨start, rfl⟩
  | cons i rest ih =>
    obtain ⟨next, same⟩ := match_step s t i start admitted.1
    obtain ⟨finish, outputs⟩ := ih next admitted.2
    exact ⟨finish, by simp only [run, same, outputs]⟩

/-- A forward simulation: related states take the same input to related states
    with the same output, so whole runs have equal outputs and related ends. -/
theorem run_simulation {concrete : S → I → S × O} {abstract : T → I → T × O}
    {related : S → T → Prop}
    (match_step : ∀ s t i, related s t →
      related (concrete s i).1 (abstract t i).1 ∧ (concrete s i).2 = (abstract t i).2)
    {s : S} {t : T} (start : related s t) (is : List I) :
    related (run concrete s is).1 (run abstract t is).1 ∧
      (run concrete s is).2 = (run abstract t is).2 := by
  induction is generalizing s t with
  | nil => exact ⟨start, rfl⟩
  | cons i rest ih =>
    obtain ⟨next, same⟩ := match_step s t i start
    obtain ⟨finish, outputs⟩ := ih next
    exact ⟨finish, by simp only [run, same, outputs]⟩

end StepSystem

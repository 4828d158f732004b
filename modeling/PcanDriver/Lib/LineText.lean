import Mathlib.Tactic.Common

/-!
Text whose lines end with a symbol of their own. Readers that look at nothing behind the end
of the first line can be given a line in any surroundings; a reader that takes the text
symbol by symbol and handles each line it completes does not see how the text is cut.
-/
namespace LineText
variable {A R S : Type}

section Readers
variable {stop : A}

/-- The answer depends on nothing behind the first `stop`. -/
def Within (stop : A) (read : List A → R) : Prop :=
  ∀ line, stop ∉ line → ∀ tail tail', read (line ++ stop :: tail) = read (line ++ stop :: tail')

theorem Within.const (answer : R) : Within stop fun _ : List A => answer :=
  fun _ _ _ _ => rfl

theorem Within.peek (read : A → List A → R) (each : ∀ c, Within stop (read c)) (none : A) :
    Within stop fun text => read (text.headD none) text := by
  intro line clean tail tail'
  cases line with
  | nil => exact each stop [] clean tail tail'
  | cons c line => exact each c (c :: line) clean tail tail'

/-- Taking the next symbol; when it is the last of its line, the rest must not matter. -/
theorem Within.next (read : A → List A → R) (inside : ∀ c, c ≠ stop → Within stop (read c))
    (last : ∀ rest rest', read stop rest = read stop rest') (none : A) :
    Within stop fun text => read (text.headD none) text.tail := by
  intro line clean tail tail'
  cases line with
  | nil => exact last tail tail'
  | cons c line =>
    obtain ⟨other, clean⟩ := not_or.mp (mt List.mem_cons.mpr clean)
    exact inside c (Ne.symm other) line clean tail tail'

theorem takeWhile_line {pred : A → Bool} (stops : pred stop = false) (line tail : List A) :
    (line ++ stop :: tail).takeWhile pred = line.takeWhile pred ∧
      (line ++ stop :: tail).dropWhile pred = line.dropWhile pred ++ stop :: tail := by
  induction line with
  | nil => simp [stops]
  | cons c line ih =>
    cases held : pred c with
    | false => simp [held]
    | true => simpa [held] using ih

theorem word_split {pred : A → Bool} {word rest : List A} (each : ∀ c ∈ word, pred c = true)
    (ends : ∀ c ∈ rest.head?, pred c = false) :
    (word ++ rest).takeWhile pred = word ∧ (word ++ rest).dropWhile pred = rest := by
  induction word with
  | nil =>
    cases rest with
    | nil => exact ⟨rfl, rfl⟩
    | cons c rest =>
      have stops := ends c rfl
      simp [stops]
  | cons c word ih =>
    have first := each c List.mem_cons_self
    simpa [first] using ih fun c member => each c (List.mem_cons_of_mem _ member)

theorem word_exists (pred : A → Bool) (text : List A) :
    ∃ word rest, text = word ++ rest ∧ (∀ c ∈ word, pred c = true) ∧
      ∀ c ∈ rest.head?, pred c = false := by
  refine ⟨text.takeWhile pred, text.dropWhile pred, List.takeWhile_append_dropWhile.symm, ?_, ?_⟩
  · induction text with
    | nil => nofun
    | cons c text ih =>
      cases kept : pred c with
      | false => simp [kept]
      | true => simpa [kept] using ih
  · intro c head
    have stops := List.head?_dropWhile_not pred text
    rw [Option.mem_def.mp head] at stops
    exact stops

theorem Within.word {pred : A → Bool} (read : List A → List A → R)
    (each : ∀ word, Within stop (read word)) (stops : pred stop = false) :
    Within stop fun text => read (text.takeWhile pred) (text.dropWhile pred) := by
  intro line clean tail tail'
  obtain ⟨word, rest⟩ := takeWhile_line stops line tail
  obtain ⟨word', rest'⟩ := takeWhile_line stops line tail'
  simp only [word, rest, word', rest']
  exact each _ _ (fun member => clean (List.dropWhile_sublist pred |>.subset member)) tail tail'

theorem Within.skip {pred : A → Bool} {read : List A → R} (each : Within stop read)
    (stops : pred stop = false) : Within stop fun text => read (text.dropWhile pred) :=
  Within.word (fun _ => read) (fun _ => each) stops

theorem Within.branch {test : Prop} [Decidable test] {yes no : List A → R}
    (first : Within stop yes) (second : Within stop no) :
    Within stop (if test then yes else no) := by
  by_cases held : test
  · simpa only [if_pos held] using first
  · simpa only [if_neg held] using second

end Readers

section Lines
variable {stop : A}

def IsLine (stop : A) (line : List A) : Prop := ∃ body, stop ∉ body ∧ line = body ++ [stop]

theorem cut_lines {lines : List (List A)} (each : ∀ line ∈ lines, IsLine stop line)
    {text rest : List A} (cut : text ++ rest = lines.flatten) :
    ∃ done more unfinished, lines = done ++ more ∧ text = done.flatten ++ unfinished ∧
      stop ∉ unfinished ∧ (more = [] → unfinished = []) ∧
      (rest = [] → more = []) ∧
      ∀ line ∈ more.head?, unfinished.length < line.length := by
  induction lines generalizing text with
  | nil =>
    obtain ⟨none, empty⟩ := List.append_eq_nil_iff.mp cut
    exact ⟨[], [], [], rfl, none, by simp, fun _ => rfl, fun _ => rfl, by simp⟩
  | cons line lines ih =>
    obtain ⟨body, clean, rfl⟩ := each line List.mem_cons_self
    have others := fun l member => each l (List.mem_cons_of_mem _ member)
    rw [List.flatten_cons] at cut
    rcases List.append_eq_append_iff.mp cut with ⟨joint, text', rest'⟩ | ⟨joint, text', rest'⟩
    · -- the cut is in the first line, or at its end
      rcases List.eq_nil_or_concat joint with none | ⟨front, final, whole⟩
      · rw [none, List.append_nil] at text'
        obtain ⟨done, more, unfinished, rfl, split, clean', empty, finished, short⟩ :=
          @ih others [] (by rw [none] at rest'; simpa using rest')
        refine ⟨(body ++ [stop]) :: done, more, unfinished, rfl, ?_, clean', empty, finished, short⟩
        rw [List.flatten_cons, List.append_assoc, ← split, List.append_nil, text']
      · rw [whole, List.concat_eq_append, ← List.append_assoc] at text'
        obtain ⟨before, _⟩ := List.append_inj' text' rfl
        refine ⟨[], (body ++ [stop]) :: lines, text, rfl, rfl, ?_, nofun, ?_, ?_⟩
        · intro member
          exact clean (before ▸ List.mem_append_left _ member)
        · intro none
          rw [none] at rest'
          simp [whole] at rest'
        · intro l head
          cases head
          rw [List.length_append, before, List.length_append]
          simp only [List.length_singleton]
          omega
    · obtain ⟨done, more, unfinished, rfl, split, clean', empty, finished, short⟩ :=
        ih others rest'.symm
      refine ⟨(body ++ [stop]) :: done, more, unfinished, rfl, ?_, clean', empty, finished, short⟩
      rw [text', split, List.flatten_cons, List.append_assoc, List.append_assoc, List.append_assoc]

theorem first_line [DecidableEq A] {text : List A} {n : Nat}
    (found : text.findIdx? (· = stop) = some n) :
    ∃ body rest, text = body ++ stop :: rest ∧ stop ∉ body ∧ body.length = n := by
  obtain ⟨inside, here, before⟩ := List.findIdx?_eq_some_iff_getElem.mp found
  refine ⟨text.take n, text.drop (n + 1), ?_, ?_, List.length_take_of_le (Nat.le_of_lt inside)⟩
  · rw [← of_decide_eq_true here, List.getElem_cons_drop, List.take_append_drop]
  · intro member
    obtain ⟨j, bound, same⟩ := List.mem_take_iff_getElem.mp member
    exact before j (by omega) (decide_eq_true same)

end Lines

section Feeding
variable [DecidableEq A]

/-- What a reader has made of the text so far, and the line it is in. -/
structure Reading (S A : Type) where
  state : S
  pending : List A

def feed (stop : A) (handle : S → List A → S) (r : Reading S A) (c : A) : Reading S A :=
  if c = stop then ⟨handle r.state (r.pending ++ [stop]), []⟩ else ⟨r.state, r.pending ++ [c]⟩

def feedAll (stop : A) (handle : S → List A → S) (r : Reading S A) (text : List A) : Reading S A :=
  text.foldl (feed stop handle) r

variable {stop : A} {handle : S → List A → S}

theorem feedAll_append (r : Reading S A) (text more : List A) :
    feedAll stop handle r (text ++ more) = feedAll stop handle (feedAll stop handle r text) more :=
  List.foldl_append

theorem feedAll_clean {text : List A} (clean : stop ∉ text) (r : Reading S A) :
    feedAll stop handle r text = ⟨r.state, r.pending ++ text⟩ := by
  unfold feedAll
  induction text generalizing r with
  | nil => rw [List.append_nil]; rfl
  | cons c text ih =>
    obtain ⟨other, clean⟩ := not_or.mp (mt List.mem_cons.mpr clean)
    rw [List.foldl_cons, feed, if_neg (Ne.symm other), ih clean, List.append_assoc]
    rfl

theorem feedAll_line {body : List A} (clean : stop ∉ body) (state : S) (rest : List A) :
    feedAll stop handle ⟨state, []⟩ (body ++ stop :: rest) =
      feedAll stop handle ⟨handle state (body ++ [stop]), []⟩ rest := by
  rw [feedAll_append, feedAll_clean clean]
  unfold feedAll
  rw [List.foldl_cons, feed, if_pos rfl, List.nil_append]

theorem feedAll_lines {lines : List (List A)} (each : ∀ line ∈ lines, IsLine stop line) (state : S)
    (rest : List A) :
    feedAll stop handle ⟨state, []⟩ (lines.flatten ++ rest) =
      feedAll stop handle ⟨lines.foldl handle state, []⟩ rest := by
  induction lines generalizing state with
  | nil => rfl
  | cons line lines ih =>
    obtain ⟨body, clean, rfl⟩ := each line List.mem_cons_self
    have others := fun l member => each l (List.mem_cons_of_mem _ member)
    rw [List.flatten_cons, List.append_assoc, List.append_assoc, List.singleton_append,
      feedAll_line clean, ih others]
    rfl

theorem feedAll_related {T : Type} {handle' : T → List A → T} (related : S → T → Prop)
    (each : ∀ s t line, related s t → related (handle s line) (handle' t line)) {r : Reading S A}
    {r' : Reading T A} (start : related r.state r'.state) (same : r.pending = r'.pending)
    (text : List A) :
    related (feedAll stop handle r text).state (feedAll stop handle' r' text).state := by
  unfold feedAll
  induction text generalizing r r' with
  | nil => exact start
  | cons c text ih =>
    unfold feed
    rw [List.foldl_cons, List.foldl_cons, same]
    by_cases ends : c = stop
    · simp only [if_pos ends]
      exact ih (each _ _ _ start) rfl
    · simp only [if_neg ends]
      exact ih start rfl

theorem feedAll_settled {r : Reading S A} (settled : stop ∉ r.pending) (text : List A) :
    stop ∉ (feedAll stop handle r text).pending := by
  unfold feedAll
  induction text generalizing r with
  | nil => exact settled
  | cons c text ih =>
    refine ih ?_
    unfold feed
    split
    · exact List.not_mem_nil
    · rename_i other
      simpa [settled] using Ne.symm other

end Feeding

end LineText

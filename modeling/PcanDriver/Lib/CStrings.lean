import Mathlib.Data.List.TakeWhile
import Mathlib.Data.List.DropRight

/-!
Strings in a buffer, each ended by a terminator: what a terminator stored in one of them does
to the strings that can be seen, and the scan that cuts tokens out of a buffer in place and
hands on where it goes on.
-/
namespace CStrings
variable {A : Type} [DecidableEq A]

def strAt (nul : A) (buf : List A) (p : Nat) : List A := (buf.drop p).takeWhile (· ≠ nul)

section Strings
variable {nul : A} {buf : List A} {p q : Nat}

theorem nul_not_mem_strAt : nul ∉ strAt nul buf p := by
  intro mem
  simpa using List.mem_takeWhile_imp mem

theorem takeWhile_set_nul (l : List A) (k : Nat) :
    (l.set k nul).takeWhile (· ≠ nul) = (l.takeWhile (· ≠ nul)).take k := by
  induction l generalizing k with
  | nil => simp
  | cons x xs ih =>
    cases k with
    | zero => simp
    | succ k =>
      rw [List.set_cons_succ, List.takeWhile_cons, List.takeWhile_cons, ih]
      by_cases stops : x = nul
      · simp [stops]
      · simp [stops]

theorem strAt_set :
    strAt nul (buf.set q nul) p
      = if q < p then strAt nul buf p else (strAt nul buf p).take (q - p) := by
  unfold strAt
  by_cases before : q < p
  · rw [if_pos before, List.drop_set_of_lt before]
  · rw [if_neg before, List.drop_set, if_neg before, takeWhile_set_nul]

theorem strAt_set_of_lt (before : q < p) : strAt nul (buf.set q nul) p = strAt nul buf p := by
  rw [strAt_set, if_pos before]

theorem strAt_set_of_le (after : p ≤ q) :
    strAt nul (buf.set q nul) p = (strAt nul buf p).take (q - p) := by
  rw [strAt_set, if_neg (Nat.not_lt.mpr after)]

theorem strAt_add {k : Nat} (inside : k ≤ (strAt nul buf p).length) :
    strAt nul buf (p + k) = (strAt nul buf p).drop k := by
  unfold strAt at inside ⊢
  rw [← List.drop_drop]
  generalize buf.drop p = l at inside
  induction l generalizing k with
  | nil => simp
  | cons x xs ih =>
    cases k with
    | zero => rfl
    | succ k =>
      rw [List.takeWhile_cons] at inside ⊢
      by_cases stops : x = nul
      · simp [stops] at inside
      · simp only [ne_eq, stops, not_false_eq_true, decide_true, if_true, List.length_cons,
          List.drop_succ_cons] at inside ⊢
        exact ih (by simpa using inside)

theorem strAt_at_end : strAt nul buf (p + (strAt nul buf p).length) = [] := by
  rw [strAt_add (Nat.le_refl _), List.drop_length]

theorem getElem?_of_strAt {i : Nat} (inside : i < (strAt nul buf p).length) :
    buf[p + i]? = (strAt nul buf p)[i]? := by
  have front : strAt nul buf p <+: buf.drop p := List.takeWhile_prefix _
  obtain ⟨rest, split⟩ := front
  rw [← List.getElem?_drop, ← split, List.getElem?_append_left inside]

def Closed (nul : A) (buf : List A) : Prop := buf.getLast? = some nul

omit [DecidableEq A] in
theorem Closed.set (closed : Closed nul buf) : Closed nul (buf.set q nul) := by
  unfold Closed at closed ⊢
  rw [List.getLast?_eq_getElem?] at closed ⊢
  rw [List.length_set, List.getElem?_set]
  split
  next same =>
    rw [if_pos]
    obtain ⟨inside, _⟩ := List.getElem?_eq_some_iff.mp closed
    omega
  next => exact closed

theorem Closed.strAt_inside (closed : Closed nul buf) (inside : p < buf.length) :
    p + (strAt nul buf p).length < buf.length := by
  unfold Closed at closed
  rw [List.getLast?_eq_getElem?] at closed
  by_contra outside
  have reached : buf.length - 1 - p < (strAt nul buf p).length := by
    omega
  have last := getElem?_of_strAt reached
  rw [show p + (buf.length - 1 - p) = buf.length - 1 by omega, closed] at last
  exact nul_not_mem_strAt (List.mem_of_getElem? last.symm)

theorem Closed.set_at_end (closed : Closed nul buf) (inside : p < buf.length) :
    buf.set (p + (strAt nul buf p).length) nul = buf := by
  have stays := closed.strAt_inside inside
  have ended : strAt nul buf (p + (strAt nul buf p).length) = [] := strAt_at_end
  generalize p + (strAt nul buf p).length = e at stays ended
  unfold strAt at ended
  rw [List.drop_eq_getElem_cons stays, List.takeWhile_cons] at ended
  have nul_there : buf[e] = nul := by
    by_contra other
    simp [other] at ended
  conv => lhs; rw [← nul_there]
  exact List.set_getElem_self stays

end Strings

section Tokens
variable {nul delim : A}

/-- The parts of a text between its delimiters, without the empty ones. -/
def tokens (delim : A) (text : List A) : List (List A) := (text.splitOn delim).filter (· ≠ [])

/-- `strtok_r` from `s`: the buffer it leaves, where the token begins, and where the scan goes
    on. -/
def strtok (nul delim : A) (buf : List A) (s : Nat) : List A × Option Nat × Nat :=
  let text := strAt nul buf s
  let start := s + (text.takeWhile (· = delim)).length
  let token := (text.dropWhile (· = delim)).takeWhile (· ≠ delim)
  if text.dropWhile (· = delim) = [] then (buf, none, start)
  else if text.dropWhile (· = delim) = token then (buf, some start, start + token.length)
  else (buf.set (start + token.length) nul, some start, start + token.length + 1)

theorem tokens_nil : tokens delim [] = [] := by
  simp [tokens]

theorem tokens_cons_delim (text : List A) : tokens delim (delim :: text) = tokens delim text := by
  simp [tokens, List.splitOn_cons_eq_if_modifyHead]

theorem tokens_skip (k : Nat) (text : List A) :
    tokens delim (List.replicate k delim ++ text) = tokens delim text := by
  induction k with
  | zero => rfl
  | succ k ih => rw [List.replicate_succ, List.cons_append, tokens_cons_delim, ih]

theorem tokens_last {token : List A} (some_text : token ≠ []) (whole : delim ∉ token) :
    tokens delim token = [token] := by
  unfold tokens
  rw [List.splitOn_eq_singleton whole]
  simp [some_text]

theorem tokens_append_cons {token : List A} (some_text : token ≠ []) (whole : delim ∉ token)
    (rest : List A) : tokens delim (token ++ delim :: rest) = token :: tokens delim rest := by
  unfold tokens
  rw [List.splitOn_append_cons_self_of_not_mem whole, List.filter_cons_of_pos (by simpa)]

structure Begins (delim : A) (text : List A) (k : Nat) (token rest : List A) : Prop where
  some_text : token ≠ []
  whole : delim ∉ token
  text : text = List.replicate k delim ++ token ∧ rest = [] ∨
    text = List.replicate k delim ++ token ++ delim :: rest

theorem Begins.tokens {text token rest : List A} {k : Nat}
    (begins : Begins delim text k token rest) :
    tokens delim text = token :: tokens delim rest := by
  rcases begins.text with ⟨last, none_left⟩ | more
  · rw [last, none_left, tokens_skip, tokens_last begins.some_text begins.whole, tokens_nil]
  · rw [more, List.append_assoc, tokens_skip,
      tokens_append_cons begins.some_text begins.whole]

omit [DecidableEq A] in
theorem Begins.length {text token rest : List A} {k : Nat}
    (begins : Begins delim text k token rest) : k + token.length + rest.length ≤ text.length := by
  rcases begins.text with ⟨last, none_left⟩ | more
  · simp [last, none_left]
  · simp only [more, List.length_append, List.length_replicate, List.length_cons]
    omega

theorem Begins.at_first {text token rest : List A} {k : Nat}
    (begins : Begins delim text k token rest) :
    text.takeWhile (· ≠ delim) = if k = 0 then token else [] := by
  have none_inside : ∀ c ∈ token, decide (c ≠ delim) = true := by
    intro c mem
    simpa using ne_of_mem_of_not_mem mem begins.whole
  cases k with
  | zero =>
    rcases begins.text with ⟨last, _⟩ | more
    · rw [last, if_pos rfl]
      simpa using List.takeWhile_eq_self_iff.mpr none_inside
    · rw [more, if_pos rfl, List.append_assoc, List.replicate_zero, List.nil_append,
        List.takeWhile_append_of_pos none_inside]
      simp
  | succ k =>
    rcases begins.text with ⟨last, _⟩ | more
    · simp [last, List.replicate_succ]
    · simp [more, List.replicate_succ]

/-- The store of a scan that found the token between `p` and `p + token.length`. -/
structure Cut (nul delim : A) (buf buf' : List A) (s p save : Nat) (token rest : List A) :
    Prop where
  begins : Begins delim (strAt nul buf s) (p - s) token rest
  after : s ≤ p
  token_at : strAt nul buf' p = token
  store : buf' = buf.set (p + token.length) nul
  rest_at : strAt nul buf' save = rest
  save : save = p + token.length ∧ rest = [] ∨ save = p + token.length + 1 ∧
    strAt nul buf s = List.replicate (p - s) delim ++ token ++ delim :: rest

theorem takeWhile_delims (text : List A) :
    text.takeWhile (· = delim)
      = List.replicate (text.takeWhile (· = delim)).length delim := by
  apply List.eq_replicate_iff.mpr
  refine ⟨rfl, ?_⟩
  intro c mem
  simpa using List.mem_takeWhile_imp mem

theorem begins_of_some {text : List A} (left : text.dropWhile (· = delim) ≠ []) :
    Begins delim text (text.takeWhile (· = delim)).length
      ((text.dropWhile (· = delim)).takeWhile (· ≠ delim))
      (((text.dropWhile (· = delim)).dropWhile (· ≠ delim)).drop 1) := by
  have skipped := @takeWhile_delims _ _ delim text
  have text_split := @List.takeWhile_append_dropWhile _ (fun c => decide (c = delim)) text
  have head := List.head_dropWhile_not (fun c => decide (c = delim)) left
  generalize text.dropWhile (· = delim) = l at left text_split head ⊢
  have whole : delim ∉ l.takeWhile (· ≠ delim) := by
    intro mem
    simpa using List.mem_takeWhile_imp mem
  constructor
  case some_text =>
    obtain ⟨c, cs, rfl⟩ := List.exists_cons_of_ne_nil left
    have other : c ≠ delim := of_decide_eq_false head
    simp [other]
  case whole => exact whole
  case text =>
    have l_split := @List.takeWhile_append_dropWhile _ (fun c => decide (c ≠ delim)) l
    rw [← skipped]
    cases tail : l.dropWhile (· ≠ delim) with
    | nil =>
      left
      rw [tail, List.append_nil] at l_split
      exact ⟨by rw [l_split, text_split], rfl⟩
    | cons c rest =>
      right
      have stop := List.head_dropWhile_not (fun c => decide (c ≠ delim))
        (List.ne_nil_of_length_pos (by rw [tail]; exact Nat.succ_pos _))
      simp only [tail, List.head_cons, decide_eq_false_iff_not, not_not] at stop
      rw [tail, stop] at l_split
      rw [List.append_assoc, List.drop_succ_cons, List.drop_zero, l_split, text_split]

theorem first_of_no_tokens {text : List A} (none_left : tokens delim text = []) :
    text.takeWhile (· ≠ delim) = [] := by
  cases text with
  | nil => rfl
  | cons c cs =>
    by_cases same : c = delim
    · simp [same]
    · have left : (c :: cs).dropWhile (· = delim) ≠ [] := by
        simp [same]
      rw [(begins_of_some left).tokens] at none_left
      exact absurd none_left (List.cons_ne_nil _ _)

theorem strtok_none {buf : List A} {s : Nat}
    (none_left : tokens delim (strAt nul buf s) = []) :
    ∃ save, strtok nul delim buf s = (buf, none, save) := by
  refine ⟨s + ((strAt nul buf s).takeWhile (· = delim)).length, ?_⟩
  unfold strtok
  dsimp only
  rw [if_pos]
  by_contra left
  rw [(begins_of_some left).tokens] at none_left
  exact List.cons_ne_nil _ _ none_left

theorem cut_last {buf : List A} {s k : Nat} {token : List A} (closed : Closed nul buf)
    (inside : s < buf.length) (some_text : token ≠ []) (whole : delim ∉ token)
    (text : strAt nul buf s = List.replicate k delim ++ token) :
    Cut nul delim buf buf s (s + k) (s + k + token.length) token [] := by
  have length := congrArg List.length text
  rw [List.length_append, List.length_replicate] at length
  have stays := closed.strAt_inside inside
  have token_at : strAt nul buf (s + k) = token := by
    rw [strAt_add (by omega), text]
    exact List.drop_left' (List.length_replicate ..)
  have ended := closed.set_at_end (show s + k < buf.length by omega)
  have at_end := @strAt_at_end _ _ nul buf (s + k)
  rw [token_at] at ended at_end
  constructor
  case begins =>
    rw [Nat.add_sub_cancel_left]
    exact ⟨some_text, whole, Or.inl ⟨text, rfl⟩⟩
  case after => exact Nat.le_add_right _ _
  case token_at => exact token_at
  case store => exact ended.symm
  case rest_at => exact at_end
  case save => exact Or.inl ⟨rfl, rfl⟩

theorem cut_more {buf : List A} {s k : Nat} {token rest : List A} (some_text : token ≠ [])
    (whole : delim ∉ token)
    (text : strAt nul buf s = List.replicate k delim ++ token ++ delim :: rest) :
    Cut nul delim buf (buf.set (s + k + token.length) nul) s (s + k) (s + k + token.length + 1)
      token rest := by
  have length := congrArg List.length text
  simp only [List.length_append, List.length_replicate, List.length_cons] at length
  constructor
  case begins =>
    rw [Nat.add_sub_cancel_left]
    exact ⟨some_text, whole, Or.inr text⟩
  case after => exact Nat.le_add_right _ _
  case token_at =>
    rw [strAt_set_of_le (Nat.le_add_right _ _), strAt_add (by omega), text, List.append_assoc,
      List.drop_left' (List.length_replicate ..), Nat.add_sub_cancel_left]
    exact List.take_left' rfl
  case store => rfl
  case rest_at =>
    rw [strAt_set_of_lt (Nat.lt_add_one _),
      show s + k + token.length + 1 = s + (k + token.length + 1) by omega,
      strAt_add (by omega), text]
    rw [← List.singleton_append, ← List.append_assoc]
    apply List.drop_left'
    simp only [List.length_append, List.length_replicate, List.length_cons, List.length_nil]
  case save =>
    rw [Nat.add_sub_cancel_left]
    exact Or.inr ⟨rfl, text⟩

theorem left_of_tokens {text token : List A} {more : List (List A)}
    (found : tokens delim text = token :: more) : text.dropWhile (· = delim) ≠ [] := by
  intro none_left
  have text_split := @List.takeWhile_append_dropWhile _ (fun c => decide (c = delim)) text
  rw [none_left, takeWhile_delims] at text_split
  rw [← text_split, tokens_skip, tokens_nil] at found
  exact List.cons_ne_nil _ _ found.symm

theorem begins_of_tokens {text token : List A} {more : List (List A)}
    (found : tokens delim text = token :: more) :
    ∃ k rest, Begins delim text k token rest ∧ tokens delim rest = more := by
  have begins := begins_of_some (left_of_tokens found)
  have cut := begins.tokens
  rw [found] at cut
  obtain ⟨same, others⟩ := List.cons.inj cut
  exact ⟨_, _, same ▸ begins, others.symm⟩

theorem strtok_some {buf : List A} {s : Nat} (closed : Closed nul buf) (inside : s < buf.length)
    {token : List A} {more : List (List A)}
    (found : tokens delim (strAt nul buf s) = token :: more) :
    ∃ buf' p save rest, strtok nul delim buf s = (buf', some p, save) ∧
      Cut nul delim buf buf' s p save token rest ∧ tokens delim rest = more := by
  have skipped := @takeWhile_delims _ _ delim (strAt nul buf s)
  have text_split := @List.takeWhile_append_dropWhile _ (fun c => decide (c = delim))
    (strAt nul buf s)
  have left := left_of_tokens found
  have begins := begins_of_some left
  have cut := begins.tokens
  rw [found] at cut
  obtain ⟨same, others⟩ := List.cons.inj cut
  have first := begins.text
  rw [← skipped] at first
  unfold strtok
  dsimp only
  rw [if_neg left, ← same]
  rw [← same] at begins first
  generalize ((((strAt nul buf s).dropWhile (· = delim)).dropWhile (· ≠ delim)).drop 1) = rest
    at begins first others
  generalize (strAt nul buf s).dropWhile (· = delim) = l at text_split ⊢
  rcases first with ⟨last, none_left⟩ | continued
  · obtain rfl := List.append_cancel_left (text_split.trans last)
    rw [if_pos rfl]
    rw [skipped] at text_split
    exact ⟨buf, _, _, [], rfl,
      cut_last closed inside begins.some_text begins.whole text_split.symm,
      by rw [others, none_left]⟩
  · have longer : l = token ++ delim :: rest := by
      rw [List.append_assoc] at continued
      exact List.append_cancel_left (text_split.trans continued)
    rw [if_neg (by rw [longer]; simp)]
    rw [skipped, longer, ← List.append_assoc] at text_split
    exact ⟨_, _, _, rest, rfl, cut_more begins.some_text begins.whole text_split.symm,
      others.symm⟩

end Tokens

section Kept
variable {nul delim : A} {blank : A → Bool} {buf buf' : List A} {s p q e save : Nat}
  {token rest : List A}

/-- A scan that goes backwards over blanks stops in front of `p`. -/
def StopsBefore (blank : A → Bool) (buf : List A) (p : Nat) : Prop :=
  ∀ c, 0 < p → buf[p - 1]? = some c → blank c = false

omit [DecidableEq A] in
theorem StopsBefore.set (guarded : StopsBefore blank buf p) (ends : blank nul = false) :
    StopsBefore blank (buf.set q nul) p := by
  intro c positive read
  rw [List.getElem?_set] at read
  split at read
  next =>
    split at read
    next => exact Option.some.inj read ▸ ends
    next => cases read
  next => exact guarded c positive read

/-- What a scan has still to read, behind the part of the buffer up to `e`. -/
structure Behind (nul : A) (blank : A → Bool) (buf : List A) (e save : Nat) (rest : List A) :
    Prop where
  after : e ≤ save
  rest_at : strAt nul buf save = rest
  last : e = save → rest = []
  guarded : rest ≠ [] → StopsBefore blank buf save

theorem Behind.set (behind : Behind nul blank buf e save rest) (ends : blank nul = false)
    (inside : q ≤ e) : Behind nul blank (buf.set q nul) e save rest := by
  constructor
  case after => exact behind.after
  case rest_at =>
    have after := behind.after
    by_cases before : q < save
    · rw [strAt_set_of_lt before, behind.rest_at]
    · rw [strAt_set_of_le (Nat.not_lt.mp before), behind.rest_at, behind.last (by omega)]
      exact List.take_nil
  case last => exact behind.last
  case guarded =>
    intro some_left
    exact (behind.guarded some_left).set ends

theorem Behind.mono {e' : Nat} (behind : Behind nul blank buf e save rest) (smaller : e' ≤ e) :
    Behind nul blank buf e' save rest := by
  constructor
  case after => exact smaller.trans behind.after
  case rest_at => exact behind.rest_at
  case last =>
    intro same
    have after := behind.after
    exact behind.last (by omega)
  case guarded => exact behind.guarded

theorem Cut.behind (cut : Cut nul delim buf buf' s p save token rest)
    (ends : blank nul = false) : Behind nul blank buf' (p + token.length) save rest := by
  rcases cut.save with ⟨last, none_left⟩ | ⟨more, _⟩
  · constructor
    case after => exact last.ge
    case rest_at => exact cut.rest_at
    case last => exact fun _ => none_left
    case guarded => exact fun some_left => absurd none_left some_left
  · constructor
    case after => omega
    case rest_at => exact cut.rest_at
    case last => omega
    case guarded =>
      intro _ c _ read
      rw [more, Nat.add_sub_cancel, cut.store, List.getElem?_set, if_pos rfl] at read
      split at read
      next => exact Option.some.inj read ▸ ends
      next => cases read

theorem Cut.guarded (cut : Cut nul delim buf buf' s p save token rest)
    (guarded : StopsBefore blank buf s) (ends : blank nul = false) (parts : blank delim = false) :
    StopsBefore blank buf' p := by
  rw [cut.store]
  apply StopsBefore.set _ ends
  intro c positive read
  have after := cut.after
  have length := cut.begins.length
  have some_text := List.length_pos_of_ne_nil cut.begins.some_text
  by_cases same : p = s
  · exact guarded c (same ▸ positive) (same ▸ read)
  · rw [show p - 1 = s + (p - s - 1) by omega, @getElem?_of_strAt _ _ nul _ _ _ (by omega)] at read
    have skipped : c = delim := by
      rcases cut.begins.text with ⟨last, _⟩ | more
      · rw [last, List.getElem?_append_left (by simp; omega)] at read
        exact List.eq_of_mem_replicate (List.mem_of_getElem? read)
      · rw [more, List.append_assoc, List.getElem?_append_left (by simp; omega)] at read
        exact List.eq_of_mem_replicate (List.mem_of_getElem? read)
    rw [skipped]
    exact parts

theorem Cut.inside (cut : Cut nul delim buf buf' s p save token rest) :
    save + rest.length ≤ s + (strAt nul buf s).length := by
  have after := cut.after
  rcases cut.save with ⟨last, none_left⟩ | ⟨more, text⟩
  · have length := cut.begins.length
    omega
  · have length := congrArg List.length text
    simp only [List.length_append, List.length_replicate, List.length_cons] at length
    omega

end Kept

end CStrings

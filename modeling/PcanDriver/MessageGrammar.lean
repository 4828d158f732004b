import PcanDriver.Numerals

/-!
The lines that `pcan_parse_input_message` is meant for, and what it makes of all others. A line is
rejected with the error of the step before, which is 0 behind a number that could be scanned.
-/
namespace PcanDriver
open LineText

section Statement

def AllBlank (blanks : List U8) : Prop := ∀ c ∈ blanks, isBlank c = true

/-- Numbers with blanks before each, where `gap` says which blanks will do. -/
inductive Numbers (gap : List U8 → Prop) : List U8 → List Nat → List U8 → Prop
  | none (text : List U8) : Numbers gap text [] text
  | next {blanks text rest last : List U8} {n : Nat} {ns : List Nat} : AllBlank blanks →
      gap blanks → Numeral text n rest → Numbers gap rest ns last →
      Numbers gap (blanks ++ text) (n :: ns) last

def formatFlag (c : U8) : Option U32 :=
  if c = chr 'e' then some pcanfdMsgExt else if c = chr 's' then some 0 else none

structure Letters (gap : List U8 → Prop) (text : List U8) (type : MsgType) (flags : U32)
    (rest : List U8) : Prop where
  intro ::
  found : ∃ before between kind format kindFlags format_, AllBlank before ∧ AllBlank between ∧
    gap between ∧ text = before ++ kind :: (between ++ format :: rest) ∧
    messageKind kind = some (type, kindFlags) ∧ formatFlag format = some format_ ∧
    flags = kindFlags ||| format_

structure LineMessage where
  type : MsgType
  flags : U32
  id : Nat
  data : List Nat

def LineMessage.parsed (m : LineMessage) : ParsedMsg :=
  ⟨m.type, m.flags, some (BitVec.ofNat 32 m.id), some (BitVec.ofNat 16 m.data.length),
    m.data.map (BitVec.ofNat 8)⟩

structure MessageLine (text : List U8) (m : LineMessage) : Prop where
  found : ∃ rest last, Letters (· ≠ []) text m.type m.flags rest ∧
    Numbers (· ≠ []) rest (m.id :: m.data.length :: m.data) last
  id : m.id ≤ if m.flags &&& pcanfdMsgExt ≠ 0 then 0x1fffffff else 0x7ff
  length : m.data.length ≤ 64
  data : ∀ d ∈ m.data, d ≤ 255

/-- The lines of the grammar are accepted and read as written, and no others. -/
def ParsesGrammar (text : List U8) : Prop :=
  ((pcanParseInputMessage text).1 = 0 ↔ ∃ m, MessageLine text m) ∧
    ∀ m, MessageLine text m → pcanParseInputMessage text = (0, m.parsed)

def Anything (_ : List U8) : Prop := True

/-- An id, or an id, a length and some of the data, none of which is out of range as a word. -/
def InRangeSoFar (flags : U32) : List Nat → Prop
  | [] => False
  | [id] => id % 2 ^ 32 ≤ if flags &&& pcanfdMsgExt ≠ 0 then 0x3fffffff else 0x7ff
  | id :: length :: data =>
    (id % 2 ^ 32 ≤ if flags &&& pcanfdMsgExt ≠ 0 then 0x3fffffff else 0x7ff) ∧
      length % 2 ^ 32 ≤ 64 ∧ data.length < length % 2 ^ 32 ∧ ∀ d ∈ data, d % 2 ^ 32 ≤ 255

/-- The next character is neither the end of the line nor the start of a number. -/
def Stray (text : List U8) : Prop :=
  ∃ blanks c tail, AllBlank blanks ∧ text = blanks ++ c :: tail ∧ isBlank c = false ∧
    isEol c = false ∧ isDigitOf 10 c = false

/-- Nothing that starts like a message, up to its id; or numbers in range up to a point where a
    number is missing, but not because of the end of the line. -/
def OpenlyWrong (text : List U8) : Prop :=
  (¬∃ type flags rest n last, Letters Anything text type flags rest ∧
    Numbers Anything rest [n] last) ∨
  ∃ type flags rest ns last, Letters Anything text type flags rest ∧
    Numbers Anything rest ns last ∧ InRangeSoFar flags ns ∧ Stray last

end Statement

section Steps
variable {R : Type} {text rest last : List U8} {n : Nat} {ns : List Nat}

theorem blanks_split {blanks tail : List U8} {c : U8} (blank : AllBlank blanks)
    (other : isBlank c = false) : (blanks ++ c :: tail).dropWhile isBlank = c :: tail :=
  (word_split blank (by simpa using other)).2

theorem digit_plain {c : U8} (digit : isDigitOf 10 c = true) :
    isBlank c = false ∧ isEol c = false := by
  constructor
  · cases blank : isBlank c with
    | false => rfl
    | true =>
      unfold isBlank at blank
      simp only [Bool.or_eq_true, decide_eq_true_eq] at blank
      rcases blank with rfl | rfl <;> exact absurd digit (by decide)
  · cases ends : isEol c with
    | false => rfl
    | true =>
      unfold isEol at ends
      simp only [Bool.or_eq_true, decide_eq_true_eq] at ends
      rcases ends with (rfl | rfl) | rfl <;> exact absurd digit (by decide)

theorem noCr_text {reject : R} {next : Scan R} {blanks tail : List U8} {c : U8}
    (blank : AllBlank blanks) (plain : isBlank c = false) (goesOn : isEol c = false) :
    noCr reject next (blanks ++ c :: tail) = next (c :: tail) := by
  unfold noCr skipBlanks
  simp only [blanks_split blank plain, List.headD_cons, goesOn, if_neg Bool.false_ne_true]

theorem Numbers.lenient {gap : List U8 → Prop} (numbers : Numbers gap text ns last) :
    Numbers Anything text ns last := by
  induction numbers with
  | none text => exact .none text
  | next blank _ numeral _ ih => exact .next blank trivial numeral ih

theorem Letters.lenient {gap : List U8 → Prop} {type : MsgType} {flags : U32}
    (letters : Letters gap text type flags rest) : Letters Anything text type flags rest := by
  obtain ⟨before, between, kind, format, kindFlags, format_, blank, blank', -, found⟩ := letters
  exact ⟨before, between, kind, format, kindFlags, format_, blank, blank', trivial, found⟩

theorem Numbers.append {gap : List U8 → Prop} {ms : List Nat} (first : Numbers gap text [n] rest)
    (others : Numbers gap rest ms last) : Numbers gap text (n :: ms) last := by
  cases first with
  | next blank gap numeral nothing =>
    cases nothing
    exact .next blank gap numeral others

variable {reject : R} {next : Option U32 → Scan R}

theorem Numbers.step (numbers : Numbers Anything text (n :: ns) last) :
    ∃ rest, Numbers Anything rest ns last ∧
      noCr reject (scanUnsignedNumber next) text = next (some (BitVec.ofNat 32 n)) rest := by
  cases numbers with
  | @next blanks text rest _ _ _ blank _ numeral others =>
    obtain ⟨first, tail, rfl, digit⟩ := numeral.digit
    obtain ⟨plain, goesOn⟩ := digit_plain digit
    refine ⟨rest, others, ?_⟩
    rw [noCr_text blank plain goesOn, numeral.scan]

theorem Stray.step (stray : Stray text) :
    ∃ rest, noCr reject (scanUnsignedNumber next) text = next none rest := by
  obtain ⟨blanks, c, tail, blank, rfl, plain, goesOn, other⟩ := stray
  refine ⟨c :: tail, ?_⟩
  rw [noCr_text blank plain goesOn, scan_nothing other]

def EndsHere (text : List U8) : Prop := isEol ((text.dropWhile isBlank).headD 0) = true

theorem EndsHere.step (ends : EndsHere text) :
    noCr reject (scanUnsignedNumber next) text = reject := by
  unfold noCr skipBlanks
  exact if_pos ends

theorem EndsHere.no_number (ends : EndsHere text) : ¬Numbers Anything text (n :: ns) last := by
  intro numbers
  cases numbers with
  | @next blanks text rest _ _ _ blank _ numeral _ =>
    obtain ⟨first, tail, rfl, digit⟩ := numeral.digit
    obtain ⟨plain, goesOn⟩ := digit_plain digit
    unfold EndsHere at ends
    rw [blanks_split blank plain, List.headD_cons, goesOn] at ends
    cases ends

theorem Stray.no_number (stray : Stray text) : ¬Numbers Anything text (n :: ns) last := by
  intro numbers
  obtain ⟨blanks, c, tail, blank, rfl, plain, -, other⟩ := stray
  generalize whole : blanks ++ c :: tail = text at numbers
  cases numbers with
  | @next blanks' text rest _ _ _ blank' _ numeral _ =>
    obtain ⟨first, tail', rfl, digit⟩ := numeral.digit
    have stripped := @blanks_split _ tail' _ blank' (digit_plain digit).1
    rw [← whole, blanks_split blank plain] at stripped
    obtain ⟨rfl, -⟩ := List.cons.inj stripped
    rw [digit] at other
    cases other

theorem number_cases (text : List U8) :
    EndsHere text ∨ Stray text ∨ ∃ n rest, Numbers Anything text [n] rest := by
  obtain ⟨blanks, tail, rfl, blank, ends⟩ := word_exists isBlank text
  cases tail with
  | nil =>
    refine .inl ?_
    have none : (blanks ++ []).dropWhile isBlank = [] := (word_split blank (by simp)).2
    unfold EndsHere
    rw [none]
    rfl
  | cons c tail =>
    have plain := ends c rfl
    cases goesOn : isEol c with
    | true =>
      refine .inl ?_
      unfold EndsHere
      rw [blanks_split blank plain, List.headD_cons, goesOn]
    | false =>
      cases digit : isDigitOf 10 c with
      | false => exact .inr (.inl ⟨blanks, c, tail, blank, rfl, plain, goesOn, digit⟩)
      | true =>
        obtain ⟨n, rest, numeral⟩ := numeral_exists digit tail
        exact .inr (.inr ⟨n, rest, .next blank trivial numeral (.none rest)⟩)

end Steps

section Refusals
variable {text rest last : List U8} {pf : ParsedMsg} {ns : List Nat} {n left : Nat}

theorem tooLarge_iff (n : Nat) (limit : U32) :
    limit < BitVec.ofNat 32 n ↔ ¬n % 2 ^ 32 ≤ limit.toNat := by
  rw [BitVec.lt_def, BitVec.toNat_ofNat, Nat.not_le]

theorem parseData_step (numbers : Numbers Anything text (n :: ns) last) :
    ∃ rest, Numbers Anything rest ns last ∧ parseData (left + 1) pf text =
      if 255 < BitVec.ofNat 32 n then (0, pf)
      else parseData left { pf with data := pf.data ++ [(BitVec.ofNat 32 n).setWidth 8] } rest := by
  obtain ⟨rest, others, step⟩ := numbers.step
  refine ⟨rest, others, step.trans ?_⟩
  by_cases large : (255 : U32) < BitVec.ofNat 32 n
  · simp only [if_pos large]
  · simp only [if_neg large]

theorem parseData_stray (stray : Stray text) :
    parseData (left + 1) pf text = (-erange, pf) := by
  obtain ⟨rest, step⟩ := stray.step
  exact step

theorem parseData_numbers (numbers : Numbers Anything text ns last) (few : ns.length ≤ left)
    (range : ∀ d ∈ ns, d % 2 ^ 32 ≤ 255) :
    parseData left pf text = parseData (left - ns.length)
      { pf with data := pf.data ++ ns.map fun d => (BitVec.ofNat 32 d).setWidth 8 } last := by
  induction ns generalizing text left pf with
  | nil =>
    cases numbers
    rw [List.map_nil, List.append_nil]
    rfl
  | cons d ns ih =>
    rw [List.length_cons] at few
    obtain ⟨left, rfl⟩ : ∃ k, left = k + 1 := ⟨left - 1, by omega⟩
    have small : ¬(255 : U32) < BitVec.ofNat 32 d := by
      rw [tooLarge_iff, not_not]
      exact range d List.mem_cons_self
    obtain ⟨rest, others, step⟩ := @parseData_step text last pf ns d left numbers
    rw [step, if_neg small, ih others (by omega) fun e member =>
      range e (List.mem_cons_of_mem d member), List.length_cons, Nat.add_sub_add_right,
      List.map_cons, List.append_assoc, List.singleton_append]

theorem parseData_refused_iff : (parseData left pf text).1 ≠ 0 ↔
    ∃ ns last, Numbers Anything text ns last ∧ ns.length < left ∧ (∀ d ∈ ns, d % 2 ^ 32 ≤ 255) ∧
      Stray last := by
  constructor
  · intro refused
    induction left generalizing text pf with
    | zero => exact absurd rfl refused
    | succ left ih =>
      rcases number_cases text with ends | stray | ⟨d, rest, number⟩
      · have zero : parseData (left + 1) pf text = (0, pf) := ends.step
        rw [zero] at refused
        exact absurd rfl refused
      · exact ⟨[], text, .none text, Nat.succ_pos left, by simp, stray⟩
      · obtain ⟨rest', others, step⟩ := @parseData_step text rest pf [] d left number
        cases others
        rw [step] at refused
        by_cases large : (255 : U32) < BitVec.ofNat 32 d
        · rw [if_pos large] at refused
          exact absurd rfl refused
        · rw [if_neg large] at refused
          obtain ⟨ns, last, numbers, few, range, stray⟩ := ih refused
          rw [tooLarge_iff, not_not] at large
          refine ⟨d :: ns, last, number.append numbers, Nat.succ_lt_succ few, ?_, stray⟩
          intro e member
          rcases List.mem_cons.mp member with rfl | member
          · exact large
          · exact range e member
  · rintro ⟨ns, last, numbers, few, range, stray⟩
    obtain ⟨k, more⟩ : ∃ k, left - ns.length = k + 1 := ⟨left - ns.length - 1, by omega⟩
    have wrong : -erange ≠ 0 := by decide
    rw [parseData_numbers numbers (Nat.le_of_lt few) range, more, parseData_stray stray]
    exact wrong

theorem parseLength_step (numbers : Numbers Anything text (n :: ns) last) :
    ∃ rest, Numbers Anything rest ns last ∧ parseLength pf text =
      if 64 < BitVec.ofNat 32 n then (0, pf)
      else parseData (BitVec.ofNat 32 n).toNat
        { pf with dataLen := some ((BitVec.ofNat 32 n).setWidth 16) } rest := by
  obtain ⟨rest, others, step⟩ := numbers.step
  refine ⟨rest, others, step.trans ?_⟩
  by_cases large : (64 : U32) < BitVec.ofNat 32 n
  · simp only [if_pos large]
  · simp only [if_neg large]

theorem parseLength_refused_iff : (parseLength pf text).1 ≠ 0 ↔ Stray text ∨
    ∃ length ns last, Numbers Anything text (length :: ns) last ∧ length % 2 ^ 32 ≤ 64 ∧
      ns.length < length % 2 ^ 32 ∧ (∀ d ∈ ns, d % 2 ^ 32 ≤ 255) ∧ Stray last := by
  have limit : (64 : U32).toNat = 64 := rfl
  constructor
  · intro refused
    rcases number_cases text with ends | stray | ⟨length, rest, number⟩
    · have zero : parseLength pf text = (0, pf) := ends.step
      rw [zero] at refused
      exact absurd rfl refused
    · exact .inl stray
    · obtain ⟨rest', others, step⟩ := @parseLength_step text rest pf [] length number
      cases others
      rw [step] at refused
      by_cases large : (64 : U32) < BitVec.ofNat 32 length
      · rw [if_pos large] at refused
        exact absurd rfl refused
      · rw [if_neg large] at refused
        obtain ⟨ns, last, numbers, few, range, stray⟩ := parseData_refused_iff.mp refused
        rw [tooLarge_iff, not_not] at large
        rw [BitVec.toNat_ofNat] at few
        exact .inr ⟨length, ns, last, number.append numbers, large, few, range, stray⟩
  · rintro (stray | ⟨length, ns, last, numbers, small, few, range, stray⟩)
    · have wrong : -erange ≠ 0 := by decide
      obtain ⟨rest, step⟩ := stray.step
      have answer : parseLength pf text = (-erange, pf) := step
      rw [answer]
      exact wrong
    · obtain ⟨rest, others, step⟩ := @parseLength_step text last pf ns length numbers
      have large : ¬(64 : U32) < BitVec.ofNat 32 length := by
        rw [tooLarge_iff, not_not]
        exact small
      rw [step, if_neg large, parseData_refused_iff, BitVec.toNat_ofNat]
      exact ⟨ns, last, others, few, range, stray⟩

def idTooLarge (flags id : U32) : Prop :=
  if flags &&& pcanfdMsgExt ≠ 0 then 0x3fffffff < id else 2047 < id

instance (flags id : U32) : Decidable (idTooLarge flags id) := by
  unfold idTooLarge
  infer_instance

theorem idTooLarge_iff (flags : U32) (id : Nat) : ¬idTooLarge flags (BitVec.ofNat 32 id) ↔
    id % 2 ^ 32 ≤ if flags &&& pcanfdMsgExt ≠ 0 then 0x3fffffff else 0x7ff := by
  unfold idTooLarge
  by_cases extended : flags &&& pcanfdMsgExt ≠ 0
  · rw [if_pos extended, if_pos extended, tooLarge_iff, not_not]
    rfl
  · rw [if_neg extended, if_neg extended, tooLarge_iff, not_not]
    rfl

theorem parseId_step (numbers : Numbers Anything text (n :: ns) last) :
    ∃ rest, Numbers Anything rest ns last ∧ parseId pf text =
      if idTooLarge pf.flags (BitVec.ofNat 32 n) then
        (0, { pf with id := some (BitVec.ofNat 32 n) })
      else parseLength { pf with id := some (BitVec.ofNat 32 n) } rest := by
  obtain ⟨rest, others, step⟩ := numbers.step
  refine ⟨rest, others, step.trans ?_⟩
  by_cases large : idTooLarge pf.flags (BitVec.ofNat 32 n)
  · rw [if_pos large]
    unfold idTooLarge at large
    simp only [if_pos large]
  · rw [if_neg large]
    unfold idTooLarge at large
    simp only [if_neg large]

theorem parseId_refused_iff : (parseId pf text).1 ≠ 0 ↔ (¬∃ n last, Numbers Anything text [n] last) ∨
    ∃ ns last, Numbers Anything text ns last ∧ InRangeSoFar pf.flags ns ∧ Stray last := by
  constructor
  · intro refused
    rcases number_cases text with ends | stray | ⟨id, rest, number⟩
    · exact .inl fun ⟨n, last, number⟩ => ends.no_number number
    · exact .inl fun ⟨n, last, number⟩ => stray.no_number number
    · obtain ⟨rest', others, step⟩ := @parseId_step text rest pf [] id number
      cases others
      rw [step] at refused
      by_cases large : idTooLarge pf.flags (BitVec.ofNat 32 id)
      · rw [if_pos large] at refused
        exact absurd rfl refused
      · rw [if_neg large] at refused
        rw [idTooLarge_iff] at large
        rcases parseLength_refused_iff.mp refused with
          stray | ⟨length, ns, last, numbers, small, few, range, stray⟩
        · exact .inr ⟨[id], rest, number, large, stray⟩
        · exact .inr ⟨id :: length :: ns, last, number.append numbers, ⟨large, small, few, range⟩,
            stray⟩
  · rintro (nothing | ⟨ns, last, numbers, range, stray⟩)
    · have wrong : -einval ≠ 0 ∧ -erange ≠ 0 := by decide
      rcases number_cases text with ends | stray | ⟨id, rest, number⟩
      · have answer : parseId pf text = (-einval, pf) := ends.step
        rw [answer]
        exact wrong.1
      · obtain ⟨rest, step⟩ := stray.step
        have answer : parseId pf text = (-erange, pf) := step
        rw [answer]
        exact wrong.2
      · exact absurd ⟨id, rest, number⟩ nothing
    · match ns, range with
      | [id], small =>
        obtain ⟨rest, others, step⟩ := @parseId_step text last pf [] id numbers
        cases others
        rw [step, if_neg ((idTooLarge_iff _ _).mpr small), parseLength_refused_iff]
        exact .inl stray
      | id :: length :: ns, ⟨small, short, few, data⟩ =>
        obtain ⟨rest, others, step⟩ := @parseId_step text last pf (length :: ns) id numbers
        rw [step, if_neg ((idTooLarge_iff _ _).mpr small), parseLength_refused_iff]
        exact .inr ⟨length, ns, last, others, short, few, data, stray⟩

end Refusals

section Lines
variable {text rest : List U8} {type : MsgType} {flags : U32}

theorem kind_plain {c : U8} {kind : MsgType × U32} (known : messageKind c = some kind) :
    isBlank c = false := by
  cases blank : isBlank c with
  | false => rfl
  | true =>
    unfold isBlank at blank
    simp only [Bool.or_eq_true, decide_eq_true_eq] at blank
    rcases blank with rfl | rfl <;> cases known

theorem format_plain {c : U8} {flag : U32} (known : formatFlag c = some flag) :
    isBlank c = false ∧ isEol c = false := by
  unfold formatFlag at known
  split at known
  next format =>
    rw [format]
    decide
  next =>
    split at known
    next format =>
      rw [format]
      decide
    next => cases known

theorem Letters.parse (letters : Letters Anything text type flags rest) :
    pcanParseInputMessage text = parseId ⟨type, flags, none, none, []⟩ rest := by
  obtain ⟨before, between, kind, format, kindFlags, flag, blank, blank', -, rfl, known, known', rfl⟩ :=
    letters
  obtain ⟨plain, goesOn⟩ := format_plain known'
  unfold pcanParseInputMessage skipBlanks scanChar
  simp only [blanks_split blank (kind_plain known), List.headD_cons, List.tail_cons, known]
  unfold parseFormat
  rw [noCr_text blank' plain goesOn]
  unfold scanChar
  rw [List.headD_cons, List.tail_cons]
  dsimp only
  unfold formatFlag at known'
  split at known'
  next format =>
    obtain rfl := Option.some.inj known'
    rw [if_pos format]
  next other =>
    split at known'
    next format =>
      obtain rfl := Option.some.inj known'
      have same : kindFlags ||| (0 : U32) = kindFlags := BitVec.or_zero
      rw [if_neg other, if_pos format, same]
    next => cases known'

theorem Letters.unique {type' : MsgType} {flags' : U32} {rest' : List U8}
    (letters : Letters Anything text type flags rest)
    (letters' : Letters Anything text type' flags' rest') :
    type = type' ∧ flags = flags' ∧ rest = rest' := by
  obtain ⟨before, between, kind, format, kindFlags, flag, blank, gap, -, rfl, known, form, rfl⟩ :=
    letters
  obtain ⟨before', between', kind', format', kindFlags', flag', blank', gap', -, same, known', form',
    rfl⟩ := letters'
  have first := congrArg (List.dropWhile isBlank) same
  rw [blanks_split blank (kind_plain known), blanks_split blank' (kind_plain known')] at first
  obtain ⟨rfl, second⟩ := List.cons.inj first
  have third := congrArg (List.dropWhile isBlank) second
  rw [blanks_split gap (format_plain form).1, blanks_split gap' (format_plain form').1] at third
  obtain ⟨rfl, rfl⟩ := List.cons.inj third
  obtain ⟨rfl, rfl⟩ := Prod.mk.inj (Option.some.inj (known.symm.trans known'))
  obtain rfl := Option.some.inj (form.symm.trans form')
  exact ⟨rfl, rfl, rfl⟩

theorem letters_cases (text : List U8) :
    (∃ type flags rest, Letters Anything text type flags rest) ∨
      (pcanParseInputMessage text).1 = -einval := by
  obtain ⟨before, tail, rfl, blank, ends⟩ := word_exists isBlank text
  unfold pcanParseInputMessage skipBlanks scanChar
  rw [(word_split blank ends).2]
  cases known : messageKind (tail.headD 0) with
  | none =>
    refine .inr ?_
    simp only [known]
  | some found =>
    obtain ⟨type, kindFlags⟩ := found
    obtain ⟨kind, tail, rfl⟩ : ∃ c rest, tail = c :: rest := by
      cases tail with
      | nil => cases known
      | cons c rest => exact ⟨c, rest, rfl⟩
    simp only [known, List.tail_cons]
    rw [List.headD_cons] at known
    obtain ⟨between, tail, rfl, blank', ends'⟩ := word_exists isBlank tail
    unfold parseFormat noCr skipBlanks scanChar
    rw [(word_split blank' ends').2]
    dsimp only
    cases goesOn : isEol (tail.headD 0) with
    | true => exact .inr rfl
    | false =>
      obtain ⟨format, rest, rfl⟩ : ∃ c rest, tail = c :: rest := by
        cases tail with
        | nil => cases goesOn
        | cons c rest => exact ⟨c, rest, rfl⟩
      rw [List.headD_cons, List.tail_cons, if_neg Bool.false_ne_true]
      cases form : formatFlag format with
      | some flag =>
        exact .inl ⟨type, kindFlags ||| flag, rest, before, between, _, format, kindFlags, flag,
          blank, blank', trivial, rfl, known, form, rfl⟩
      | none =>
        unfold formatFlag at form
        split at form
        next => cases form
        next other =>
        split at form
        next => cases form
        next other' =>
          rw [if_neg other, if_neg other']
          exact .inr rfl

theorem refused_iff : (pcanParseInputMessage text).1 ≠ 0 ↔ OpenlyWrong text := by
  have wrong : -einval ≠ 0 := by decide
  constructor
  · intro refused
    rcases letters_cases text with ⟨type, flags, rest, letters⟩ | -
    · rw [letters.parse] at refused
      rcases parseId_refused_iff.mp refused with nothing | ⟨ns, last, numbers, range, stray⟩
      · refine .inl ?_
        rintro ⟨type', flags', rest', n, last, letters', number⟩
        obtain ⟨-, -, rfl⟩ := letters.unique letters'
        exact nothing ⟨n, last, number⟩
      · exact .inr ⟨type, flags, rest, ns, last, letters, numbers, range, stray⟩
    · by_cases some_ : ∃ type flags rest n last, Letters Anything text type flags rest ∧
          Numbers Anything rest [n] last
      · obtain ⟨type, flags, rest, n, last, letters, number⟩ := some_
        rw [letters.parse] at refused
        rcases parseId_refused_iff.mp refused with nothing | ⟨ns, last, numbers, range, stray⟩
        · exact absurd ⟨n, last, number⟩ nothing
        · exact .inr ⟨type, flags, rest, ns, last, letters, numbers, range, stray⟩
      · exact .inl some_
  · rintro (nothing | ⟨type, flags, rest, ns, last, letters, numbers, range, stray⟩)
    · rcases letters_cases text with ⟨type, flags, rest, letters⟩ | refused
      · rw [letters.parse, parseId_refused_iff]
        exact .inl fun ⟨n, last, number⟩ => nothing ⟨type, flags, rest, n, last, letters, number⟩
      · rw [refused]
        exact wrong
    · rw [letters.parse, parseId_refused_iff]
      exact .inr ⟨ns, last, numbers, range, stray⟩

theorem MessageLine.parse {m : LineMessage} (written : MessageLine text m) :
    pcanParseInputMessage text = (0, m.parsed) := by
  obtain ⟨⟨rest, last, letters, numbers⟩, id, length, data⟩ := written
  have number (n : Nat) (small : n ≤ 0x3fffffff) : n % 2 ^ 32 = n := Nat.mod_eq_of_lt (by omega)
  have idSmall : m.id ≤ 0x1fffffff := by
    split at id <;> omega
  have inRange : ¬idTooLarge m.flags (BitVec.ofNat 32 m.id) := by
    rw [idTooLarge_iff, number m.id (by omega)]
    split at id
    next extended =>
      rw [if_pos extended]
      omega
    next standard =>
      rw [if_neg standard]
      omega
  have short : ¬(64 : U32) < BitVec.ofNat 32 m.data.length := by
    rw [tooLarge_iff, not_not, number _ (by omega)]
    exact length
  have bytes : ∀ d ∈ m.data, d % 2 ^ 32 ≤ 255 := by
    intro d member
    have small := data d member
    rw [number d (by omega)]
    exact small
  have count : (BitVec.ofNat 32 m.data.length).toNat = m.data.length := by
    rw [BitVec.toNat_ofNat, number _ (by omega)]
  have narrow (n : Nat) (small : n ≤ 255) (w : Nat) (wide : 8 ≤ w) :
      (BitVec.ofNat 32 n).setWidth w = BitVec.ofNat w n := by
    have room : 2 ^ 8 ≤ 2 ^ w := Nat.pow_le_pow_right (by decide) wide
    apply BitVec.eq_of_toNat_eq
    rw [BitVec.toNat_setWidth, BitVec.toNat_ofNat, BitVec.toNat_ofNat, number n (by omega)]
  obtain ⟨rest1, numbers, idStep⟩ :=
    @parseId_step _ _ ⟨m.type, m.flags, none, none, []⟩ _ _ numbers.lenient
  obtain ⟨rest2, numbers, lengthStep⟩ :=
    @parseLength_step _ _ ⟨m.type, m.flags, some (BitVec.ofNat 32 m.id), none, []⟩ _ _ numbers
  rw [letters.lenient.parse, idStep, if_neg inRange, lengthStep, if_neg short, count,
    parseData_numbers numbers Nat.le.refl bytes, Nat.sub_self, List.nil_append,
    narrow _ (by omega) 16 (by decide)]
  have same : m.data.map (fun d => (BitVec.ofNat 32 d).setWidth 8) = m.data.map (BitVec.ofNat 8) :=
    List.map_congr_left fun d member => narrow d (data d member) 8 Nat.le.refl
  rw [same]
  rfl

/-- The parser keeps to the grammar exactly on the lines of the grammar and on those that are
    wrong in a way that it sees. -/
theorem parses_grammar_iff (line tail : List U8) :
    ParsesGrammar (line ++ newline :: tail) ↔
      (∃ m, MessageLine (line ++ newline :: tail) m) ∨ OpenlyWrong (line ++ newline :: tail) := by
  generalize line ++ newline :: tail = text
  constructor
  · intro parses
    by_cases accepted : (pcanParseInputMessage text).1 = 0
    · exact .inl (parses.1.mp accepted)
    · exact .inr (refused_iff.mp accepted)
  · rintro (⟨m, written⟩ | refused)
    · refine ⟨iff_of_true ?_ ⟨m, written⟩, fun m' written' => written'.parse⟩
      rw [written.parse]
    · have nonzero := refused_iff.mpr refused
      have none : ¬∃ m, MessageLine text m := by
        rintro ⟨m, written⟩
        rw [written.parse] at nonzero
        exact nonzero rfl
      exact ⟨iff_of_false nonzero none, fun m written => absurd ⟨m, written⟩ none⟩

end Lines

section Samples

/-- A line that ends behind the id is accepted, and so is an id of 12 bits; neither has a length. -/
theorem unset_length_accepted :
    ¬ParsesGrammar (ascii "m s 0x123" ++ newline :: []) ∧
      ¬ParsesGrammar (ascii "m s 0x800 0" ++ newline :: []) := by
  have unset (text : List U8) (answer : (pcanParseInputMessage text).1 = 0 ∧
      (pcanParseInputMessage text).2.dataLen = none) : ¬ParsesGrammar text := by
    rintro ⟨accepts, -⟩
    obtain ⟨m, written⟩ := accepts.mp answer.1
    rw [written.parse] at answer
    cases answer.2
  exact ⟨unset _ (by decide), unset _ (by decide)⟩

end Samples

end PcanDriver

import PcanDriver.TextParse

/-!
The numbers in a line as C writes them, apart from how they are scanned.
-/
namespace PcanDriver
open LineText

section Statement

def numeralValue (base : Nat) (digits : List U8) : Nat :=
  digits.foldl (fun n c => n * base + (digitVal c).getD 0) 0

def Digits (base : Nat) (digits rest : List U8) : Prop :=
  (∀ c ∈ digits, isDigitOf base c = true) ∧ ∀ c ∈ rest.head?, isDigitOf base c = false

inductive Numeral : List U8 → Nat → List U8 → Prop
  | hex {mark : U8} {digits rest : List U8} : mark ||| 0x20 = chr 'x' → digits ≠ [] →
      Digits 16 digits rest →
      Numeral (chr '0' :: mark :: (digits ++ rest)) (numeralValue 16 digits) rest
  | octal {digits rest : List U8} : hexPrefix (chr '0' :: (digits ++ rest)) = false →
      Digits 8 digits rest →
      Numeral (chr '0' :: (digits ++ rest)) (numeralValue 8 digits) rest
  | decimal {first : U8} {digits rest : List U8} : first ≠ chr '0' →
      Digits 10 (first :: digits) rest →
      Numeral (first :: digits ++ rest) (numeralValue 10 (first :: digits)) rest

end Statement

section Scanning
variable {R : Type} {next : Option U32 → Scan R} {text rest : List U8} {n : Nat}

theorem scanDigits_some {base : Nat} {digits : List U8} (number : Digits base digits rest)
    (some_ : digits ≠ []) :
    scanDigits base next (digits ++ rest) =
      next (some (BitVec.ofNat 32 (numeralValue base digits))) rest := by
  obtain ⟨taken, left⟩ := word_split number.1 number.2
  unfold scanDigits
  simp only [taken, left, if_neg some_]
  rfl

/-- `hexPrefix` sees the digit behind the mark. -/
theorem hexPrefix_marked {mark : U8} {digits : List U8} (marked : mark ||| 0x20 = chr 'x')
    (some_ : digits ≠ []) (number : Digits 16 digits rest) :
    hexPrefix (chr '0' :: mark :: (digits ++ rest)) = true := by
  obtain ⟨c, digits, rfl⟩ := List.exists_cons_of_ne_nil some_
  have digit := number.1 c List.mem_cons_self
  simp only [hexPrefix, List.headD_cons, List.drop_succ_cons, List.drop_zero, List.cons_append,
    marked, digit, decide_true, Bool.and_true]

theorem Numeral.scan (numeral : Numeral text n rest) :
    scanUnsignedNumber next text = next (some (BitVec.ofNat 32 n)) rest := by
  cases numeral with
  | hex marked some_ number =>
    unfold scanUnsignedNumber
    rw [if_pos (hexPrefix_marked marked some_ number)]
    exact scanDigits_some number some_
  | @octal digits rest unmarked number =>
    have zero : isDigitOf 8 (chr '0') = true := by decide
    have whole : Digits 8 (chr '0' :: digits) rest := by
      refine ⟨?_, number.2⟩
      intro c member
      rcases List.mem_cons.mp member with rfl | member
      · exact zero
      · exact number.1 c member
    have same : numeralValue 8 (chr '0' :: digits) = numeralValue 8 digits := rfl
    unfold scanUnsignedNumber
    rw [unmarked, if_neg Bool.false_ne_true, List.headD_cons, if_pos rfl, ← List.cons_append,
      scanDigits_some whole (List.cons_ne_nil _ _), same]
  | @decimal first digits rest nonzero number =>
    have unmarked : hexPrefix (first :: digits ++ rest) = false := by
      simp only [hexPrefix, List.cons_append, List.headD_cons, nonzero, decide_false,
        Bool.false_and]
    unfold scanUnsignedNumber
    rw [unmarked, if_neg Bool.false_ne_true, List.cons_append, List.headD_cons, if_neg nonzero,
      ← List.cons_append, scanDigits_some number (List.cons_ne_nil _ _)]

theorem numeral_exists {first : U8} (digit : isDigitOf 10 first = true) (tail : List U8) :
    ∃ n rest, Numeral (first :: tail) n rest := by
  by_cases zero : first = chr '0'
  · subst zero
    cases marked : hexPrefix (chr '0' :: tail) with
    | true =>
      cases tail with
      | nil => cases marked
      | cons mark tail =>
        simp only [hexPrefix, List.headD_cons, List.drop_succ_cons, List.drop_zero,
          Bool.and_eq_true, decide_eq_true_eq] at marked
        obtain ⟨⟨-, mark_⟩, digit⟩ := marked
        obtain ⟨digits, rest, rfl, each, ends⟩ := word_exists (isDigitOf 16) tail
        refine ⟨_, rest, .hex mark_ ?_ ⟨each, ends⟩⟩
        rintro rfl
        cases rest with
        | nil => exact absurd digit (by decide)
        | cons c rest =>
          have stops := ends c rfl
          rw [List.nil_append, List.headD_cons, stops] at digit
          cases digit
    | false =>
      obtain ⟨digits, rest, rfl, each, ends⟩ := word_exists (isDigitOf 8) tail
      exact ⟨_, rest, .octal marked ⟨each, ends⟩⟩
  · obtain ⟨digits, rest, rfl, each, ends⟩ := word_exists (isDigitOf 10) tail
    refine ⟨_, rest, .decimal zero ⟨?_, ends⟩⟩
    intro c member
    rcases List.mem_cons.mp member with rfl | member
    · exact digit
    · exact each c member

theorem scan_nothing {c : U8} (other : isDigitOf 10 c = false) (tail : List U8) :
    scanUnsignedNumber next (c :: tail) = next none (c :: tail) := by
  have nonzero : c ≠ chr '0' := by
    rintro rfl
    exact absurd other (by decide)
  have unmarked : hexPrefix (c :: tail) = false := by
    simp only [hexPrefix, List.headD_cons, nonzero, decide_false, Bool.false_and]
  unfold scanUnsignedNumber
  rw [unmarked, if_neg Bool.false_ne_true, List.headD_cons, if_neg nonzero]
  unfold scanDigits
  simp only [List.takeWhile_cons, List.dropWhile_cons, other, Bool.false_eq_true, if_false, if_true]

theorem Numeral.taken (numeral : Numeral text n rest) :
    ∃ taken, newline ∉ taken ∧ text = taken ++ rest := by
  have digits {base : Nat} {taken : List U8} (number : Digits base taken rest) :
      newline ∉ taken := by
    intro member
    have digit := number.1 _ member
    have none : isDigitOf base newline = false := rfl
    rw [none] at digit
    cases digit
  cases numeral with
  | @hex mark taken _ marked some_ number =>
    refine ⟨chr '0' :: mark :: taken, ?_, rfl⟩
    simp only [List.mem_cons, not_or]
    refine ⟨by decide, ?_, digits number⟩
    rintro rfl
    exact absurd marked (by decide)
  | @octal taken _ unmarked number =>
    refine ⟨chr '0' :: taken, ?_, rfl⟩
    simp only [List.mem_cons, not_or]
    exact ⟨by decide, digits number⟩
  | @decimal first taken _ nonzero number => exact ⟨first :: taken, digits number, rfl⟩

theorem Numeral.digit (numeral : Numeral text n rest) :
    ∃ first tail, text = first :: tail ∧ isDigitOf 10 first = true := by
  cases numeral with
  | hex => exact ⟨_, _, rfl, by decide⟩
  | octal => exact ⟨_, _, rfl, by decide⟩
  | decimal nonzero number => exact ⟨_, _, rfl, number.1 _ List.mem_cons_self⟩

end Scanning

end PcanDriver

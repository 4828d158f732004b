import PcanDriver.MessageGrammar

/-!
The line of a message (`pcan_make_output` of `pcan_parse.c`), and how much of a buffer it takes
to write it.
-/
namespace PcanDriver

section Source

def numeralText (base n : Nat) : List U8 := (Nat.toDigits base n).map chr

def padded (width : Nat) (fill : U8) (text : List U8) : List U8 :=
  List.replicate (width - text.length) fill ++ text

/-- The text that stands in a buffer and how much of the buffer has been written. -/
structure Output where
  text : List U8
  extent : Nat
deriving Repr, DecidableEq

/-- `sprintf` ends its text with a NUL that the next text replaces. -/
def Output.sprintf (o : Output) (text : List U8) : Output where
  text := o.text ++ text
  extent := max o.extent (o.text.length + text.length + 1)

def Output.put (o : Output) (c : U8) : Output where
  text := o.text ++ [c]
  extent := max o.extent (o.text.length + 1)

/-- `data[0..data_len)`. -/
def PcanfdMsg.dataBytes (pf : PcanfdMsg) : List U8 :=
  (List.range pf.dataLen.toNat).map fun i => (pf.data[i]?).getD 0

/-- `r_or_m` and `s_or_e`. -/
def lineLetters (pf : PcanfdMsg) : U8 × U8 :=
  match pf.type with
  | .status =>
    (chr 'x', if pf.flags &&& pcanfdErrorBus ≠ 0 then chr 'b'
      else if pf.flags &&& pcanfdErrorCtrlr ≠ 0 then chr 'c'
      else if pf.flags &&& pcanfdErrorInternal ≠ 0 then chr 'i'
      else chr 'x')
  | .can20Msg | .canfdMsg =>
    let rOrM :=
      if pf.flags &&& pcanfdMsgRtr ≠ 0 then chr 'r'
      else if pf.flags &&& pcanfdMsgBrs ≠ 0 then chr 'b'
      else chr 'm'
    (if pf.flags &&& pcanfdMsgSlf ≠ 0 then rOrM - 0x20 else rOrM,
      if pf.flags &&& pcanfdMsgExt ≠ 0 then chr 'e' else chr 's')
  | _ => (chr '?', chr '?')

/-- `"%c %c 0x%08x %2d  "`. -/
def lineHead (pf : PcanfdMsg) : List U8 :=
  (lineLetters pf).1 :: chr ' ' :: (lineLetters pf).2 :: ascii " 0x" ++
    padded 8 (chr '0') (numeralText 16 pf.id.toNat) ++ chr ' ' ::
    padded 2 (chr ' ') (numeralText 10 pf.dataLen.toNat) ++ ascii "  "

/-- `"0x%02x "`. -/
def dataText (d : U8) : List U8 :=
  ascii "0x" ++ padded 2 (chr '0') (numeralText 16 d.toNat) ++ [chr ' ']

def lineTime (tv : Timeval) : U32 × U32 :=
  let ms := BitVec.ofInt 32 (tv.tvUsec.tdiv 1000)
  (ms + BitVec.ofInt 32 (tv.tvSec * 1000), BitVec.ofInt 32 tv.tvUsec - ms * 1000)

/-- `" %11u %03u"`. -/
def timeText (tv : Timeval) : List U8 :=
  chr ' ' :: padded 11 (chr ' ') (numeralText 10 (lineTime tv).1.toNat) ++
    chr ' ' :: padded 3 (chr '0') (numeralText 10 (lineTime tv).2.toNat)

/-- Data are not printed for an RTR message. -/
def Output.sprintfData (o : Output) (pf : PcanfdMsg) : Output :=
  if pf.flags &&& pcanfdMsgRtr = 0 then
    pf.dataBytes.foldl (fun o d => o.sprintf (dataText d)) o
  else o

def Output.sprintfTime (o : Output) (pf : PcanfdMsg) : Output :=
  if pf.flags &&& pcanfdTimestamp ≠ 0 then o.sprintf (timeText pf.timestamp) else o

def pcanMakeOutput (pf : PcanfdMsg) : Output :=
  ((((Output.mk [] 0).sprintf (lineHead pf)).sprintfData pf).sprintfTime pf).put newline

end Source

section Lines

def lineBody (pf : PcanfdMsg) : List U8 :=
  (if pf.flags &&& pcanfdMsgRtr = 0 then pf.dataBytes.flatMap dataText else []) ++
    if pf.flags &&& pcanfdTimestamp ≠ 0 then timeText pf.timestamp else []

/-- So far no more is written than the text and its NUL. -/
def Output.Terminated (o : Output) : Prop := o.extent = o.text.length + 1

theorem Output.Terminated.sprintf {o : Output} (ends : o.Terminated) (text : List U8) :
    (o.sprintf text).Terminated := by
  unfold Output.Terminated at *
  simp only [Output.sprintf, List.length_append, ends]
  omega

theorem foldl_sprintf (ds : List U8) {o : Output} (ends : o.Terminated) :
    (ds.foldl (fun o d => o.sprintf (dataText d)) o).text = o.text ++ ds.flatMap dataText ∧
      (ds.foldl (fun o d => o.sprintf (dataText d)) o).Terminated := by
  induction ds generalizing o with
  | nil => exact ⟨(List.append_nil _).symm, ends⟩
  | cons d ds ih =>
    obtain ⟨text, ends⟩ := ih (ends.sprintf (dataText d))
    refine ⟨?_, ends⟩
    rw [List.foldl_cons, text, List.flatMap_cons, ← List.append_assoc]
    rfl

theorem sprintfBody (pf : PcanfdMsg) {o : Output} (ends : o.Terminated) :
    ((o.sprintfData pf).sprintfTime pf).text = o.text ++ lineBody pf ∧
      ((o.sprintfData pf).sprintfTime pf).Terminated := by
  have data : (o.sprintfData pf).text = o.text ++
      (if pf.flags &&& pcanfdMsgRtr = 0 then pf.dataBytes.flatMap dataText else []) ∧
      (o.sprintfData pf).Terminated := by
    unfold Output.sprintfData
    split
    next => exact foldl_sprintf _ ends
    next => exact ⟨(List.append_nil _).symm, ends⟩
  unfold Output.sprintfTime lineBody
  by_cases timed : pf.flags &&& pcanfdTimestamp ≠ 0
  · rw [if_pos timed, if_pos timed, ← List.append_assoc, ← data.1]
    exact ⟨rfl, data.2.sprintf _⟩
  · rw [if_neg timed, if_neg timed, List.append_nil]
    exact data

theorem makeOutput_spec (pf : PcanfdMsg) :
    (pcanMakeOutput pf).text = lineHead pf ++ lineBody pf ++ [newline] ∧
      (pcanMakeOutput pf).extent = (pcanMakeOutput pf).text.length := by
  have head : ((Output.mk [] 0).sprintf (lineHead pf)).Terminated := by
    simp only [Output.Terminated, Output.sprintf, List.nil_append, List.length_nil]
    omega
  obtain ⟨text, ends⟩ := sprintfBody pf head
  constructor
  · unfold pcanMakeOutput
    rw [Output.put, text]
    rfl
  · unfold pcanMakeOutput
    simp only [Output.put, List.length_append, List.length_singleton]
    exact max_eq_right (Nat.le_of_eq ends)

end Lines

section Numbers

theorem digitVal_digitChar : ∀ d < 16, digitVal (chr d.digitChar) = some d := by
  decide

theorem isDigitOf_digitChar {base d : Nat} (digit : d < base) (small : base ≤ 16) :
    isDigitOf base (chr d.digitChar) = true := by
  unfold isDigitOf
  rw [digitVal_digitChar d (by omega)]
  exact decide_eq_true digit

theorem numeralValue_append (base : Nat) (digits : List U8) (c : U8) :
    numeralValue base (digits ++ [c]) = numeralValue base digits * base + (digitVal c).getD 0 := by
  unfold numeralValue
  rw [List.foldl_append, List.foldl_cons, List.foldl_nil]

theorem numeralValue_zeros (base k : Nat) (digits : List U8) :
    numeralValue base (List.replicate k (chr '0') ++ digits) = numeralValue base digits := by
  induction k with
  | zero => rfl
  | succ k ih =>
    have zero : (digitVal (chr '0')).getD 0 = 0 := by decide
    unfold numeralValue at ih ⊢
    rw [List.replicate_succ, List.cons_append, List.foldl_cons, Nat.zero_mul, zero]
    exact ih

theorem numeralText_ne_nil (base n : Nat) : numeralText base n ≠ [] := by
  unfold numeralText
  exact fun none => Nat.toDigits_ne_nil (List.map_eq_nil_iff.mp none)

theorem numeralText_spec {base : Nat} (wide : 1 < base) (small : base ≤ 16) (n : Nat) :
    (∀ c ∈ numeralText base n, isDigitOf base c = true) ∧
      numeralValue base (numeralText base n) = n ∧
      (0 < n → ∀ c ∈ (numeralText base n).head?, c ≠ chr '0') := by
  induction n using Nat.base_induction base wide with
  | single d below =>
    have known := digitVal_digitChar d (by omega)
    unfold numeralText
    rw [Nat.toDigits_of_lt_base below, List.map_singleton]
    refine ⟨?_, ?_, ?_⟩
    · intro c member
      rw [List.mem_singleton.mp member]
      exact isDigitOf_digitChar below small
    · simp only [numeralValue, List.foldl_cons, List.foldl_nil, known, Option.getD_some]
      omega
    · rintro positive c ⟨⟩ zero
      have value := known.symm.trans (congrArg digitVal zero)
      have none : digitVal (chr '0') = some 0 := by decide
      rw [none] at value
      cases value
      exact Nat.lt_irrefl 0 positive
  | digit n d below positive ih =>
    obtain ⟨each, value, first⟩ := ih
    have split : numeralText base (base * n + d) = numeralText base n ++ [chr d.digitChar] := by
      unfold numeralText
      rw [← Nat.toDigits_append_toDigits wide positive below, Nat.toDigits_of_lt_base below,
        List.map_append, List.map_singleton]
    rw [split]
    refine ⟨?_, ?_, fun _ => ?_⟩
    · intro c member
      rcases List.mem_append.mp member with member | member
      · exact each c member
      · rw [List.mem_singleton.mp member]
        exact isDigitOf_digitChar below small
    · rw [numeralValue_append, value, digitVal_digitChar d (by omega), Option.getD_some,
        Nat.mul_comm]
    · rw [List.head?_append_of_ne_nil _ (numeralText_ne_nil base n)]
      exact first positive

theorem numeralText_length {base n k : Nat} (wide : 1 < base) (positive : 0 < k) :
    (numeralText base n).length ≤ k ↔ n < base ^ k := by
  unfold numeralText
  rw [List.length_map]
  exact Nat.length_toDigits_le_iff wide positive

theorem padded_digits {base : Nat} (wide : 1 < base) (small : base ≤ 16) (width n : Nat) :
    (∀ c ∈ padded width (chr '0') (numeralText base n), isDigitOf base c = true) ∧
      numeralValue base (padded width (chr '0') (numeralText base n)) = n := by
  obtain ⟨each, value, -⟩ := numeralText_spec wide small n
  unfold padded
  refine ⟨?_, (numeralValue_zeros _ _ _).trans value⟩
  intro c member
  rcases List.mem_append.mp member with member | member
  · rw [(List.mem_replicate.mp member).2]
    exact isDigitOf_digitChar (Nat.lt_trans Nat.one_pos wide) small
  · exact each c member

/-- `0x%0*x` with a blank behind it. -/
theorem hexText_numeral (width n : Nat) (rest : List U8) :
    Numeral (ascii "0x" ++ padded width (chr '0') (numeralText 16 n) ++ chr ' ' :: rest) n
      (chr ' ' :: rest) := by
  obtain ⟨each, value⟩ := @padded_digits 16 (by decide) Nat.le.refl width n
  have some_ : padded width (chr '0') (numeralText 16 n) ≠ [] := by
    unfold padded
    exact List.append_ne_nil_of_right_ne_nil _ (numeralText_ne_nil 16 n)
  have stops : ∀ c ∈ (chr ' ' :: rest).head?, isDigitOf 16 c = false := by
    rintro c ⟨⟩
    decide
  have numeral := @Numeral.hex (chr 'x') _ _ (by decide) some_ ⟨each, stops⟩
  rw [value] at numeral
  exact numeral

/-- `%d` with a blank behind it. -/
theorem decimalText_numeral (n : Nat) (rest : List U8) :
    Numeral (numeralText 10 n ++ chr ' ' :: rest) n (chr ' ' :: rest) := by
  obtain ⟨each, value, first⟩ := @numeralText_spec 10 (by decide) (by decide) n
  have stops (base : Nat) : ∀ c ∈ (chr ' ' :: rest).head?, isDigitOf base c = false := by
    rintro c ⟨⟩
    rfl
  rcases Nat.eq_zero_or_pos n with rfl | positive
  · have blank : decide ((chr ' ' ||| 0x20) = chr 'x') = false := by decide
    have unmarked : hexPrefix (chr '0' :: ([] ++ chr ' ' :: rest)) = false := by
      simp only [hexPrefix, List.nil_append, List.headD_cons, List.drop_succ_cons, List.drop_zero,
        blank, Bool.and_false, Bool.false_and]
    exact .octal unmarked ⟨fun _ member => absurd member List.not_mem_nil, stops 8⟩
  · obtain ⟨c, digits, split⟩ := List.exists_cons_of_ne_nil (numeralText_ne_nil 10 n)
    rw [split] at each value first ⊢
    have numeral := Numeral.decimal (first positive c rfl) ⟨each, stops 10⟩
    rw [value] at numeral
    exact numeral

end Numbers

end PcanDriver

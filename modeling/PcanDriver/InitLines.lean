import PcanDriver.InitStrings
import PcanDriver.MessageGrammar

/-!
The lines with settings as they are meant: a list of keys and values, then switches. Values are
numbers that may have a unit.
-/
namespace PcanDriver
open LineText

section Statement

/-- A decimal or a hexadecimal number at the start of a text, and what follows it. -/
inductive PlainNumber : List U8 → Nat → List U8 → Prop
  | hex {mark : U8} {digits rest : List U8} : mark ||| 0x20 = chr 'x' → digits ≠ [] →
      Digits 16 digits rest →
      PlainNumber (chr '0' :: mark :: (digits ++ rest)) (numeralValue 16 digits) rest
  | decimal {digits rest : List U8} : digits ≠ [] → hexPrefix (digits ++ rest) = false →
      Digits 10 digits rest → PlainNumber (digits ++ rest) (numeralValue 10 digits) rest

inductive ValueText : List U8 → Nat → List U8 → Prop
  | plain {text rest : List U8} {n : Nat} : PlainNumber text n rest →
      (∀ c ∈ rest.head?, c ≠ chr 'k' ∧ c ≠ chr 'M') → ValueText text n rest
  | kilo {text rest : List U8} {n : Nat} : PlainNumber text n (chr 'k' :: rest) →
      ValueText text (n * 1000) rest
  | mega {text rest : List U8} {n : Nat} : PlainNumber text n (chr 'M' :: rest) →
      ValueText text (n * 1000000) rest

/-- A key with the text of its value: the value, without bounds, and what is behind it. -/
structure InitRecord where
  key : List U8
  text : List U8
  value : Nat
  trailing : List U8
  keyChars : ∀ c ∈ key, InRecord c
  textChars : ∀ c ∈ text, InRecord c ∧ c ≠ chr '='
  written : ValueText text value trailing

def InitRecord.Good (r : InitRecord) : Prop := r.trailing = [] ∧ r.value < 2 ^ 32

instance (r : InitRecord) : Decidable r.Good := inferInstanceAs (Decidable (_ ∧ _))

def InitRecord.chars (r : InitRecord) : List U8 := r.key ++ chr '=' :: r.text

def listText : List InitRecord → List U8
  | [] => []
  | [r] => r.chars
  | r :: more => r.chars ++ chr ',' :: listText more

/-- Switches with blanks before each, up to the end of the line. -/
inductive Switches : List U8 → List U8 → Prop
  | none {blanks tail : List U8} : AllBlank blanks → Switches (blanks ++ newline :: tail) []
  | next {blanks text switches : List U8} {c : U8} : AllBlank blanks → blanks ≠ [] →
      c ∈ [chr 's', chr 'e', chr 'l'] → Switches text switches →
      Switches (blanks ++ c :: text) (c :: switches)

def dataKeywords : List (List U8) :=
  [ascii "data_bitrate", ascii "data_brp", ascii "data_tseg1", ascii "data_tseg2",
    ascii "data_sjw"]

def initKeywords : List (List U8) :=
  [ascii "f_clock", ascii "nom_bitrate", ascii "nom_brp", ascii "nom_tseg1", ascii "nom_tseg2",
    ascii "nom_sjw"] ++ dataKeywords

def lastValue (records : List InitRecord) (key : List U8) : U32 :=
  BitVec.ofNat 32 (((records.filter (·.key = key)).getLast?.map (·.value)).getD 0)

/-- The settings with these values for the keywords and nothing else. -/
def settingsOf (flags : U32) (value : List U8 → U32) : PcanfdInit where
  flags := flags
  clockHz := value (ascii "f_clock")
  nominal :=
    { PcanBittiming.zero with
      bitrate := value (ascii "nom_bitrate")
      brp := value (ascii "nom_brp")
      tseg1 := value (ascii "nom_tseg1")
      tseg2 := value (ascii "nom_tseg2")
      sjw := value (ascii "nom_sjw") }
  data :=
    { PcanBittiming.zero with
      bitrate := value (ascii "data_bitrate")
      brp := value (ascii "data_brp")
      tseg1 := value (ascii "data_tseg1")
      tseg2 := value (ascii "data_tseg2")
      sjw := value (ascii "data_sjw") }

def initFlags (std listen fd : Bool) : U32 :=
  (if std then pcanfdInitStdMsgOnly else 0) ||| (if listen then pcanfdInitListenOnly else 0) |||
    (if fd then pcanfdInitFd else 0)

def lineSettings (records : List InitRecord) (switches : List U8) : PcanfdInit :=
  settingsOf (initFlags (chr 's' ∈ switches) (chr 'l' ∈ switches)
    (∃ key ∈ dataKeywords, lastValue records key ≠ 0)) (lastValue records)

structure InitRight (text : List U8) (records : List InitRecord) (switches : List U8) : Prop where
  accepted : (∀ r ∈ records, r.Good) →
    (pcanParseInputInitBuffer text).2 = some (lineSettings records switches)
  refused : (∃ r ∈ records, ¬r.Good) → (pcanParseInputInitBuffer text).2 = none
  buffer : (pcanParseInputInitBuffer text).1 = text

/-- Right behind the number, as C reads it, there is a character that is no unit. -/
def InitRecord.OpenlyWrong (r : InitRecord) : Prop :=
  ∃ n c rest, Numeral r.text n (c :: rest) ∧ c ≠ chr 'k' ∧ c ≠ chr 'M' ∧ c < 0x80

def OpenlyRefused (records : List InitRecord) : Prop :=
  ∃ r ∈ records, r.key = [] ∨ r.key ∈ initKeywords ∧ r.OpenlyWrong

/-- Digits behind a leading zero are octal ones; they must mean the same. -/
def InitRecord.SameInOctal (r : InitRecord) : Prop :=
  ∀ digits rest, r.text = chr '0' :: (digits ++ rest) → Digits 10 digits rest →
    numeralValue 8 digits = numeralValue 10 digits

/-- The lines on which the parser does what it must. One that starts with a digit is taken for a
    register word; the switches are looked for in the list. -/
def InitMeets (records : List InitRecord) (after switches : List U8) : Prop :=
  if isDigitOf 10 ((listText records).headD 0) = true then
    (∃ r ∈ records, ¬r.Good) ∧
      ∃ word rest, Numeral (listText records ++ after) word rest ∧ 0xffff < word % 2 ^ 32
  else if ∀ r ∈ records, r.Good then
    ¬OpenlyRefused records ∧
      (∀ key ∈ initKeywords, ∀ r ∈ (records.filter (·.key = key)).getLast?, r.SameInOctal) ∧
      ∀ c ∈ [chr 's', chr 'l'], c ∈ (listText records).take 2 ↔ c ∈ switches
  else OpenlyRefused records

end Statement

section Keywords

theorem settingsOf_eq_iff {flags flags' : U32} {value value' : List U8 → U32} :
    settingsOf flags value = settingsOf flags' value' ↔
      flags = flags' ∧ ∀ key ∈ initKeywords, value key = value' key := by
  unfold settingsOf initKeywords dataKeywords
  simp only [PcanfdInit.mk.injEq, PcanBittiming.mk.injEq, List.cons_append, List.nil_append,
    List.forall_mem_cons, and_true, true_and]
  constructor <;> intro same <;> simp_all

theorem bitrateKeyword_none {key : List U8} (unknown : key ∉ initKeywords) :
    bitrateKeyword key = none := by
  unfold initKeywords dataKeywords at unknown
  simp only [List.cons_append, List.nil_append, List.mem_cons, List.not_mem_nil, or_false,
    not_or] at unknown
  obtain ⟨h1, h2, h3, h4, h5, h6, h7, h8, h9, h10, h11⟩ := unknown
  unfold bitrateKeyword
  simp only [h1, h2, h3, h4, h5, h6, h7, h8, h9, h10, h11, if_false]

theorem bitrateKeyword_some {key : List U8} (known : key ∈ initKeywords) :
    ∃ set, bitrateKeyword key = some set ∧ ∀ flags value v,
      set (settingsOf flags value) v = settingsOf flags fun k => if k = key then v else value k := by
  unfold initKeywords dataKeywords at known
  simp only [List.cons_append, List.nil_append, List.mem_cons, List.not_mem_nil, or_false] at known
  rcases known with rfl | rfl | rfl | rfl | rfl | rfl | rfl | rfl | rfl | rfl | rfl
  all_goals
    refine ⟨_, rfl, fun flags value v => ?_⟩
    rfl

end Keywords

section Numbers
variable {text rest : List U8} {n : Nat}

theorem PlainNumber.digit (number : PlainNumber text n rest) :
    ∃ first tail, text = first :: tail ∧ isDigitOf 10 first = true := by
  cases number with
  | hex => exact ⟨_, _, rfl, by decide⟩
  | decimal some_ _ digits =>
    obtain ⟨first, tail, rfl⟩ := List.exists_cons_of_ne_nil some_
    exact ⟨first, _, rfl, digits.1 first List.mem_cons_self⟩

theorem ValueText.digit (value : ValueText text n rest) :
    ∃ first tail, text = first :: tail ∧ isDigitOf 10 first = true := by
  cases value with
  | plain number => exact number.digit
  | kilo number => exact number.digit
  | mega number => exact number.digit

theorem InitRecord.numeral (r : InitRecord) : ∃ n rest, Numeral r.text n rest := by
  obtain ⟨first, tail, text, digit⟩ := r.written.digit
  rw [text]
  exact numeral_exists digit tail

def withUnit (v : U32) : List U8 → Except U8 (Option U32)
  | [] => .ok (some v)
  | c :: _ =>
    if c = chr 'k' then .ok (some (v * 1000))
    else if c = chr 'M' then .ok (some (v * 1000000))
    else if c < 0x80 then .error c
    else .ok none

theorem strtounit_numeral (numeral : Numeral text n rest) :
    strtounit text = withUnit (BitVec.ofNat 32 n) rest := by
  unfold strtounit
  rw [numeral.scan]
  cases rest <;> rfl

theorem InitRecord.openlyWrong_iff (r : InitRecord) :
    r.OpenlyWrong ↔ ∃ c, strtounit r.text = .error c := by
  constructor
  · rintro ⟨n, c, rest, numeral, kilo, mega, plain⟩
    refine ⟨c, (strtounit_numeral numeral).trans ?_⟩
    rw [withUnit, if_neg kilo, if_neg mega, if_pos plain]
  · rintro ⟨c, refused⟩
    obtain ⟨n, rest, numeral⟩ := r.numeral
    rw [strtounit_numeral numeral] at refused
    cases rest with
    | nil => cases refused
    | cons d rest =>
      rw [withUnit] at refused
      split at refused
      · cases refused
      next kilo =>
        split at refused
        · cases refused
        next mega =>
          split at refused
          next plain => exact ⟨n, d, rest, numeral, kilo, mega, plain⟩
          · cases refused

theorem octal_le_decimal (digits : List U8) :
    numeralValue 8 digits ≤ numeralValue 10 digits := by
  have general (m n : Nat) (le : m ≤ n) :
      digits.foldl (fun n c => n * 8 + (digitVal c).getD 0) m ≤
        digits.foldl (fun n c => n * 10 + (digitVal c).getD 0) n := by
    induction digits generalizing m n with
    | nil => exact le
    | cons c digits ih =>
      rw [List.foldl_cons, List.foldl_cons]
      exact ih _ _ (by omega)
  exact general 0 0 Nat.le.refl

/-- Where C reads another number than is written, there is a leading zero: the number is the
    octal one, or ends at a digit that is none. -/
theorem PlainNumber.read (number : PlainNumber text n rest) :
    (Numeral text n rest ∧ ∀ digits rest, text = chr '0' :: (digits ++ rest) →
      Digits 10 digits rest → numeralValue 8 digits = numeralValue 10 digits) ∨
    ∃ digits, text = chr '0' :: (digits ++ rest) ∧ Digits 10 digits rest ∧
      n = numeralValue 10 digits ∧ (Numeral text (numeralValue 8 digits) rest ∨
        ∃ m c rest', Numeral text m (c :: rest') ∧ isDigitOf 10 c = true) := by
  cases number with
  | @hex mark digits rest marked some_ hex =>
    refine .inl ⟨.hex marked some_ hex, ?_⟩
    intro digits' rest' same decimal
    cases digits' with
    | nil => rfl
    | cons c digits' =>
      obtain ⟨rfl, -⟩ := List.cons.inj (List.cons.inj same).2
      have other : ∀ mark : U8, mark ||| 0x20 = chr 'x' → isDigitOf 10 mark = false := by decide
      have digit := decimal.1 mark List.mem_cons_self
      rw [other mark marked] at digit
      cases digit
  | @decimal digits rest some_ unmarked decimal =>
    obtain ⟨first, digits, rfl⟩ := List.exists_cons_of_ne_nil some_
    by_cases zero : first = chr '0'
    · subst zero
      have ten : ∀ c : U8, isDigitOf 8 c = true → isDigitOf 10 c = true := by decide
      have behind : Digits 10 digits rest :=
        ⟨fun c member => decimal.1 c (List.mem_cons_of_mem _ member), decimal.2⟩
      refine .inr ⟨digits, rfl, behind, rfl, ?_⟩
      obtain ⟨octal, others, rfl, each, ends⟩ := word_exists (isDigitOf 8) digits
      cases others with
      | nil =>
        rw [List.append_nil] at unmarked ⊢
        refine .inl (.octal unmarked ⟨each, ?_⟩)
        intro c member
        have stops := decimal.2 c member
        cases digit : isDigitOf 8 c with
        | false => rfl
        | true =>
          rw [ten c digit] at stops
          cases stops
      | cons c others =>
        rw [List.cons_append, List.append_assoc] at unmarked
        have numeral := Numeral.octal unmarked ⟨each, ends⟩
        rw [← List.append_assoc] at numeral
        exact .inr ⟨_, c, others ++ rest, numeral, behind.1 c (by simp)⟩
    · refine .inl ⟨.decimal zero decimal, ?_⟩
      intro digits' rest' same
      exact absurd (List.cons.inj same).1 zero

/-- The number of a good value is read with its unit, and is the one written unless a leading zero
    changes it. -/
theorem InitRecord.read_number (r : InitRecord) {m : Nat} (number : PlainNumber r.text n rest)
    (unit : ∀ v, withUnit v rest = .ok (some (v * BitVec.ofNat 32 m))) (positive : 0 < m)
    (fits : n * m < 2 ^ 32) (fine : ¬r.OpenlyWrong) :
    ∃ v, strtounit r.text = .ok (some v) ∧ (v = BitVec.ofNat 32 (n * m) ↔ r.SameInOctal) := by
  rcases number.read with ⟨numeral, same⟩ | ⟨digits, text, decimal, rfl, octal | wrong⟩
  · exact ⟨_, (strtounit_numeral numeral).trans (unit _),
      iff_of_true (BitVec.ofNat_mul _ _).symm same⟩
  · refine ⟨_, (strtounit_numeral octal).trans (unit _), ?_⟩
    have less := Nat.mul_le_mul_right m (octal_le_decimal digits)
    rw [← BitVec.ofNat_mul]
    constructor
    · intro equal digits' rest' text' decimal'
      have words := text'.symm.trans text
      obtain ⟨-, words⟩ := List.cons.inj words
      have word' := (word_split decimal'.1 decimal'.2).1
      rw [words, (word_split decimal.1 decimal.2).1] at word'
      subst word'
      have values := congrArg BitVec.toNat equal
      rw [BitVec.toNat_ofNat, BitVec.toNat_ofNat, Nat.mod_eq_of_lt (by omega),
        Nat.mod_eq_of_lt fits] at values
      exact Nat.eq_of_mul_eq_mul_right positive values
    · intro same
      rw [same digits rest text decimal]
  · obtain ⟨k, c, rest', numeral, digit⟩ := wrong
    have plain : ∀ c : U8, isDigitOf 10 c = true → c ≠ chr 'k' ∧ c ≠ chr 'M' ∧ c < 0x80 := by decide
    exact absurd ⟨k, c, rest', numeral, plain c digit⟩ fine

theorem InitRecord.read_iff (r : InitRecord) (good : r.Good) (fine : ¬r.OpenlyWrong) :
    ∃ v, strtounit r.text = .ok (some v) ∧ (v = BitVec.ofNat 32 r.value ↔ r.SameInOctal) := by
  obtain ⟨nothing, fits⟩ := good
  have written := r.written
  generalize r.value = value at written fits ⊢
  generalize r.trailing = trailing at written nothing
  subst nothing
  cases written with
  | plain number =>
    have unit : ∀ v, withUnit v [] = .ok (some (v * BitVec.ofNat 32 1)) := fun v =>
      congrArg (Except.ok ∘ some) (BitVec.mul_one v).symm
    have one := r.read_number number unit Nat.one_pos (by omega) fine
    rw [Nat.mul_one] at one
    exact one
  | kilo number => exact r.read_number number (fun _ => rfl) (by decide) fits fine
  | mega number => exact r.read_number number (fun _ => rfl) (by decide) fits fine

end Numbers

section Records

def readRecord (pfdi : PcanfdInit) (r : InitRecord) : Option PcanfdInit :=
  if r.key = [] then none
  else
    match bitrateKeyword r.key with
    | none => some pfdi
    | some set =>
      match strtounit r.text with
      | .error _ => none
      | .ok v => some (match v with | none => pfdi | some v => set pfdi v)

theorem InitRecord.chars_inside (r : InitRecord) : ∀ c ∈ r.chars, InRecord c := by
  have equals : InRecord (chr '=') := ⟨by decide, rfl⟩
  intro c member
  rcases List.mem_append.mp member with member | member
  · exact r.keyChars c member
  · rcases List.mem_cons.mp member with rfl | member
    · exact equals
    · exact (r.textChars c member).1

theorem InitRecord.chars_ne_nil (r : InitRecord) : r.chars ≠ [] :=
  List.append_ne_nil_of_right_ne_nil _ (List.cons_ne_nil _ _)

theorem InitRecord.splitRecord (r : InitRecord) :
    splitRecord r.chars = if r.key ≠ [] then some (r.key, r.text) else none :=
  splitRecord_eq fun member => (r.textChars _ member).2 rfl

theorem listText_cons (r : InitRecord) (more : List InitRecord) :
    ∃ behind, listText (r :: more) = r.chars ++ behind ∧ (∀ c ∈ behind.head?, c = chr ',') ∧
      behind.tail = listText more := by
  cases more with
  | nil => exact ⟨[], (List.append_nil _).symm, nofun, rfl⟩
  | cons r' more =>
    refine ⟨chr ',' :: listText (r' :: more), rfl, ?_, rfl⟩
    rintro c ⟨⟩
    rfl

theorem listText_word (records : List InitRecord) : ∀ c ∈ listText records, isEow c = false := by
  induction records with
  | nil => nofun
  | cons r more ih =>
    obtain ⟨behind, text, comma, tail⟩ := listText_cons r more
    intro c member
    rw [text] at member
    rcases List.mem_append.mp member with member | member
    · exact (r.chars_inside c member).2
    · cases behind with
      | nil => cases member
      | cons d behind =>
        rw [comma d rfl] at member
        rcases List.mem_cons.mp member with rfl | member
        · rfl
        · exact ih c (tail ▸ member)

theorem listText_length (records : List InitRecord) :
    records.length ≤ (listText records).length := by
  induction records with
  | nil => exact Nat.le.refl
  | cons r more ih =>
    obtain ⟨behind, text, comma, tail⟩ := listText_cons r more
    have chars := List.length_pos_iff.mpr r.chars_ne_nil
    rw [← tail, List.length_tail] at ih
    rw [text, List.length_append, List.length_cons]
    omega

theorem scanRecords_list (records : List InitRecord) (rounds : Nat) (pfdi : PcanfdInit)
    (enough : records.length ≤ rounds) :
    scanRecords rounds (listText records) pfdi = records.foldlM readRecord pfdi := by
  induction records generalizing rounds pfdi with
  | nil => exact scanRecords_nil rounds pfdi
  | cons r more ih =>
    obtain ⟨rounds, rfl⟩ : ∃ k, rounds = k + 1 := ⟨rounds - 1, by
      rw [List.length_cons] at enough
      omega⟩
    have each : ∀ c ∈ r.chars, decide (c ≠ chr ',') = true := fun c member =>
      decide_eq_true (r.chars_inside c member).1
    obtain ⟨behind, text, comma, tail⟩ := listText_cons r more
    have stops : ∀ c ∈ behind.head?, decide (c ≠ chr ',') = false := fun c member =>
      decide_eq_false (not_not.mpr (comma c member))
    obtain ⟨first, later⟩ := word_split each stops
    obtain ⟨c, word, start⟩ := List.exists_cons_of_ne_nil
      (List.append_ne_nil_of_left_ne_nil r.chars_ne_nil behind)
    rw [start] at first later
    rw [text, start, List.foldlM_cons]
    unfold scanRecords readRecord
    dsimp only
    rw [first, later, tail, r.splitRecord]
    rw [List.length_cons, Nat.add_le_add_iff_right] at enough
    by_cases empty : r.key = []
    · rw [if_neg (not_not.mpr empty), if_pos empty]
      rfl
    · rw [if_pos empty, if_neg empty]
      dsimp only
      cases bitrateKeyword r.key with
      | none => exact ih rounds pfdi enough
      | some set =>
        cases strtounit r.text with
        | error c => rfl
        | ok v => exact ih rounds _ enough

theorem readRecord_none_iff (pfdi : PcanfdInit) (r : InitRecord) :
    readRecord pfdi r = none ↔ r.key = [] ∨ r.key ∈ initKeywords ∧ r.OpenlyWrong := by
  unfold readRecord
  by_cases empty : r.key = []
  · rw [if_pos empty]
    exact iff_of_true rfl (.inl empty)
  · rw [if_neg empty, or_iff_right empty, r.openlyWrong_iff]
    by_cases known : r.key ∈ initKeywords
    · obtain ⟨set, keyword, -⟩ := bitrateKeyword_some known
      rw [keyword]
      dsimp only
      cases read : strtounit r.text with
      | error c => exact iff_of_true rfl ⟨known, c, rfl⟩
      | ok v => exact iff_of_false nofun (by rintro ⟨-, c, ⟨⟩⟩)
    · rw [bitrateKeyword_none known]
      exact iff_of_false nofun fun both => known both.1

theorem readRecords_none_iff (records : List InitRecord) (pfdi : PcanfdInit) :
    records.foldlM readRecord pfdi = none ↔ OpenlyRefused records := by
  unfold OpenlyRefused
  induction records generalizing pfdi with
  | nil => exact iff_of_false nofun nofun
  | cons r more ih =>
    rw [List.foldlM_cons, List.exists_mem_cons_iff, ← readRecord_none_iff pfdi]
    cases first : readRecord pfdi r with
    | none => exact iff_of_true rfl (.inl rfl)
    | some pfdi =>
      rw [or_iff_right nofun]
      exact ih pfdi

def InitRecord.read (r : InitRecord) : U32 :=
  match strtounit r.text with
  | .ok (some v) => v
  | _ => 0

def lastRead (records : List InitRecord) (value : List U8 → U32) (key : List U8) : U32 :=
  ((records.filter (·.key = key)).getLast?.map InitRecord.read).getD (value key)

theorem readRecord_settings {r : InitRecord} (good : r.Good) (fine : r.key ≠ [])
    (right : r.key ∈ initKeywords → ¬r.OpenlyWrong) (flags : U32) (value : List U8 → U32) :
    readRecord (settingsOf flags value) r =
      some (settingsOf flags fun key => if key = r.key then r.read else value key) := by
  unfold readRecord
  rw [if_neg fine]
  by_cases known : r.key ∈ initKeywords
  · obtain ⟨set, keyword, sets⟩ := bitrateKeyword_some known
    obtain ⟨v, read, -⟩ := r.read_iff good (right known)
    unfold InitRecord.read
    rw [keyword, read]
    exact congrArg some (sets flags value v)
  · rw [bitrateKeyword_none known]
    refine congrArg some (settingsOf_eq_iff.mpr ⟨rfl, fun key member => ?_⟩)
    rw [if_neg]
    rintro rfl
    exact known member

theorem readRecords_settings {records : List InitRecord} (good : ∀ r ∈ records, r.Good)
    (fine : ¬OpenlyRefused records) (flags : U32) (value : List U8 → U32) :
    records.foldlM readRecord (settingsOf flags value) =
      some (settingsOf flags (lastRead records value)) := by
  induction records generalizing value with
  | nil => rfl
  | cons r more ih =>
    obtain ⟨first, good⟩ := List.forall_mem_cons.mp good
    unfold OpenlyRefused at fine
    rw [List.exists_mem_cons_iff, not_or, not_or] at fine
    obtain ⟨⟨some_, right⟩, fine⟩ := fine
    rw [List.foldlM_cons, readRecord_settings first some_ (fun known wrong => right ⟨known, wrong⟩)]
    refine (ih good fine _).trans (congrArg some (settingsOf_eq_iff.mpr ⟨rfl, fun key _ => ?_⟩))
    unfold lastRead
    dsimp only
    by_cases same : key = r.key
    · rw [if_pos same, List.filter_cons_of_pos (by simp [same]), List.getLast?_cons]
      cases (more.filter (·.key = key)).getLast? <;> rfl
    · rw [if_neg same, List.filter_cons_of_neg (by simpa using Ne.symm same)]

theorem lastRead_iff {records : List InitRecord} (good : ∀ r ∈ records, r.Good)
    (fine : ¬OpenlyRefused records) :
    (∀ key ∈ initKeywords, lastRead records (fun _ => 0) key = lastValue records key) ↔
      ∀ key ∈ initKeywords, ∀ r ∈ (records.filter (·.key = key)).getLast?, r.SameInOctal := by
  refine forall₂_congr fun key known => ?_
  unfold lastRead lastValue
  cases last : (records.filter (·.key = key)).getLast? with
  | none => exact iff_of_true rfl nofun
  | some r =>
    obtain ⟨member, same⟩ := List.mem_filter.mp (List.mem_of_getLast? last)
    have right : ¬r.OpenlyWrong := fun wrong =>
      fine ⟨r, member, .inr ⟨(of_decide_eq_true same).symm ▸ known, wrong⟩⟩
    obtain ⟨v, read, exact_⟩ := r.read_iff (good r member) right
    have value : r.read = v := by
      unfold InitRecord.read
      rw [read]
    rw [Option.map_some, Option.map_some, Option.getD_some, Option.getD_some, value, exact_]
    simp

end Records

section Switches

theorem initFlags_or : ∀ s l fd s' l' fd' : Bool,
    initFlags s l fd ||| initFlags s' l' fd' = initFlags (s || s') (l || l') (fd || fd') := by
  decide

theorem initFlags_fd : ∀ s l : Bool, initFlags s l false ||| pcanfdInitFd = initFlags s l true := by
  decide

theorem initFlags_eq_iff : ∀ s l s' l' fd : Bool,
    initFlags s l fd = initFlags s' l' fd ↔ s = s' ∧ l = l' := by
  decide

theorem switchFlag_eq (c : U8) :
    switchFlag c = initFlags (c = chr 's') (c = chr 'l') false := by
  unfold switchFlag
  by_cases std : c = chr 's'
  · subst std
    rfl
  · by_cases listen : c = chr 'l'
    · subst listen
      rfl
    · simp [std, listen, initFlags]

theorem scanSwitches_pair {c d : U8} {rest : List U8} (first : isEow c = false)
    (second : isEow d = false) (pfdi : PcanfdInit) :
    scanSwitches 2 pfdi (c :: d :: rest) =
      { pfdi with
        flags := pfdi.flags ||| initFlags (chr 's' ∈ [c, d]) (chr 'l' ∈ [c, d]) false } := by
  have plain {c : U8} (word : isEow c = false) : isBlank c = false ∧ isEol c = false := by
    unfold isEow at word
    exact Bool.or_eq_false_iff.mp word
  have step (left : Nat) (pfdi : PcanfdInit) {c : U8} (word : isEow c = false) (rest : List U8) :
      scanSwitches (left + 1) pfdi (c :: rest) =
        scanSwitches left { pfdi with flags := pfdi.flags ||| switchFlag c } rest :=
    @noCr_text _ pfdi _ [] rest c nofun (plain word).1 (plain word).2
  rw [step 1 pfdi first, step 0 _ second, switchFlag_eq, switchFlag_eq]
  unfold scanSwitches
  dsimp only
  rw [BitVec.or_assoc, initFlags_or]
  simp only [List.mem_cons, List.not_mem_nil, or_false, Bool.or_false, Bool.decide_or,
    eq_comm (a := chr _)]

theorem fdFlag_settings (std listen : Bool) (value : List U8 → U32) :
    fdFlag (settingsOf (initFlags std listen false) value) =
      settingsOf (initFlags std listen (∃ key ∈ dataKeywords, value key ≠ 0)) value := by
  have some_ : ((settingsOf (initFlags std listen false) value).data.bitrate ≠ 0 ∨
      (settingsOf (initFlags std listen false) value).data.brp ≠ 0 ∨
      (settingsOf (initFlags std listen false) value).data.tseg1 ≠ 0 ∨
      (settingsOf (initFlags std listen false) value).data.tseg2 ≠ 0 ∨
      (settingsOf (initFlags std listen false) value).data.sjw ≠ 0) ↔
      ∃ key ∈ dataKeywords, value key ≠ 0 := by
    simp [settingsOf, dataKeywords]
  unfold fdFlag
  by_cases data : ∃ key ∈ dataKeywords, value key ≠ 0
  · rw [if_pos (some_.mpr data), decide_eq_true data, ← initFlags_fd]
    rfl
  · rw [if_neg (mt some_.mp data), decide_eq_false data]

end Switches

section Lines
variable {before between after switches : List U8} {records : List InitRecord}

theorem Switches.ends (written : Switches after switches) :
    ∀ c ∈ after.head?, isEow c = true := by
  have blank {c : U8} (blank : isBlank c = true) : isEow c = true := by
    unfold isEow
    rw [blank, Bool.true_or]
  cases written with
  | @none blanks tail blanks_ =>
    cases blanks with
    | nil =>
      rintro c ⟨⟩
      rfl
    | cons d blanks =>
      rintro c ⟨⟩
      exact blank (blanks_ d List.mem_cons_self)
  | @next blanks _ _ _ blanks_ some_ =>
    obtain ⟨d, blanks, rfl⟩ := List.exists_cons_of_ne_nil some_
    rintro c ⟨⟩
    exact blank (blanks_ d List.mem_cons_self)

theorem listText_pair (some_ : records ≠ []) :
    ∃ c d more, listText records = c :: d :: more ∧ isEow c = false ∧ isEow d = false := by
  obtain ⟨r, more, rfl⟩ := List.exists_cons_of_ne_nil some_
  obtain ⟨behind, text, -⟩ := listText_cons r more
  obtain ⟨digit, tail, value, -⟩ := r.written.digit
  have chars := listText_word (r :: more)
  rw [text] at chars ⊢
  unfold InitRecord.chars at chars ⊢
  rw [value] at chars ⊢
  generalize r.key = key at chars ⊢
  rcases key with _ | ⟨c, _ | ⟨d, key⟩⟩
  · exact ⟨chr '=', digit, _, rfl, chars _ (by simp), chars _ (by simp)⟩
  · exact ⟨c, chr '=', _, rfl, chars _ (by simp), chars _ (by simp)⟩
  · exact ⟨c, d, _, rfl, chars _ (by simp), chars _ (by simp)⟩

theorem line_parse (blank : AllBlank before) (blank' : AllBlank between) (some_ : records ≠ []) :
    pcanParseInputInit (before ++ chr 'i' :: (between ++ (listText records ++ after))) =
      (parseRate (listText records ++ after)).map fdFlag := by
  obtain ⟨c, d, more, text, word, -⟩ := listText_pair some_
  obtain ⟨plain, goesOn⟩ : isBlank c = false ∧ isEol c = false := by
    unfold isEow at word
    exact Bool.or_eq_false_iff.mp word
  unfold pcanParseInputInit skipBlanks scanChar
  rw [blanks_split blank rfl, List.headD_cons, List.tail_cons]
  dsimp only
  rw [if_pos rfl, text, List.cons_append, List.cons_append, noCr_text blank' plain goesOn]

theorem parseRate_list (some_ : records ≠ []) (written : Switches after switches)
    (other : isDigitOf 10 ((listText records).headD 0) = false) :
    (parseRate (listText records ++ after)).map fdFlag =
      (records.foldlM readRecord (settingsOf 0 fun _ => 0)).map fun pfdi =>
        fdFlag { pfdi with
          flags := pfdi.flags ||| initFlags (chr 's' ∈ (listText records).take 2)
            (chr 'l' ∈ (listText records).take 2) false } := by
  have scanned : scanBitrateString PcanfdInit.zero (listText records ++ after) =
      records.foldlM readRecord (settingsOf 0 fun _ => 0) := by
    have word : (listText records ++ after).takeWhile (!isEow ·) = listText records :=
      (word_split (fun c member => by simp [listText_word records c member])
        (fun c member => by simp [written.ends c member])).1
    unfold scanBitrateString
    rw [word]
    exact scanRecords_list records _ _ (listText_length records)
  obtain ⟨c, d, more, text, first, second⟩ := listText_pair some_
  have number : parseRate (listText records ++ after) =
      (scanBitrateString PcanfdInit.zero (listText records ++ after)).map fun pfdi =>
        scanSwitches 2 pfdi (listText records ++ after) := by
    rw [text] at other ⊢
    exact scan_nothing other _
  rw [number, scanned, Option.map_map]
  congr 1
  funext pfdi
  rw [Function.comp, text, List.cons_append, List.cons_append, scanSwitches_pair first second]
  rfl

theorem btrSettings_samplePoint (word : U32) : (btrSettings word).nominal.samplePoint ≠ 0 := by
  have tseg2 := masked_shift_le ((word.setWidth 16).setWidth 32) 0x70 4
  have tseg1 := masked_shift_le ((word.setWidth 16).setWidth 32) 0xf 0
  rw [BitVec.ushiftRight_zero] at tseg1
  have rated : (btrSettings word).nominal =
      ratedTiming (btrTiming PcanBittiming.zero ((word.setWidth 16).setWidth 32)) (8 * mhz) :=
    pcanBtr0btr1ToBittiming_rated _ _
  rw [rated]
  simp only [ratedTiming, btrTiming]
  generalize (((word.setWidth 16).setWidth 32 : U32) &&& 0x70) >>> 4 = t2 at tseg2 ⊢
  generalize ((word.setWidth 16).setWidth 32 : U32) &&& 0xf = t1 at tseg1 ⊢
  have tseg2 : t2.toNat ≤ 7 := tseg2
  have tseg1 : t1.toNat ≤ 15 := tseg1
  have above : (pcanSamptScale * (1 + (1 + t1))).toNat = 10000 * (2 + t1.toNat) := by
    unfold pcanSamptScale
    simp
    omega
  have below : (1 + (1 + t1) + (1 + t2)).toNat = 3 + t1.toNat + t2.toNat := by
    simp
    omega
  intro zero
  have quotient := congrArg BitVec.toNat zero
  rw [BitVec.toNat_udiv, above, below] at quotient
  have positive : 0 < 10000 * (2 + t1.toNat) / (3 + t1.toNat + t2.toNat) :=
    Nat.div_pos (by omega) (by omega)
  exact Nat.ne_of_gt positive quotient

theorem scanSwitches_nominal (left : Nat) (pfdi : PcanfdInit) (text : List U8) :
    (scanSwitches left pfdi text).nominal = pfdi.nominal := by
  induction left generalizing pfdi text with
  | zero => rfl
  | succ left ih =>
    unfold scanSwitches noCr skipBlanks scanChar
    dsimp only
    split
    · rfl
    · exact ih _ _

theorem parseRate_word {word : Nat} {rest : List U8}
    (numeral : Numeral (listText records ++ after) word rest) :
    if 0xffff < word % 2 ^ 32 then (parseRate (listText records ++ after)).map fdFlag = none
    else ∃ pfdi, (parseRate (listText records ++ after)).map fdFlag = some pfdi ∧
      pfdi ≠ lineSettings records switches := by
  have number : parseRate (listText records ++ after) =
      if 0xffff < BitVec.ofNat 32 word then none
      else some (scanSwitches 2 (btrSettings (BitVec.ofNat 32 word)) rest) :=
    numeral.scan
  have limit : (0xffff : U32) < BitVec.ofNat 32 word ↔ 0xffff < word % 2 ^ 32 := by
    rw [BitVec.lt_def, BitVec.toNat_ofNat]
    rfl
  rw [number]
  by_cases large : 0xffff < word % 2 ^ 32
  · rw [if_pos large, if_pos (limit.mpr large)]
    rfl
  · rw [if_neg large, if_neg (mt limit.mp large)]
    refine ⟨_, rfl, fun same => btrSettings_samplePoint (BitVec.ofNat 32 word) ?_⟩
    have nominal (pfdi : PcanfdInit) : (fdFlag pfdi).nominal = pfdi.nominal := by
      unfold fdFlag
      split <;> rfl
    have point : (fdFlag (scanSwitches 2 (btrSettings (BitVec.ofNat 32 word)) rest)).nominal.samplePoint =
        0 := congrArg (·.nominal.samplePoint) same
    rw [nominal, scanSwitches_nominal] at point
    exact point

theorem kept_iff (records : List InitRecord) (switches : List U8) :
    fdFlag { settingsOf 0 (lastRead records fun _ => 0) with
        flags := (settingsOf 0 (lastRead records fun _ => 0)).flags |||
          initFlags (chr 's' ∈ (listText records).take 2) (chr 'l' ∈ (listText records).take 2)
            false } = lineSettings records switches ↔
      (∀ key ∈ initKeywords, lastRead records (fun _ => 0) key = lastValue records key) ∧
        ∀ c ∈ [chr 's', chr 'l'], c ∈ (listText records).take 2 ↔ c ∈ switches := by
  have flags : (settingsOf 0 (lastRead records fun _ => 0)).flags |||
      initFlags (chr 's' ∈ (listText records).take 2) (chr 'l' ∈ (listText records).take 2) false =
      initFlags (chr 's' ∈ (listText records).take 2) (chr 'l' ∈ (listText records).take 2) false :=
    BitVec.zero_or
  have read := fdFlag_settings (chr 's' ∈ (listText records).take 2)
    (chr 'l' ∈ (listText records).take 2) (lastRead records fun _ => 0)
  rw [flags]
  refine (Eq.congr_left read).trans ?_
  unfold lineSettings
  rw [settingsOf_eq_iff, and_comm]
  refine and_congr_right fun same => ?_
  have fd : (∃ key ∈ dataKeywords, lastRead records (fun _ => 0) key ≠ 0) ↔
      ∃ key ∈ dataKeywords, lastValue records key ≠ 0 := by
    refine exists_congr fun key => and_congr_right fun member => ?_
    rw [same key (List.mem_append_right _ member)]
  rw [decide_eq_decide.mpr fd, initFlags_eq_iff, decide_eq_decide, decide_eq_decide]
  simp only [List.forall_mem_cons, List.not_mem_nil, false_imp_iff, implies_true, and_true]

/-- The parser does what it must on exactly the lines described. -/
theorem init_line_iff (blank : AllBlank before) (blank' : AllBlank between) (some_ : records ≠ [])
    (written : Switches after switches) :
    InitRight (before ++ chr 'i' :: (between ++ (listText records ++ after))) records switches ↔
      InitMeets records after switches := by
  have result : ∀ result : Option PcanfdInit,
      (parseRate (listText records ++ after)).map fdFlag = result →
      (InitRight (before ++ chr 'i' :: (between ++ (listText records ++ after))) records switches ↔
        ((∀ r ∈ records, r.Good) → result = some (lineSettings records switches)) ∧
          ((∃ r ∈ records, ¬r.Good) → result = none)) := by
    rintro _ rfl
    have parsed := parseInputInitBuffer_eq
      (before ++ chr 'i' :: (between ++ (listText records ++ after)))
    rw [line_parse blank blank' some_] at parsed
    constructor
    · rintro ⟨accepted, refused, -⟩
      rw [parsed] at accepted refused
      exact ⟨accepted, refused⟩
    · rintro ⟨accepted, refused⟩
      constructor <;> rw [parsed]
      · exact accepted
      · exact refused
  unfold InitMeets
  by_cases digit : isDigitOf 10 ((listText records).headD 0) = true
  · rw [if_pos digit]
    obtain ⟨c, d, more, text, -⟩ := listText_pair some_
    have number : ∃ word rest, Numeral (listText records ++ after) word rest := by
      rw [text] at digit ⊢
      exact numeral_exists digit _
    constructor
    · intro right
      obtain ⟨word, rest, numeral⟩ := number
      have read := @parseRate_word after switches records word rest numeral
      split at read
      next large =>
        obtain ⟨accepted, -⟩ := (result _ read).mp right
        refine ⟨?_, word, rest, numeral, large⟩
        by_contra good
        cases accepted fun r member => by_contra fun bad => good ⟨r, member, bad⟩
      next =>
        obtain ⟨pfdi, read, other⟩ := read
        obtain ⟨accepted, refused⟩ := (result _ read).mp right
        by_cases good : ∀ r ∈ records, r.Good
        · exact absurd (Option.some.inj (accepted good)) other
        · have bad : ∃ r ∈ records, ¬r.Good := by
            push Not at good
            exact good
          cases refused bad
    · rintro ⟨⟨r, member, bad⟩, word, rest, numeral, large⟩
      have read := @parseRate_word after switches records word rest numeral
      rw [if_pos large] at read
      exact (result _ read).mpr ⟨fun good => absurd (good r member) bad, fun _ => rfl⟩
  · rw [if_neg digit]
    have read := parseRate_list some_ written (Bool.eq_false_iff.mpr digit)
    rw [result _ read]
    by_cases good : ∀ r ∈ records, r.Good
    · rw [if_pos good]
      have half (x : Option PcanfdInit) (y : PcanfdInit) :
          (((∀ r ∈ records, r.Good) → x = some y) ∧ ((∃ r ∈ records, ¬r.Good) → x = none)) ↔
            x = some y :=
        ⟨fun both => both.1 good, fun same => ⟨fun _ => same, fun ⟨r, member, bad⟩ =>
          absurd (good r member) bad⟩⟩
      rw [half]
      by_cases refused : OpenlyRefused records
      · rw [(readRecords_none_iff records _).mpr refused]
        refine iff_of_false ?_ fun meets => meets.1 refused
        rw [Option.map_none]
        exact (Option.some_ne_none _).symm
      · rw [readRecords_settings good refused, Option.map_some, Option.some.injEq,
          ← lastRead_iff good refused]
        exact (kept_iff records switches).trans (and_iff_right refused).symm
    · rw [if_neg good]
      have bad : ∃ r ∈ records, ¬r.Good := by
        push Not at good
        exact good
      rw [← readRecords_none_iff records (settingsOf 0 fun _ => 0)]
      exact ⟨fun both => Option.map_eq_none_iff.mp (both.2 bad),
        fun refused => ⟨fun all => absurd all good, fun _ => Option.map_eq_none_iff.mpr refused⟩⟩

end Lines

section Samples

def kiloRecord (key digits : List U8) (some_ : digits ≠ []) (keyChars : ∀ c ∈ key, InRecord c)
    (each : ∀ c ∈ digits, isDigitOf 10 c = true)
    (unmarked : hexPrefix (digits ++ [chr 'k']) = false) : InitRecord where
  key := key
  text := digits ++ [chr 'k']
  value := numeralValue 10 digits * 1000
  trailing := []
  keyChars := keyChars
  textChars := by
    have plain : ∀ c : U8, isDigitOf 10 c = true → InRecord c ∧ c ≠ chr '=' := by
      unfold InRecord
      decide
    intro c member
    rcases List.mem_append.mp member with member | member
    · exact plain c (each c member)
    · rw [List.mem_singleton.mp member]
      exact ⟨⟨by decide, rfl⟩, by decide⟩
  written := by
    refine .kilo (.decimal some_ unmarked ⟨each, ?_⟩)
    rintro c ⟨⟩
    rfl

theorem nominal_key : ∀ c ∈ ascii "nom_bitrate", InRecord c := by
  unfold InRecord
  decide

def rateRecord : InitRecord :=
  kiloRecord (ascii "nom_bitrate") (ascii "500") (by decide) nominal_key (by decide) (by decide)

def largeRecord : InitRecord :=
  kiloRecord (ascii "nom_bitrate") (ascii "5000000") (by decide) nominal_key (by decide) (by decide)

/-- A switch behind the list is lost, and so is what a value has beyond 32 bits. -/
theorem switch_and_overflow_lost :
    ¬InitRight (ascii "i nom_bitrate=500k s\n") [rateRecord] [chr 's'] ∧
      ¬InitRight (ascii "i nom_bitrate=5000000k\n") [largeRecord] [] := by
  constructor
  · intro right
    have good : rateRecord.Good := by decide
    have read := congrArg (Option.map (·.flags)) (right.accepted (by simpa using good))
    revert read
    decide +kernel
  · intro right
    have bad : ¬largeRecord.Good := by decide
    have read := congrArg Option.isSome (right.refused ⟨_, List.mem_singleton_self _, bad⟩)
    revert read
    decide +kernel

theorem rate_line_right :
    InitRight (ascii "i nom_bitrate=500k\n") [rateRecord] [] := by
  have blank : AllBlank [chr ' '] := by
    intro c member
    rw [List.mem_singleton.mp member]
    rfl
  have meets : InitMeets [rateRecord] [newline] [] := by
    have good : ∀ r ∈ [rateRecord], r.Good := by decide
    have text : strtounit rateRecord.text = .ok (some 500000) := by decide +kernel
    unfold InitMeets
    rw [if_neg (by decide), if_pos good]
    refine ⟨?_, ?_, by decide⟩
    · rintro ⟨r, member, empty | ⟨-, wrong⟩⟩
      · rw [List.mem_singleton.mp member] at empty
        cases empty
      · rw [List.mem_singleton.mp member, rateRecord.openlyWrong_iff, text] at wrong
        obtain ⟨c, ⟨⟩⟩ := wrong
    · intro key _ r last digits rest zero
      have member := (List.mem_filter.mp (List.mem_of_getLast? last)).1
      rw [List.mem_singleton.mp member] at zero
      cases (List.cons.inj zero).1
  exact (@init_line_iff [] [chr ' '] [newline] [] [rateRecord] nofun blank (List.cons_ne_nil _ _)
    (@Switches.none [] [] nofun)).mpr meets

end Samples

end PcanDriver

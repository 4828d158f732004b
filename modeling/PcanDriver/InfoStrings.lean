import PcanDriver.FdStrings
import PcanDriver.TextOutput

/-!
The settings of a channel as a text: what `pcaninfo_bitrate_to_init_string` of `pcaninfo.c` puts
into the header of a trace is a text that `CAN_InitializeFD` takes.
-/
namespace PcanDriver

open CStrings

section Source

def pcaninfoFlagClock : U32 := 8

structure PcaninfoRates where
  availflag : U32
  clock : U32
  nomBrp : U32
  nomTseg1 : U32
  nomTseg2 : U32
  nomSjw : U32
  dataBrp : U32
  dataTseg1 : U32
  dataTseg2 : U32
  dataSjw : U32
deriving Repr, DecidableEq

/-- `%u`. -/
def unsignedText (x : U32) : List U8 := numeralText 10 x.toNat

/-- `%d`, which takes the upper half of the numbers for negative ones. -/
def signedText (x : U32) : List U8 :=
  if x.toNat < 2 ^ 31 then numeralText 10 x.toNat
  else chr '-' :: numeralText 10 (2 ^ 32 - x.toNat)

def PcaninfoRates.texts (pci : PcaninfoRates) : List (List U8 × List U8) :=
  [(ascii "f_clock", unsignedText pci.clock), (ascii "nom_brp", signedText pci.nomBrp),
    (ascii "nom_tseg1", signedText pci.nomTseg1), (ascii "nom_tseg2", signedText pci.nomTseg2),
    (ascii "nom_sjw", signedText pci.nomSjw), (ascii "data_brp", signedText pci.dataBrp),
    (ascii "data_tseg1", signedText pci.dataTseg1), (ascii "data_tseg2", signedText pci.dataTseg2),
    (ascii "data_sjw", signedText pci.dataSjw)]

def PcaninfoRates.clocked (pci : PcaninfoRates) : Prop :=
  pci.availflag &&& pcaninfoFlagClock ≠ 0 ∧ 0 < pci.clock

instance (pci : PcaninfoRates) : Decidable pci.clocked := inferInstanceAs (Decidable (_ ∧ _))

/-- Each text is put behind the others under the same condition, without a look at the size. -/
def pcaninfoBitrateToInitString (pci : PcaninfoRates) : List U8 :=
  pci.texts.flatMap fun text =>
    if pci.clocked then text.1 ++ [chr '='] ++ text.2 ++ [chr ','] else []

end Source

section Statement

/-- The fields under their names in the text. -/
def PcaninfoRates.value (pci : PcaninfoRates) : FdField → U32
  | .clock => pci.clock
  | .nomBrp => pci.nomBrp
  | .nomTseg1 => pci.nomTseg1
  | .nomTseg2 => pci.nomTseg2
  | .nomSjw => pci.nomSjw
  | .dataBrp => pci.dataBrp
  | .dataTseg1 => pci.dataTseg1
  | .dataTseg2 => pci.dataTseg2
  | .dataSjw => pci.dataSjw

end Statement

section Numbers

theorem digit_chars : ∀ c : U8, isDigitOf 10 c = true →
    isSpace c = false ∧ c ≠ chr '=' ∧ c ≠ chr ',' ∧ c ≠ chr '-' ∧ c ≠ chr '+' ∧
      (c ||| 0x20) ≠ chr 'x' ∧ c ≠ 0 := by
  decide +kernel

theorem numeral_chars (n : Nat) : ∀ c ∈ numeralText 10 n, isDigitOf 10 c = true :=
  (@numeralText_spec 10 (by decide) (by decide) n).1

def EndsNumber (rest : List U8) : Prop :=
  ∀ c ∈ rest.head?, isDigitOf 10 c = false ∧ (c ||| 0x20) ≠ chr 'x'

theorem endsNumber_nil : EndsNumber [] := fun c member => by cases member

variable {rest : List U8}

theorem EndsNumber.taken (ends : EndsNumber rest) {base : Nat} (small : base ≤ 10) :
    rest.takeWhile (isDigitOf base) = [] := by
  cases rest with
  | nil => rfl
  | cons c rest =>
    have other := (ends c rfl).1
    refine List.takeWhile_cons_of_neg fun digit => ?_
    unfold isDigitOf at other digit
    cases known : digitVal c with
    | none => simp [known] at digit
    | some val =>
      simp only [known, decide_eq_false_iff_not, decide_eq_true_eq] at other digit
      omega

/-- The digits of a number are taken as such, whatever base a first zero stands for. -/
theorem numeral_scanned (n : Nat) (ends : EndsNumber rest) :
    let digits := numeralText 10 n ++ rest
    let base := if digits.headD 0 = chr '0' then 8 else 10
    hexPrefix digits = false ∧ numeralValue base (digits.takeWhile (isDigitOf base)) = n := by
  obtain ⟨each, value, first⟩ := @numeralText_spec 10 (by decide) (by decide) n
  rcases Nat.eq_zero_or_pos n with rfl | positive
  · have zero : numeralText 10 0 = [chr '0'] := by decide
    rw [zero]
    constructor
    · cases rest with
      | nil => decide
      | cons c rest =>
        have other : (c ||| 0x20) ≠ chr 'x' := (ends c rfl).2
        exact Bool.and_eq_false_imp.mpr fun marked =>
          absurd (of_decide_eq_true (Bool.and_eq_true_iff.mp marked).2) other
    · have taken := ends.taken (by decide : 8 ≤ 10)
      simp only [List.singleton_append, List.headD_cons, if_true]
      rw [List.takeWhile_cons_of_pos (by decide), taken]
      decide
  · obtain ⟨c, digits, split⟩ := List.exists_cons_of_ne_nil (numeralText_ne_nil 10 n)
    rw [split] at each value first ⊢
    have other : ¬(c :: digits ++ rest).headD 0 = chr '0' := first positive c rfl
    dsimp only
    refine ⟨by rw [hexPrefix, decide_eq_false other]; rfl, ?_⟩
    rw [if_neg other, List.takeWhile_append_of_pos each, ends.taken Nat.le.refl, List.append_nil]
    exact value

theorem strtoul_digits {n : Nat} (small : n < 2 ^ 64) (negative : Bool) (ends : EndsNumber rest) :
    strtoul ((if negative then chr '-' :: numeralText 10 n else numeralText 10 n) ++ rest) =
      if negative then -BitVec.ofNat 32 n else BitVec.ofNat 32 n := by
  obtain ⟨unmarked, value⟩ := numeral_scanned n ends
  have fits : ¬2 ^ 64 ≤ n := Nat.not_le_of_lt small
  unfold strtoul
  rw [numeralValue] at value
  cases negative with
  | true =>
    simp only [if_true, List.cons_append, List.headD_cons, List.tail_cons, true_or, unmarked,
      Bool.false_eq_true, if_false, value, if_neg fits]
  | false =>
    obtain ⟨c, digits, split⟩ := List.exists_cons_of_ne_nil (numeralText_ne_nil 10 n)
    have digit : c ∈ numeralText 10 n := split ▸ List.mem_cons_self
    obtain ⟨_, _, _, minus, plus, _⟩ := digit_chars c (numeral_chars n c digit)
    have starts : (numeralText 10 n ++ rest).headD 0 = c := by rw [split]; rfl
    have signed : ¬((numeralText 10 n ++ rest).headD 0 = chr '-' ∨
        (numeralText 10 n ++ rest).headD 0 = chr '+') := by
      rw [starts]
      exact not_or.mpr ⟨minus, plus⟩
    simp only [Bool.false_eq_true, if_false, if_neg signed, unmarked, value, if_neg fits,
      if_neg (not_or.mp signed).1]

theorem strtoul_unsigned (x : U32) (ends : EndsNumber rest) :
    strtoul (unsignedText x ++ rest) = x := by
  have read := strtoul_digits (n := x.toNat) (Nat.lt_trans x.isLt (by decide)) false ends
  rw [if_neg Bool.false_ne_true, if_neg Bool.false_ne_true] at read
  rw [unsignedText, read, BitVec.ofNat_toNat, BitVec.setWidth_eq]

/-- A number that `%d` takes for a negative one comes back through the negation of `strtoul`. -/
theorem strtoul_signed (x : U32) (ends : EndsNumber rest) :
    strtoul (signedText x ++ rest) = x := by
  unfold signedText
  split
  case isTrue => exact strtoul_unsigned x ends
  case isFalse upper =>
    have read := strtoul_digits (n := 2 ^ 32 - x.toNat) (by omega) true ends
    rw [if_pos rfl, if_pos rfl] at read
    rw [read]
    have bound := x.isLt
    apply BitVec.eq_of_toNat_eq
    rw [BitVec.toNat_neg, BitVec.toNat_ofNat]
    omega

/-- Neither a blank nor a character that the text is taken apart at. -/
def plainChar (c : U8) : Bool := !isSpace c && c ≠ chr '=' && c ≠ chr ',' && c ≠ 0

def Plain (text : List U8) : Prop := text ≠ [] ∧ text.all plainChar = true

instance (text : List U8) : Decidable (Plain text) := inferInstanceAs (Decidable (_ ∧ _))

theorem Plain.char {text : List U8} (plain : Plain text) {c : U8} (member : c ∈ text) :
    isSpace c = false ∧ c ≠ chr '=' ∧ c ≠ chr ',' ∧ c ≠ 0 := by
  simpa [plainChar, and_assoc] using List.all_eq_true.mp plain.2 c member

theorem numeral_plain (n : Nat) : Plain (numeralText 10 n) := by
  refine ⟨numeralText_ne_nil 10 n, List.all_eq_true.mpr fun c member => ?_⟩
  obtain ⟨blank, equals, comma, _, _, _, nul⟩ := digit_chars c (numeral_chars n c member)
  simpa [plainChar, blank, equals, comma] using nul

theorem signedText_plain (x : U32) : Plain (signedText x) := by
  unfold signedText
  split
  case isTrue => exact numeral_plain x.toNat
  case isFalse =>
    refine ⟨List.cons_ne_nil _ _, ?_⟩
    rw [List.all_cons, (numeral_plain _).2]
    decide

end Numbers

section Texts
variable {key val : List U8} {texts : List (List U8 × List U8)}

/-- A key, a `=` and a value, with the comma behind them. -/
def paired (text : List U8 × List U8) : List U8 := text.1 ++ chr '=' :: text.2

theorem plain_trimmed (plain : Plain key) : pcanbasicTrim key = key := by
  have stays (text : List U8) (none_blank : ∀ c ∈ text, isSpace c = false) :
      text.dropWhile isSpace = text := by
    cases text with
    | nil => rfl
    | cons c rest =>
      exact List.dropWhile_cons_of_neg (by simp [none_blank c List.mem_cons_self])
  unfold pcanbasicTrim
  rw [stays key fun c member => (plain.char member).1, stays _ fun c member =>
    (plain.char (List.mem_reverse.mp member)).1, List.reverse_reverse]

theorem paired_tokens (named : Plain key) (valued : Plain val) :
    tokens (chr '=') (paired (key, val)) = [key, val] := by
  unfold paired
  rw [tokens_append_cons named.1 fun member => (named.char member).2.1 rfl,
    tokens_last valued.1 fun member => (valued.char member).2.1 rfl]

theorem texts_tokens (plain : ∀ text ∈ texts, Plain text.1 ∧ Plain text.2) :
    tokens (chr ',') (texts.flatMap fun text => paired text ++ [chr ',']) = texts.map paired := by
  induction texts with
  | nil => exact tokens_nil
  | cons text rest ih =>
    obtain ⟨named, valued⟩ := plain text List.mem_cons_self
    have some_text : paired text ≠ [] := List.append_ne_nil_of_left_ne_nil named.1 _
    have whole : chr ',' ∉ paired text := by
      intro member
      rcases List.mem_append.mp member with key | rest
      · exact (named.char key).2.2.1 rfl
      · rcases List.mem_cons.mp rest with equals | val
        · exact absurd equals (by decide)
        · exact (valued.char val).2.2.1 rfl
    rw [List.flatMap_cons, List.append_assoc, List.singleton_append,
      tokens_append_cons some_text whole, List.map_cons,
      ih fun other member => plain other (List.mem_cons_of_mem _ member)]

theorem texts_parsed (plain : ∀ text ∈ texts, Plain text.1 ∧ Plain text.2)
    (value : FdField → U32) :
    parseFdPairs (fdInitOf value) (texts.map paired) =
      some (fdInitOf (texts.foldl setField value)) := by
  induction texts generalizing value with
  | nil => rfl
  | cons text rest ih =>
    obtain ⟨key, val⟩ := text
    obtain ⟨named, valued⟩ := plain (key, val) List.mem_cons_self
    rw [List.map_cons, parseFdPairs_pair (paired_tokens named valued), plain_trimmed named,
      plain_trimmed valued, fdSet_field, List.foldl_cons]
    exact ih (fun other member => plain other (List.mem_cons_of_mem _ member)) _

theorem texts_plain (pci : PcaninfoRates) : ∀ text ∈ pci.texts, Plain text.1 ∧ Plain text.2 := by
  unfold PcaninfoRates.texts
  simp only [List.forall_mem_cons, List.not_mem_nil, false_implies, implies_true, and_true,
    signedText_plain, unsignedText, numeral_plain]
  decide

theorem texts_named :
    fieldNamed (ascii "f_clock") = some (.clock, 1) ∧
    fieldNamed (ascii "nom_brp") = some (.nomBrp, 1) ∧
    fieldNamed (ascii "nom_tseg1") = some (.nomTseg1, 1) ∧
    fieldNamed (ascii "nom_tseg2") = some (.nomTseg2, 1) ∧
    fieldNamed (ascii "nom_sjw") = some (.nomSjw, 1) ∧
    fieldNamed (ascii "data_brp") = some (.dataBrp, 1) ∧
    fieldNamed (ascii "data_tseg1") = some (.dataTseg1, 1) ∧
    fieldNamed (ascii "data_tseg2") = some (.dataTseg2, 1) ∧
    fieldNamed (ascii "data_sjw") = some (.dataSjw, 1) := by
  decide

theorem texts_stored (pci : PcaninfoRates) : pci.texts.foldl setField (fun _ => 0) = pci.value := by
  obtain ⟨clock, nomBrp, nomTseg1, nomTseg2, nomSjw, dataBrp, dataTseg1, dataTseg2, dataSjw⟩ :=
    texts_named
  have unsigned (x : U32) : strtoul (unsignedText x) = x := by
    simpa using strtoul_unsigned x endsNumber_nil
  have signed (x : U32) : strtoul (signedText x) = x := by
    simpa using strtoul_signed x endsNumber_nil
  funext field
  rw [foldl_setField]
  cases field <;>
    simp [PcaninfoRates.texts, valueFor, clock, nomBrp, nomTseg1, nomTseg2, nomSjw, dataBrp,
      dataTseg1, dataTseg2, dataSjw, unsigned, signed, PcaninfoRates.value]

end Texts

section Result
variable {pci : PcaninfoRates}

theorem initString_clocked (clocked : pci.clocked) :
    pcaninfoBitrateToInitString pci = pci.texts.flatMap fun text => paired text ++ [chr ','] := by
  unfold pcaninfoBitrateToInitString
  apply List.flatMap_congr
  intro text _
  rw [if_pos clocked, List.append_assoc text.1]
  rfl

theorem initString_unclocked (unclocked : ¬pci.clocked) : pcaninfoBitrateToInitString pci = [] := by
  apply List.flatMap_eq_nil_iff.mpr
  intro text _
  rw [if_neg unclocked]

theorem unsignedText_length (x : U32) : (unsignedText x).length ≤ 10 :=
  (numeralText_length (by decide) (by decide)).mpr (Nat.lt_trans x.isLt (by decide))

theorem signedText_length (x : U32) : (signedText x).length ≤ 11 := by
  have short (n : Nat) (small : n < 10 ^ 10) : (numeralText 10 n).length ≤ 10 :=
    (numeralText_length (by decide) (by decide)).mpr small
  unfold signedText
  split
  · have := short x.toNat (by omega)
    omega
  · have := short (2 ^ 32 - x.toNat) (by omega)
    rw [List.length_cons]
    omega

theorem texts_length (pci : PcaninfoRates) :
    ∀ text ∈ pci.texts, (paired text ++ [chr ',']).length ≤ 23 := by
  have short : ∀ text ∈ pci.texts, text.1.length ≤ 10 ∧ text.2.length ≤ 11 := by
    unfold PcaninfoRates.texts
    simp only [List.forall_mem_cons, List.not_mem_nil, false_implies, implies_true, and_true,
      signedText_length, Nat.le_succ_of_le (unsignedText_length _)]
    decide
  intro text member
  obtain ⟨key, val⟩ := short text member
  simp only [paired, List.length_append, List.length_cons, List.length_nil]
  omega

/-- The text fits the buffer for it in `pcbtrace.c`, and the copy of the parser. -/
theorem initString_length (pci : PcaninfoRates) : (pcaninfoBitrateToInitString pci).length < 256 := by
  by_cases clocked : pci.clocked
  · have sum := List.sum_le_card_nsmul
      (pci.texts.map fun text => (paired text ++ [chr ',']).length) 23 fun n member => by
        obtain ⟨text, known, rfl⟩ := List.mem_map.mp member
        exact texts_length pci text known
    rw [initString_clocked clocked, List.length_flatMap]
    refine Nat.lt_of_le_of_lt sum ?_
    rw [List.length_map]
    exact (by decide : 9 * 23 < 256)
  · rw [initString_unclocked clocked]
    decide

theorem initString_tokens (pci : PcaninfoRates) :
    tokens (chr ',') ((pcaninfoBitrateToInitString pci).take 500) =
      if pci.clocked then pci.texts.map paired else [] := by
  have whole := initString_length pci
  rw [List.take_of_length_le (by omega)]
  split
  case isTrue clocked => rw [initString_clocked clocked, texts_tokens (texts_plain pci)]
  case isFalse clocked => rw [initString_unclocked clocked, tokens_nil]

theorem initString_string (pci : PcaninfoRates) : 0 ∉ pcaninfoBitrateToInitString pci := by
  by_cases clocked : pci.clocked
  · rw [initString_clocked clocked]
    intro member
    obtain ⟨text, known, within⟩ := List.mem_flatMap.mp member
    obtain ⟨named, valued⟩ := texts_plain pci text known
    rcases List.mem_append.mp within with pair | comma
    · rcases List.mem_append.mp pair with key | rest
      · exact (named.char key).2.2.2 rfl
      · rcases List.mem_cons.mp rest with equals | val
        · exact absurd equals (by decide)
        · exact (valued.char val).2.2.2 rfl
    · exact absurd (List.mem_singleton.mp comma) (by decide)
  · rw [initString_unclocked clocked]
    exact List.not_mem_nil

theorem initString_starts (pci : PcaninfoRates) : ¬BlankFirst (pcaninfoBitrateToInitString pci) := by
  rintro ⟨key, blank⟩
  by_cases clocked : pci.clocked
  · obtain ⟨rest, begins⟩ : ∃ rest, pcaninfoBitrateToInitString pci = chr 'f' :: rest :=
      ⟨_, initString_clocked clocked⟩
    rw [begins, List.take_succ_cons, List.takeWhile_cons_of_pos (by decide),
      List.takeWhile_cons_of_pos (by decide), List.all_cons] at blank
    cases blank
  · rw [initString_unclocked clocked] at key
    exact key rfl

theorem initString_parsed (pci : PcaninfoRates) :
    ∃ passes, ∀ more,
      pcanbasicParseFdInitRun true (some (pcaninfoBitrateToInitString pci)) (passes + more) =
        .returned 0 (fdInitOf (if pci.clocked then pci.value else fun _ => 0)) := by
  have pairs := initString_tokens pci
  have zero : PcanfdInit.zero = fdInitOf fun _ => 0 := rfl
  have parsed : parseFdPairs PcanfdInit.zero
      (tokens (chr ',') ((pcaninfoBitrateToInitString pci).take 500)) =
        some (fdInitOf (if pci.clocked then pci.value else fun _ => 0)) := by
    rw [pairs, zero]
    split
    case isTrue => rw [texts_parsed (texts_plain pci), texts_stored]
    case isFalse => rfl
  rcases run_cases (initString_string pci) with ⟨blank, _⟩ | ⟨_, single, _⟩ |
    ⟨_, _, pfdi, read, passes, ends⟩
  · exact absurd blank (initString_starts pci)
  · exact absurd ((parseFdPairs_some_iff _ _).mp ⟨_, parsed⟩) single
  · rw [pcanbasicParseFdInit, if_pos rfl, strtokens_eq, parsed] at read
    obtain rfl := congrArg Prod.snd (Option.some.inj read)
    exact ⟨passes, ends⟩

/-- The settings that a channel tells are the ones that its text is read as, the numbers that are
    written as negative ones among them. Without a clock the text is empty and read as no
    settings. -/
theorem init_string_read_back (pci : PcaninfoRates) :
    (pcaninfoBitrateToInitString pci).length < 256 ∧
      ∃ passes, ∀ more,
        pcanbasicParseFdInitRun true (some (pcaninfoBitrateToInitString pci)) (passes + more) =
          .returned 0 (fdInitOf (if pci.clocked then pci.value else fun _ => 0)) :=
  ⟨initString_length pci, initString_parsed pci⟩

end Result

end PcanDriver

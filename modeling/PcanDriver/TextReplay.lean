import PcanDriver.Lib.Masks
import PcanDriver.TextOutput

/-!
The lines that are read from a device, when they are written to one: a line must stand for the
message that it was made of.
-/
namespace PcanDriver
open LineText

section Statement

structure TextFrame (pf : PcanfdMsg) : Prop where
  can : pf.type.isCan = true
  id : pf.id.toNat < if pf.flags &&& pcanfdMsgExt ≠ 0 then 2 ^ 29 else 2 ^ 11
  length : pf.dataLen.toNat ≤ if pf.type = .canfdMsg then 64 else 8
  rtr : pf.type = .canfdMsg → pf.flags &&& pcanfdMsgRtr = 0
  brs : pf.type = .can20Msg → pf.flags &&& pcanfdMsgBrs = 0

def replayedFlags : U32 := pcanfdMsgRtr ||| pcanfdMsgExt ||| pcanfdMsgBrs ||| pcanfdMsgSlf

structure Replayed (pf : PcanfdMsg) (result : Int × ParsedMsg) : Prop where
  accepted : result.1 = 0
  type : result.2.type = pf.type
  flags : result.2.flags = pf.flags &&& replayedFlags
  id : result.2.id = some pf.id
  dataLen : result.2.dataLen = some pf.dataLen
  data : pf.flags &&& pcanfdMsgRtr = 0 → result.2.data = pf.dataBytes

end Statement

section Letters
variable {pf : PcanfdMsg}

def lineKind (pf : PcanfdMsg) : MsgType × U32 :=
  if pf.flags &&& pcanfdMsgRtr ≠ 0 then
    (.can20Msg, (pf.flags &&& pcanfdMsgSlf) ||| pcanfdMsgRtr)
  else if pf.flags &&& pcanfdMsgBrs ≠ 0 then
    (.canfdMsg, (pf.flags &&& pcanfdMsgSlf) ||| pcanfdMsgBrs)
  else (.can20Msg, pf.flags &&& pcanfdMsgSlf)

theorem letters_read (can : pf.type.isCan = true) :
    messageKind (lineLetters pf).1 = some (lineKind pf) ∧
      formatFlag (lineLetters pf).2 = some (pf.flags &&& pcanfdMsgExt) := by
  have letters : lineLetters pf =
      (if pf.flags &&& pcanfdMsgSlf ≠ 0 then
          (if pf.flags &&& pcanfdMsgRtr ≠ 0 then chr 'r'
            else if pf.flags &&& pcanfdMsgBrs ≠ 0 then chr 'b' else chr 'm') - 0x20
        else if pf.flags &&& pcanfdMsgRtr ≠ 0 then chr 'r'
          else if pf.flags &&& pcanfdMsgBrs ≠ 0 then chr 'b' else chr 'm',
        if pf.flags &&& pcanfdMsgExt ≠ 0 then chr 'e' else chr 's') := by
    unfold lineLetters
    cases type : pf.type with
    | can20Msg => rfl
    | canfdMsg => rfl
    | nop | status | errorMsg | other =>
      rw [type] at can
      cases can
  rw [letters]
  unfold lineKind
  dsimp only
  constructor
  · by_cases rtr : pf.flags &&& pcanfdMsgRtr = 0 <;>
      by_cases brs : pf.flags &&& pcanfdMsgBrs = 0 <;>
      rcases @Masks.flag_cases _ pcanfdMsgSlf 2 rfl pf.flags with slf | slf <;>
      simp only [rtr, brs, slf, ne_eq, not_true, not_false_eq_true, if_true, if_false] <;>
      decide
  · rcases @Masks.flag_cases _ pcanfdMsgExt 1 rfl pf.flags with ext | ext <;>
      rw [ext] <;> decide

theorem lineKind_flags (frame : TextFrame pf) :
    (lineKind pf).2 ||| (pf.flags &&& pcanfdMsgExt) = pf.flags &&& replayedFlags := by
  have parts : pf.flags &&& replayedFlags = (pf.flags &&& pcanfdMsgRtr) |||
      (pf.flags &&& pcanfdMsgExt) ||| (pf.flags &&& pcanfdMsgBrs) |||
      (pf.flags &&& pcanfdMsgSlf) := by
    unfold replayedFlags
    simp only [BitVec.and_or_distrib_left]
  have one : pcanfdMsgRtr ≠ 0 ∧ pcanfdMsgBrs ≠ 0 := by decide
  rw [parts]
  unfold lineKind
  rcases @Masks.flag_cases _ pcanfdMsgRtr 0 rfl pf.flags with rtr | rtr <;>
    rcases @Masks.flag_cases _ pcanfdMsgBrs 20 rfl pf.flags with brs | brs <;>
    rw [rtr, brs] <;>
    generalize pf.flags &&& pcanfdMsgSlf = slf <;>
    generalize pf.flags &&& pcanfdMsgExt = ext
  · rw [if_neg (not_not.mpr rfl), if_neg (not_not.mpr rfl)]
    simp only [BitVec.ofNat_eq_ofNat, BitVec.zero_or, BitVec.or_zero]
    exact BitVec.or_comm _ _
  · rw [if_neg (not_not.mpr rfl), if_pos one.2]
    simp only [BitVec.ofNat_eq_ofNat, BitVec.zero_or]
    ac_rfl
  · rw [if_pos one.1]
    simp only [BitVec.ofNat_eq_ofNat, BitVec.or_zero]
    ac_rfl
  · -- no frame has both
    cases type : pf.type with
    | can20Msg => exact absurd (brs.symm.trans (frame.brs type)) one.2
    | canfdMsg => exact absurd (rtr.symm.trans (frame.rtr type)) one.1
    | nop | status | errorMsg | other =>
      have can := frame.can
      rw [type] at can
      cases can

/-- The type is that of the message unless a CAN FD frame keeps its bit rate. -/
theorem lineKind_type (frame : TextFrame pf) : (lineKind pf).1 = pf.type ↔
    ¬(pf.type = .canfdMsg ∧ pf.flags &&& pcanfdMsgBrs = 0) := by
  unfold lineKind
  cases type : pf.type with
  | can20Msg =>
    rw [frame.brs type]
    refine iff_of_true ?_ nofun
    split <;> rfl
  | canfdMsg =>
    rw [frame.rtr type]
    by_cases brs : pf.flags &&& pcanfdMsgBrs = 0
    · rw [if_neg (not_not.mpr rfl), if_neg (not_not.mpr brs)]
      exact iff_of_false nofun fun other => other ⟨rfl, brs⟩
    · rw [if_neg (not_not.mpr rfl), if_pos brs]
      exact iff_of_true rfl fun keeps => brs keeps.2
  | nop | status | errorMsg | other =>
    have can := frame.can
    rw [type] at can
    cases can

end Letters

section Numbers
variable {pf : PcanfdMsg} {blanks tail : List U8}

theorem dataText_numbers (some_ : blanks ≠ []) (blank : AllBlank blanks) (ds : List U8) :
    ∃ last, Numbers (· ≠ []) (blanks ++ (ds.flatMap dataText ++ tail)) (ds.map BitVec.toNat)
      last := by
  induction ds generalizing blanks with
  | nil => exact ⟨_, .none _⟩
  | cons d ds ih =>
    have single : AllBlank [chr ' '] := by
      intro c member
      rw [List.mem_singleton.mp member]
      rfl
    obtain ⟨last, numbers⟩ := ih (List.cons_ne_nil (chr ' ') []) single
    have number := hexText_numeral 2 d.toNat (ds.flatMap dataText ++ tail)
    refine ⟨last, ?_⟩
    have text : (d :: ds).flatMap dataText ++ tail =
        ascii "0x" ++ padded 2 (chr '0') (numeralText 16 d.toNat) ++
          chr ' ' :: (ds.flatMap dataText ++ tail) := by
      rw [List.flatMap_cons]
      unfold dataText
      simp only [List.append_assoc, List.cons_append, List.nil_append]
    rw [text, List.map_cons]
    exact .next blank some_ number numbers

theorem lineHead_numbers (pf : PcanfdMsg) (tail : List U8) : ∃ rest,
    lineHead pf ++ tail = (lineLetters pf).1 :: ([chr ' '] ++ (lineLetters pf).2 :: rest) ∧
      Numbers (· ≠ []) rest [pf.id.toNat, pf.dataLen.toNat] (ascii "  " ++ tail) := by
  have blanks (k : Nat) : AllBlank (List.replicate k (chr ' ')) := by
    intro c member
    rw [(List.mem_replicate.mp member).2]
    rfl
  let width := 2 - (numeralText 10 pf.dataLen.toNat).length
  have length : Numbers (· ≠ []) (List.replicate (width + 1) (chr ' ') ++
      (numeralText 10 pf.dataLen.toNat ++ chr ' ' :: (chr ' ' :: tail))) [pf.dataLen.toNat]
      (ascii "  " ++ tail) :=
    .next (blanks _) (by simp) (decimalText_numeral _ _) (.none _)
  have id := hexText_numeral 8 pf.id.toNat (List.replicate width (chr ' ') ++
    (numeralText 10 pf.dataLen.toNat ++ chr ' ' :: (chr ' ' :: tail)))
  refine ⟨_, ?_, .next (blanks 1) (by simp) id length⟩
  unfold lineHead padded
  simp [ascii, width]

/-- Where there are only blanks and digits up to the end of the line, no scan fails. -/
theorem parseData_plain {text : List U8}
    (plain : ∀ c ∈ text, isBlank c = true ∨ isDigitOf 10 c = true) (left : Nat)
    (parsed : ParsedMsg) :
    ∃ data, parseData left parsed (text ++ newline :: tail) = (0, { parsed with data }) := by
  induction left generalizing text parsed with
  | zero => exact ⟨parsed.data, rfl⟩
  | succ left ih =>
    unfold parseData
    obtain ⟨blanks, rest, rfl, blank, stops⟩ := word_exists isBlank text
    rw [List.append_assoc]
    cases rest with
    | nil =>
      refine ⟨parsed.data, ?_⟩
      unfold noCr skipBlanks
      rw [List.nil_append, blanks_split blank rfl]
      rfl
    | cons c rest =>
      have digit : isDigitOf 10 c = true := by
        rcases plain c (by simp) with blank | digit
        · rw [stops c rfl] at blank
          cases blank
        · exact digit
      obtain ⟨n, left_, numeral⟩ := numeral_exists digit (rest ++ newline :: tail)
      obtain ⟨goesOn, other⟩ := digit_plain digit
      obtain ⟨taken, line, cut⟩ := numeral.taken
      have inside : ∃ more, left_ = more ++ newline :: tail ∧ c :: rest = taken ++ more := by
        have cut : (c :: rest) ++ newline :: tail = taken ++ left_ := cut
        rcases List.append_eq_append_iff.mp cut with ⟨more, first, second⟩ | ⟨more, first, second⟩
        · cases more with
          | nil => exact ⟨[], second.symm, by rw [first, List.append_nil, List.append_nil]⟩
          | cons d more =>
            obtain ⟨rfl, -⟩ := List.cons.inj second
            exact absurd (first ▸ List.mem_append_right _ List.mem_cons_self) line
        · exact ⟨more, second, first⟩
      obtain ⟨more, rfl, split⟩ := inside
      rw [List.cons_append, noCr_text blank goesOn other, numeral.scan]
      dsimp only
      split
      next => exact ⟨parsed.data, rfl⟩
      next =>
        obtain ⟨data, parse⟩ := @ih more (fun d member => plain d (by
          rw [split]
          simp [member])) { parsed with data := parsed.data ++ [(BitVec.ofNat 32 n).setWidth 8] }
        exact ⟨data, parse⟩

theorem timeText_plain (tv : Timeval) :
    ∀ c ∈ timeText tv, isBlank c = true ∨ isDigitOf 10 c = true := by
  have digits (n : Nat) := (@numeralText_spec 10 (by decide) (by decide) n).1
  have blank : isBlank (chr ' ') = true := rfl
  intro c member
  unfold timeText padded at member
  simp only [List.mem_append, List.mem_cons, List.mem_replicate] at member
  rcases member with (rfl | ⟨-, rfl⟩ | member) | rfl | ⟨-, rfl⟩ | member
  · exact .inl blank
  · exact .inl blank
  · exact .inr (digits _ c member)
  · exact .inl blank
  · exact .inr (by decide)
  · exact .inr (digits _ c member)

end Numbers

section Parsing
variable {pf : PcanfdMsg}

def headParsed (pf : PcanfdMsg) : ParsedMsg :=
  ⟨(lineKind pf).1, pf.flags &&& replayedFlags, some pf.id, some pf.dataLen, []⟩

theorem lineHead_parse (frame : TextFrame pf) (tail : List U8) :
    pcanParseInputMessage (lineHead pf ++ tail) =
      parseData pf.dataLen.toNat (headParsed pf) (ascii "  " ++ tail) := by
  obtain ⟨kind, format⟩ := letters_read frame.can
  obtain ⟨rest, text, numbers⟩ := lineHead_numbers pf tail
  have letters : Letters (· ≠ []) (lineHead pf ++ tail) (lineKind pf).1
      (pf.flags &&& replayedFlags) rest := by
    refine ⟨[], [chr ' '], _, _, _, _, nofun, ?_, List.cons_ne_nil _ _, text, kind, format,
      (lineKind_flags frame).symm⟩
    intro c member
    rw [List.mem_singleton.mp member]
    rfl
  have length : pf.dataLen.toNat ≤ 64 := by
    have allowed := frame.length
    split at allowed <;> omega
  have inRange : ¬idTooLarge (pf.flags &&& replayedFlags) (BitVec.ofNat 32 pf.id.toNat) := by
    have ext : pf.flags &&& replayedFlags &&& pcanfdMsgExt = pf.flags &&& pcanfdMsgExt := by
      rw [BitVec.and_assoc]
      rfl
    have allowed := frame.id
    rw [idTooLarge_iff, ext, Nat.mod_eq_of_lt pf.id.isLt]
    split at allowed
    next extended =>
      rw [if_pos extended]
      omega
    next standard =>
      rw [if_neg standard]
      omega
  have count : (BitVec.ofNat 32 pf.dataLen.toNat).toNat = pf.dataLen.toNat := by
    rw [BitVec.toNat_ofNat]
    exact Nat.mod_eq_of_lt (by omega)
  have short : ¬(64 : U32) < BitVec.ofNat 32 pf.dataLen.toNat := by
    rw [BitVec.lt_def, count]
    exact Nat.not_lt.mpr length
  have narrow : (BitVec.ofNat 32 pf.dataLen.toNat).setWidth 16 = pf.dataLen := by
    apply BitVec.eq_of_toNat_eq
    rw [BitVec.toNat_setWidth, count]
    exact Nat.mod_eq_of_lt pf.dataLen.isLt
  obtain ⟨rest1, numbers, idStep⟩ := @parseId_step _ _
    ⟨(lineKind pf).1, pf.flags &&& replayedFlags, none, none, []⟩ _ _ numbers.lenient
  obtain ⟨rest2, numbers, lengthStep⟩ := @parseLength_step _ _
    ⟨(lineKind pf).1, pf.flags &&& replayedFlags, some (BitVec.ofNat 32 pf.id.toNat), none, []⟩ _ _
    numbers
  cases numbers
  rw [letters.lenient.parse, idStep, if_neg inRange, lengthStep, if_neg short, count, narrow,
    BitVec.ofNat_toNat, BitVec.setWidth_eq]
  rfl

/-- What is read back, whatever stands behind the line: only the type may differ. -/
theorem replayed_parse (frame : TextFrame pf) (tail : List U8) :
    ∃ data, pcanParseInputMessage ((pcanMakeOutput pf).text ++ tail) =
        (0, { headParsed pf with data }) ∧
      (pf.flags &&& pcanfdMsgRtr = 0 → data = pf.dataBytes) := by
  have blanks : ∀ c ∈ ascii "  ", isBlank c = true := by decide
  rw [(makeOutput_spec pf).1, List.append_assoc, List.append_assoc, lineHead_parse frame]
  unfold lineBody
  by_cases rtr : pf.flags &&& pcanfdMsgRtr = 0
  · rw [if_pos rtr, List.append_assoc]
    obtain ⟨last, numbers⟩ := @dataText_numbers (ascii "  ") _ (by decide) blanks pf.dataBytes
    have count : (pf.dataBytes.map BitVec.toNat).length = pf.dataLen.toNat := by
      unfold PcanfdMsg.dataBytes
      rw [List.length_map, List.length_map, List.length_range]
    have same : (pf.dataBytes.map BitVec.toNat).map (fun d => (BitVec.ofNat 32 d).setWidth 8) =
        pf.dataBytes := by
      rw [List.map_map]
      refine List.map_id'' ?_ _
      intro d
      apply BitVec.eq_of_toNat_eq
      simp
    refine ⟨_, ?_, fun _ => rfl⟩
    rw [parseData_numbers numbers.lenient (Nat.le_of_eq count), count, Nat.sub_self, same]
    · rfl
    · intro d member
      obtain ⟨byte, -, rfl⟩ := List.mem_map.mp member
      have := byte.isLt
      omega
  · rw [if_neg rtr, List.nil_append]
    have plain : ∀ c ∈ ascii "  " ++
        (if pf.flags &&& pcanfdTimestamp ≠ 0 then timeText pf.timestamp else []),
        isBlank c = true ∨ isDigitOf 10 c = true := by
      intro c member
      rcases List.mem_append.mp member with member | member
      · exact .inl (blanks c member)
      · split at member
        · exact timeText_plain _ c member
        · cases member
    obtain ⟨data, parse⟩ := @parseData_plain tail _ plain pf.dataLen.toNat (headParsed pf)
    refine ⟨data, ?_, fun other => absurd other rtr⟩
    rw [← parse, List.append_assoc]
    rfl

/-- Every frame is replayed as it was, except for CAN FD frames that keep their bit rate: there
    is no letter for these. -/
theorem text_round_trip_iff (frame : TextFrame pf) (tail : List U8) :
    Replayed pf (pcanParseInputMessage ((pcanMakeOutput pf).text ++ tail)) ↔
      ¬(pf.type = .canfdMsg ∧ pf.flags &&& pcanfdMsgBrs = 0) := by
  obtain ⟨data, parse, same⟩ := replayed_parse frame tail
  rw [parse, ← lineKind_type frame]
  constructor
  · intro replayed
    exact replayed.type
  · intro type
    exact ⟨rfl, type, rfl, rfl, rfl, same⟩

end Parsing

section Samples

def keepsRate : PcanfdMsg := { PcanfdMsg.zero with type := .canfdMsg, dataLen := 1, id := 0x123 }

theorem keepsRate_frame : TextFrame keepsRate := ⟨rfl, by decide, by decide, fun _ => rfl, nofun⟩

/-- The line `m s 0x00000123  1  0x00` is a CAN 2.0 message. -/
theorem keepsRate_not_replayed : TextFrame keepsRate ∧
    ¬Replayed keepsRate (pcanParseInputMessage (pcanMakeOutput keepsRate).text) := by
  refine ⟨keepsRate_frame, ?_⟩
  have read : (pcanParseInputMessage (pcanMakeOutput keepsRate).text).2.type = .can20Msg := by
    decide +kernel
  intro replayed
  rw [replayed.type] at read
  cases read

def switchesRate : PcanfdMsg :=
  { keepsRate with
    flags := pcanfdMsgBrs ||| pcanfdMsgExt ||| pcanfdMsgSlf ||| pcanfdTimestamp
    timestamp := ⟨5, 1002⟩ }

theorem switchesRate_replayed : TextFrame switchesRate ∧
    Replayed switchesRate (pcanParseInputMessage ((pcanMakeOutput switchesRate).text ++ [])) := by
  have frame : TextFrame switchesRate := ⟨rfl, by decide, by decide, fun _ => rfl, nofun⟩
  exact ⟨frame, (text_round_trip_iff frame []).mpr (by decide)⟩

end Samples
end PcanDriver

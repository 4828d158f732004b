import PcanDriver.TextParse

/-!
The scanner of bitrate strings as it works on its buffer (`scan_bitrate_string` of
`pcan_parse.c`): it ends keywords and values with a NUL for the time that it looks at them. What it
finds is what `scanBitrateString` finds, and the buffer is left as it was.
-/
namespace PcanDriver
open LineText

section Source

/-- Where the record ends and where its last `=` is, which is `pe` if there is none. -/
def recordEnd : List U8 → Nat → Nat → Nat × Nat
  | [], ps, pe => (ps, pe)
  | c :: rest, ps, pe =>
    if c = chr ',' ∨ isEow c = true then (ps, pe)
    else recordEnd rest (ps + 1) (if c = chr '=' then ps else pe)

def cString (buffer : List U8) (p : Nat) : List U8 := (buffer.drop p).takeWhile (· ≠ 0)

def scanBitrateLoop : Nat → List U8 → Nat → PcanfdInit → List U8 × Option PcanfdInit
  | 0, buffer, _, pfdi => (buffer, some pfdi)
  | rounds + 1, buffer, pc, pfdi =>
    if isEow (buffer.getD pc 0) then (buffer, some pfdi)
    else
      let (ps, pe) := recordEnd (buffer.drop pc) pc pc
      if pe = pc then (buffer, none)
      else
        let cut := buffer.set pe 0
        let pv := bitrateKeyword (cString cut pc)
        let buffer := cut.set pe (chr '=')
        let next := fun buffer pfdi =>
          if isEow (buffer.getD ps 0) then (buffer, some pfdi)
          else scanBitrateLoop rounds buffer (ps + 1) pfdi
        match pv with
        | none => next buffer pfdi
        | some set =>
          let tmp := buffer.getD ps 0
          let cut := buffer.set ps 0
          let err := strtounit (cString cut (pe + 1))
          let buffer := cut.set ps tmp
          match err with
          | .error _ => (buffer, none)
          | .ok v => next buffer (match v with | none => pfdi | some v => set pfdi v)

/-- `scan_bitrate_string` from position `p` on; it has no more rounds than characters. -/
def scanBitrateBuffer (buffer : List U8) (p : Nat) (pfdi : PcanfdInit) :
    List U8 × Option PcanfdInit :=
  scanBitrateLoop ((buffer.drop p).takeWhile (!isEow ·)).length buffer p pfdi

def btrSettings (btr0btr1 : U32) : PcanfdInit :=
  { PcanfdInit.zero with
    clockHz := 8 * mhz
    nominal := pcanBtr0btr1ToBittiming PcanBittiming.zero (btr0btr1.setWidth 16) }

/-- `pcan_parse_input_init` with the buffer that it leaves. The switches are looked for where the
    string starts. -/
def pcanParseInputInitBuffer (buffer : List U8) : List U8 × Option PcanfdInit :=
  let start := buffer.dropWhile isBlank
  let text := start.tail.dropWhile isBlank
  if start.headD 0 ≠ chr 'i' then (buffer, none)
  else if isEol (text.headD 0) then (buffer, none)
  else
    scanUnsignedNumber (fun number rest =>
      let ptr := buffer.length - rest.length
      match number with
      | some btr0btr1 =>
        (buffer, if 0xffff < btr0btr1 then none
          else some (fdFlag (scanSwitches 2 (btrSettings btr0btr1) rest)))
      | none =>
        let scanned := scanBitrateBuffer buffer ptr PcanfdInit.zero
        (scanned.1, scanned.2.map fun pfdi => fdFlag (scanSwitches 2 pfdi (scanned.1.drop ptr))))
      text

end Source

section Records
variable {key value rest : List U8}

def InRecord (c : U8) : Prop := c ≠ chr ',' ∧ isEow c = false

def RecordEnds (rest : List U8) : Prop := ∀ c ∈ rest.head?, c = chr ',' ∨ isEow c = true

theorem recordEnd_stop (ends : RecordEnds rest) (ps pe : Nat) : recordEnd rest ps pe = (ps, pe) := by
  cases rest with
  | nil => rfl
  | cons c rest =>
    unfold recordEnd
    rw [if_pos (ends c rfl)]

theorem recordEnd_value (inside : ∀ c ∈ value, InRecord c ∧ c ≠ chr '=') (ends : RecordEnds rest)
    (ps pe : Nat) : recordEnd (value ++ rest) ps pe = (ps + value.length, pe) := by
  induction value generalizing ps with
  | nil => exact recordEnd_stop ends ps pe
  | cons c value ih =>
    obtain ⟨⟨comma, word⟩, equals⟩ := inside c List.mem_cons_self
    rw [List.cons_append]
    unfold recordEnd
    rw [if_neg (by simp [comma, word]), if_neg equals,
      ih fun d member => inside d (List.mem_cons_of_mem _ member), List.length_cons]
    congr 1
    omega

theorem recordEnd_eq (inside : ∀ c ∈ key, InRecord c) (plain : ∀ c ∈ value, InRecord c ∧ c ≠ chr '=')
    (ends : RecordEnds rest) (ps pe : Nat) :
    recordEnd (key ++ chr '=' :: (value ++ rest)) ps pe =
      (ps + (key.length + 1 + value.length), ps + key.length) := by
  induction key generalizing ps pe with
  | nil =>
    have goesOn : ¬(chr '=' = chr ',' ∨ isEow (chr '=') = true) := by decide
    rw [List.nil_append]
    unfold recordEnd
    rw [if_neg goesOn, if_pos rfl, recordEnd_value plain ends]
    simp only [List.length_nil]
    congr 1
    omega
  | cons c key ih =>
    obtain ⟨comma, word⟩ := inside c List.mem_cons_self
    rw [List.cons_append]
    unfold recordEnd
    rw [if_neg (by simp [comma, word]), ih fun d member => inside d (List.mem_cons_of_mem _ member),
      List.length_cons]
    congr 1 <;> omega

theorem splitRecord_eq (plain : chr '=' ∉ value) :
    splitRecord (key ++ chr '=' :: value) = if key ≠ [] then some (key, value) else none := by
  have each : ∀ c ∈ value.reverse, decide (c ≠ chr '=') = true := by
    intro c member
    rw [decide_eq_true_eq]
    rintro rfl
    exact plain (List.mem_reverse.mp member)
  have last : ((key ++ chr '=' :: value).reverse.takeWhile (· ≠ chr '=')).reverse = value := by
    rw [List.reverse_append, List.reverse_cons, List.append_assoc,
      (word_split each (by simp)).1, List.reverse_reverse]
  unfold splitRecord
  simp only [last, List.length_append, List.length_cons]
  have front : (key ++ chr '=' :: value).take (key.length + (value.length + 1) - value.length - 1) =
      key := by
    rw [show key.length + (value.length + 1) - value.length - 1 = key.length by omega,
      List.take_left]
  rw [front]
  by_cases none : key = []
  · rw [if_neg (not_not.mpr none), if_neg fun both => both.2 none]
  · rw [if_pos none, if_pos ⟨by omega, none⟩]

theorem splitRecord_none {record : List U8} (plain : chr '=' ∉ record) :
    splitRecord record = none := by
  have each : ∀ c ∈ record.reverse, decide (c ≠ chr '=') = true := by
    intro c member
    rw [decide_eq_true_eq]
    rintro rfl
    exact plain (List.mem_reverse.mp member)
  have whole : (record.reverse.takeWhile (· ≠ chr '=')).reverse = record := by
    have all := (@word_split _ _ _ [] each (by simp)).1
    rw [List.append_nil] at all
    rw [all, List.reverse_reverse]
  unfold splitRecord
  simp only [whole]
  exact if_neg fun both => Nat.lt_irrefl _ both.1

theorem record_cases (record : List U8) : chr '=' ∉ record ∨
    ∃ key value, record = key ++ chr '=' :: value ∧ chr '=' ∉ value := by
  by_cases found : chr '=' ∈ record
  · obtain ⟨back, front, split, first⟩ :=
      List.eq_append_cons_of_mem (List.mem_reverse.mpr found)
    refine .inr ⟨front.reverse, back.reverse, ?_, fun member => first (List.mem_reverse.mp member)⟩
    rw [← List.reverse_reverse record, split]
    simp
  · exact .inl found

end Records

section Buffers
variable {front key value rest : List U8}

theorem set_behind (front rest : List U8) (c d : U8) :
    (front ++ c :: rest).set front.length d = front ++ d :: rest := by
  simp

theorem set_restored (buffer : List U8) (i : Nat) (c : U8) :
    (buffer.set i c).set i (buffer.getD i 0) = buffer := by
  rw [List.set_set]
  by_cases inside : i < buffer.length
  · rw [List.getD_eq_getElem?_getD, List.getElem?_eq_getElem inside, Option.getD_some,
      List.set_getElem_self]
  · exact List.set_eq_of_length_le (Nat.not_lt.mp inside)

theorem cString_behind {word : List U8} (each : ∀ c ∈ word, c ≠ 0)
    (ends : ∀ c ∈ rest.head?, c = 0) : cString (front ++ (word ++ rest)) front.length = word := by
  unfold cString
  rw [List.drop_left]
  exact (word_split (by simpa using each) (by simpa using ends)).1

theorem inRecord_nonzero {c : U8} (inside : InRecord c) : c ≠ 0 := by
  rintro rfl
  exact absurd inside.2 (by decide)

theorem getD_behind (front rest : List U8) : (front ++ rest).getD front.length 0 = rest.headD 0 := by
  cases rest <;> simp

theorem cString_value (plain : ∀ c ∈ value, c ≠ 0) (rest : List U8) :
    cString ((front ++ (value ++ rest)).set (front.length + value.length) 0) front.length =
      value := by
  have place : front.length + value.length = (front ++ value).length := List.length_append.symm
  rw [← List.append_assoc, place]
  cases rest with
  | nil =>
    have whole := @cString_behind front [] value plain (by simp)
    rw [List.append_nil] at whole ⊢
    rw [List.set_eq_of_length_le Nat.le.refl]
    exact whole
  | cons c rest =>
    rw [set_behind, List.append_assoc]
    refine cString_behind plain ?_
    rintro d ⟨⟩
    rfl

theorem scanBitrateLoop_record (inside : ∀ c ∈ key, InRecord c) (some_ : key ≠ [])
    (plain : ∀ c ∈ value, InRecord c ∧ c ≠ chr '=') (ends : RecordEnds rest) (rounds : Nat)
    (pfdi : PcanfdInit) {buffer : List U8}
    (buffered : buffer = front ++ (key ++ chr '=' :: (value ++ rest))) :
    let next := fun pfdi =>
      if isEow (rest.headD 0) then (buffer, some pfdi)
      else scanBitrateLoop rounds buffer (front.length + (key.length + 1 + value.length) + 1) pfdi
    scanBitrateLoop (rounds + 1) buffer front.length pfdi =
      match bitrateKeyword key with
      | none => next pfdi
      | some set =>
        match strtounit value with
        | .error _ => (buffer, none)
        | .ok v => next (match v with | none => pfdi | some v => set pfdi v) := by
  have first : isEow (buffer.getD front.length 0) = false := by
    rw [buffered, getD_behind]
    obtain ⟨c, key, rfl⟩ := List.exists_cons_of_ne_nil some_
    exact (inside c List.mem_cons_self).2
  have found : recordEnd (buffer.drop front.length) front.length front.length =
      (front.length + (key.length + 1 + value.length), front.length + key.length) := by
    rw [buffered, List.drop_left]
    exact recordEnd_eq inside plain ends _ _
  have later : front.length + key.length ≠ front.length := by
    have := List.length_pos_iff.mpr some_
    omega
  have place : front.length + key.length = (front ++ key).length := List.length_append.symm
  have cut : buffer.set (front.length + key.length) 0 =
      front ++ (key ++ 0 :: (value ++ rest)) := by
    rw [buffered, place, ← List.append_assoc, set_behind, List.append_assoc]
  have keyword : cString (buffer.set (front.length + key.length) 0) front.length = key := by
    rw [cut]
    refine cString_behind (fun c member => inRecord_nonzero (inside c member)) ?_
    rintro c ⟨⟩
    rfl
  have joined : (buffer.set (front.length + key.length) 0).set (front.length + key.length)
      (chr '=') = buffer := by
    rw [cut, place, ← List.append_assoc, set_behind, List.append_assoc, buffered]
  have behind : buffer = (front ++ (key ++ [chr '='])) ++ (value ++ rest) := by
    rw [buffered]
    simp only [List.append_assoc, List.cons_append, List.nil_append]
  have text : cString (buffer.set (front.length + (key.length + 1 + value.length)) 0)
      (front.length + key.length + 1) = value := by
    have start : front.length + key.length + 1 = (front ++ (key ++ [chr '='])).length := by
      simp only [List.length_append, List.length_singleton]
      omega
    have stop : front.length + (key.length + 1 + value.length) =
        (front ++ (key ++ [chr '='])).length + value.length := by
      rw [← start]
      omega
    rw [start, stop, behind]
    exact cString_value (fun c member => inRecord_nonzero (plain c member).1) rest
  have last : buffer.getD (front.length + (key.length + 1 + value.length)) 0 = rest.headD 0 := by
    have stop : front.length + (key.length + 1 + value.length) =
        (front ++ (key ++ [chr '=']) ++ value).length := by
      simp only [List.length_append, List.length_singleton]
      omega
    rw [behind, ← List.append_assoc, stop, getD_behind]
  have kept := set_restored buffer (front.length + (key.length + 1 + value.length)) 0
  rw [last] at kept
  intro next
  rw [scanBitrateLoop]
  simp only [first, Bool.false_eq_true, if_false, found, if_neg later, keyword, joined, text, last,
    kept]
  rfl

end Buffers

section Equality
variable {record rest : List U8}

theorem scanRecords_nil (rounds : Nat) (pfdi : PcanfdInit) :
    scanRecords rounds [] pfdi = some pfdi := by
  cases rounds <;> rfl

theorem word_record (inside : ∀ c ∈ record, InRecord c) (ends : RecordEnds rest) :
    let word := (record ++ rest).takeWhile (!isEow ·)
    word.takeWhile (· ≠ chr ',') = record ∧
      (word.dropWhile (· ≠ chr ',')).tail = (rest.takeWhile (!isEow ·)).tail := by
  have word : (record ++ rest).takeWhile (!isEow ·) = record ++ rest.takeWhile (!isEow ·) :=
    List.takeWhile_append_of_pos fun c member => by simp [(inside c member).2]
  have each : ∀ c ∈ record, decide (c ≠ chr ',') = true := fun c member =>
    decide_eq_true (inside c member).1
  have stops : ∀ c ∈ (rest.takeWhile (!isEow ·)).head?, decide (c ≠ chr ',') = false := by
    cases rest with
    | nil => nofun
    | cons c rest =>
      cases eow : isEow c with
      | true => simp [eow]
      | false =>
        rcases ends c rfl with rfl | other
        · simp [eow]
        · rw [eow] at other
          cases other
  intro word_
  rw [show word_ = _ from word]
  obtain ⟨first, behind⟩ := word_split each stops
  exact ⟨first, congrArg List.tail behind⟩

theorem inRecord_iff {c : U8} : (decide (c ≠ chr ',') && !isEow c) = true ↔ InRecord c := by
  unfold InRecord
  rw [Bool.and_eq_true, decide_eq_true_eq, Bool.not_eq_true']

theorem scanBitrateLoop_refuse {front record rest : List U8} (inside : ∀ c ∈ record, InRecord c)
    (ends : RecordEnds rest) (word : isEow ((record ++ rest).headD 0) = false)
    (keyless : chr '=' ∉ record ∨ ∃ value, record = chr '=' :: value ∧ chr '=' ∉ value)
    (rounds : Nat) (pfdi : PcanfdInit) :
    scanBitrateLoop (rounds + 1) (front ++ (record ++ rest)) front.length pfdi =
      (front ++ (record ++ rest), none) ∧ splitRecord record = none := by
  have first : isEow ((front ++ (record ++ rest)).getD front.length 0) = false := by
    rw [getD_behind]
    exact word
  have found : (recordEnd (record ++ rest) front.length front.length).2 = front.length := by
    rcases keyless with none | ⟨value, rfl, none⟩
    · rw [recordEnd_value (fun c member => ⟨inside c member, fun same => none (same ▸ member)⟩) ends]
    · have plain : ∀ c ∈ value, InRecord c ∧ c ≠ chr '=' := fun c member =>
        ⟨inside c (List.mem_cons_of_mem _ member), fun same => none (same ▸ member)⟩
      have record := @recordEnd_eq [] value rest nofun plain ends front.length front.length
      rw [List.nil_append] at record
      rw [List.cons_append, record]
      rfl
  constructor
  · rw [scanBitrateLoop]
    simp only [first, Bool.false_eq_true, if_false, List.drop_left, found, if_true]
  · rcases keyless with none | ⟨value, rfl, none⟩
    · exact splitRecord_none none
    · exact @splitRecord_eq [] value none

theorem word_nil {text : List U8} (ends : isEow (text.headD 0) = true) :
    text.takeWhile (!isEow ·) = [] := by
  cases text with
  | nil => rfl
  | cons c text =>
    rw [List.headD_cons] at ends
    simp [ends]

theorem word_cons {text : List U8} (goesOn : isEow (text.headD 0) = false) :
    ∃ c text', text = c :: text' ∧
      text.takeWhile (!isEow ·) = c :: text'.takeWhile (!isEow ·) := by
  cases text with
  | nil => cases goesOn
  | cons c text =>
    rw [List.headD_cons] at goesOn
    exact ⟨c, text, rfl, by simp [goesOn]⟩

theorem record_exists (text : List U8) : ∃ record rest, text = record ++ rest ∧
    (∀ c ∈ record, InRecord c) ∧ RecordEnds rest := by
  obtain ⟨record, rest, rfl, inside, stops⟩ :=
    word_exists (fun c => decide (c ≠ chr ',') && !isEow c) text
  refine ⟨record, rest, rfl, fun c member => inRecord_iff.mp (inside c member), ?_⟩
  intro c member
  have stop := stops c member
  by_contra neither
  rw [not_or, Bool.not_eq_true] at neither
  rw [inRecord_iff.mpr neither] at stop
  cases stop

theorem scanBitrateLoop_next {buffer front record rest : List U8} {pc rounds : Nat}
    (whole : buffer = front ++ (record ++ rest)) (place : pc = front.length + record.length + 1)
    (later : ∀ pc pfdi, scanBitrateLoop rounds buffer pc pfdi =
      (buffer, scanRecords rounds ((buffer.drop pc).takeWhile (!isEow ·)) pfdi))
    (pfdi : PcanfdInit) :
    (if isEow (rest.headD 0) then (buffer, some pfdi)
      else scanBitrateLoop rounds buffer pc pfdi) =
    (buffer, scanRecords rounds (rest.takeWhile (!isEow ·)).tail pfdi) := by
  cases stop : isEow (rest.headD 0) with
  | true =>
    rw [word_nil stop, List.tail_nil, scanRecords_nil]
    rfl
  | false =>
    obtain ⟨c, rest, rfl, word⟩ := word_cons stop
    have behind : buffer.drop pc = rest := by
      rw [whole, place, ← List.drop_drop, ← List.drop_drop, List.drop_left, List.drop_left]
      rfl
    rw [if_neg Bool.false_ne_true, later, behind, word, List.tail_cons]

theorem scanBitrateLoop_eq (rounds : Nat) (buffer : List U8) (pc : Nat) (pfdi : PcanfdInit) :
    scanBitrateLoop rounds buffer pc pfdi =
      (buffer, scanRecords rounds ((buffer.drop pc).takeWhile (!isEow ·)) pfdi) := by
  induction rounds generalizing pc pfdi with
  | zero => rfl
  | succ rounds ih =>
    -- the loop ends where the word does
    by_cases over_ : isEow ((buffer.drop pc).headD 0) = true
    · have first : isEow (buffer.getD pc 0) = true := by
        rw [← over_, List.headD_eq_head?_getD, List.head?_drop, List.getD_eq_getElem?_getD]
      rw [scanBitrateLoop, if_pos first, word_nil over_]
      rfl
    · have goesOn := Bool.eq_false_iff.mpr over_
      have within : pc ≤ buffer.length := by
        by_contra behind
        rw [List.drop_eq_nil_of_le (Nat.le_of_not_le behind)] at over_
        exact over_ rfl
      obtain ⟨front, text, rfl, rfl⟩ : ∃ front text, buffer = front ++ text ∧ pc = front.length :=
        ⟨buffer.take pc, buffer.drop pc, (List.take_append_drop pc buffer).symm,
          (List.length_take_of_le within).symm⟩
      rw [List.drop_left] at goesOn ⊢
      obtain ⟨record, rest, rfl, inside, ends⟩ := record_exists text
      obtain ⟨first, behind⟩ := word_record inside ends
      obtain ⟨c, word, -, more⟩ := word_cons goesOn
      rw [more] at first behind ⊢
      unfold scanRecords
      dsimp only
      rw [first, behind]
      rcases record_cases record with none | ⟨key, value, rfl, none⟩
      · obtain ⟨loop, split⟩ := scanBitrateLoop_refuse inside ends goesOn (.inl none) rounds pfdi
        rw [loop, split]
      · by_cases empty : key = []
        · subst empty
          obtain ⟨loop, split⟩ :=
            scanBitrateLoop_refuse inside ends goesOn (.inr ⟨value, rfl, none⟩) rounds pfdi
          rw [loop, split]
        · have keys : ∀ c ∈ key, InRecord c := fun c member =>
            inside c (List.mem_append_left _ member)
          have values : ∀ c ∈ value, InRecord c ∧ c ≠ chr '=' := fun c member =>
            ⟨inside c (List.mem_append_right _ (List.mem_cons_of_mem _ member)),
              fun same => none (same ▸ member)⟩
          have place : front.length + (key.length + 1 + value.length) + 1 =
              front.length + (key ++ chr '=' :: value).length + 1 := by
            simp only [List.length_append, List.length_cons]
            omega
          have next := scanBitrateLoop_next rfl place ih
          have whole : front ++ (key ++ chr '=' :: value ++ rest) =
              front ++ (key ++ chr '=' :: (value ++ rest)) := by
            rw [List.append_assoc, List.cons_append]
          have record := scanBitrateLoop_record keys empty values ends rounds pfdi whole
          rw [record, splitRecord_eq none, if_pos empty]
          dsimp only
          cases bitrateKeyword key with
          | none => exact next pfdi
          | some set =>
            cases strtounit value with
            | error c => rfl
            | ok v => exact next _

theorem scanUnsignedNumber_reads (text : List U8) : ∃ number rest, rest <:+ text ∧
    ∀ (R : Type) (next : Option U32 → Scan R), scanUnsignedNumber next text = next number rest := by
  have digits (base : Nat) (digits : List U8) (part : digits <:+ text) : ∃ number rest,
      rest <:+ text ∧ ∀ (R : Type) (next : Option U32 → Scan R),
        scanDigits base next digits = next number rest :=
    ⟨_, _, (List.dropWhile_suffix _).trans part, fun _ _ => rfl⟩
  by_cases marked : hexPrefix text
  · obtain ⟨number, rest, part, reads⟩ := digits 16 (text.drop 2) (List.drop_suffix 2 text)
    refine ⟨number, rest, part, fun R next => ?_⟩
    unfold scanUnsignedNumber
    rw [if_pos marked, reads]
  · by_cases octal : text.headD 0 = chr '0'
    · obtain ⟨number, rest, part, reads⟩ := digits 8 text (List.suffix_refl text)
      refine ⟨number, rest, part, fun R next => ?_⟩
      unfold scanUnsignedNumber
      rw [if_neg marked, if_pos octal, reads]
    · obtain ⟨number, rest, part, reads⟩ := digits 10 text (List.suffix_refl text)
      refine ⟨number, rest, part, fun R next => ?_⟩
      unfold scanUnsignedNumber
      rw [if_neg marked, if_neg octal, reads]

theorem parseInputInitBuffer_eq (buffer : List U8) :
    pcanParseInputInitBuffer buffer = (buffer, pcanParseInputInit buffer) := by
  unfold pcanParseInputInitBuffer pcanParseInputInit scanChar noCr skipBlanks
  by_cases other : (buffer.dropWhile isBlank).headD 0 = chr 'i'
  · simp only [other, ne_eq, not_true, if_false, if_true]
    split
    next => rfl
    next =>
      obtain ⟨number, rest, part, reads⟩ :=
        scanUnsignedNumber_reads ((buffer.dropWhile isBlank).tail.dropWhile isBlank)
      have whole : rest <:+ buffer := part.trans ((List.dropWhile_suffix _).trans
        ((List.tail_suffix _).trans (List.dropWhile_suffix _)))
      have place : buffer.drop (buffer.length - rest.length) = rest :=
        (List.suffix_iff_eq_drop.mp whole).symm
      unfold parseRate
      rw [reads, reads]
      cases number with
      | some btr0btr1 =>
        dsimp only
        split <;> rfl
      | none =>
        have scanned : scanBitrateBuffer buffer (buffer.length - rest.length) PcanfdInit.zero =
            (buffer, scanBitrateString PcanfdInit.zero rest) := by
          unfold scanBitrateBuffer scanBitrateString
          rw [scanBitrateLoop_eq, place]
        simp only [scanned, place, Option.map_map]
        rfl
  · simp only [ne_eq, other, not_false_eq_true, if_true, if_false]

end Equality
end PcanDriver

import PcanDriver.BasicBitrates
import PcanDriver.Lib.CStrings

/-!
The text of a bit rate as `pcanbasic_parse_fd_init` of `pcbcore.c` works on it: a copy of at most
500 characters, two scans that store terminators in it, and two trims of each pair in place.
-/
namespace PcanDriver

open CStrings

section Source

def pcanbasicLtrimAt (buf : List U8) (s : Nat) : Nat :=
  s + ((strAt 0 buf s).takeWhile isSpace).length

/-- `while (isspace(*--back));` from `back`, and `back + 1` after it. There is none when the loop
    reads outside the buffer. -/
def rtrimBack (buf : List U8) : Nat → Option Nat
  | 0 => none
  | back + 1 =>
    match buf[back]? with
    | some c => if isSpace c then rtrimBack buf back else some (back + 1)
    | none => none

/-- The buffer that the trim leaves, if it neither reads nor writes outside. -/
def pcanbasicRtrimAt (buf : List U8) (s : Nat) : Option (List U8) :=
  match rtrimBack buf (s + (strAt 0 buf s).length) with
  | some q => if q < buf.length then some (buf.set q 0) else none
  | none => none

def pcanbasicTrimAt (buf : List U8) (s : Nat) : Option (List U8 × Nat) :=
  (pcanbasicRtrimAt buf (pcanbasicLtrimAt buf s)).map (·, pcanbasicLtrimAt buf s)

def fdSet (pfdi : PcanfdInit) (skey : List U8) (val : U32) : PcanfdInit :=
  match fdParam skey with
  | some set => set pfdi val
  | none => pfdi

structure FdParse where
  sfdInit : List U8
  pfdi : PcanfdInit
  tok : Option Nat
  saveptr1 : Nat
deriving Repr, DecidableEq

/-- The loop's body for the token at `tok`. A `continue` leaves `tok` as it is. -/
def fdPass (st : FdParse) (tok : Nat) : Option FdParse :=
  match strtok 0 (chr '=') st.sfdInit tok with
  | (buf, none, _) => some { st with sfdInit := buf }
  | (buf, some skey, saveptr2) =>
    match pcanbasicTrimAt buf skey with
    | none => none
    | some (buf, skey) =>
      match strtok 0 (chr '=') buf saveptr2 with
      | (buf, none, _) => some { st with sfdInit := buf }
      | (buf, some sval, _) =>
        match pcanbasicTrimAt buf sval with
        | none => none
        | some (buf, sval) =>
          let val := strtoul (strAt 0 buf sval)
          let pfdi := fdSet st.pfdi (strAt 0 buf skey) val
          let (buf, tok, saveptr1) := strtok 0 (chr ',') buf st.saveptr1
          some { sfdInit := buf, pfdi, tok, saveptr1 }

inductive FdRun where
  | running
  | outside
  | returned (err : Int) (pfdi : PcanfdInit)
deriving Repr, DecidableEq

def fdLoop : Nat → FdParse → FdRun
  | 0, _ => .running
  | passes + 1, st =>
    match st.tok with
    | none => .returned 0 st.pfdi
    | some tok =>
      match fdPass st tok with
      | none => .outside
      | some st' => fdLoop passes st'

def fdStart (text : List U8) : FdParse :=
  let (buf, tok, saveptr1) := strtok 0 (chr ',') (text.take 500 ++ [0]) 0
  { sfdInit := buf, pfdi := PcanfdInit.zero, tok, saveptr1 }

/-- The call after so many passes of its loop. -/
def pcanbasicParseFdInitRun (copied : Bool) (fdbitrate : Option (List U8)) (passes : Nat) :
    FdRun :=
  match fdbitrate with
  | none => .returned einval PcanfdInit.zero
  | some text => if copied then fdLoop passes (fdStart text) else .returned enomem PcanfdInit.zero

end Source

theorem strtokens_eq (delim : U8) (text : List U8) : strtokens delim text = tokens delim text :=
  rfl

section Trim

theorem rtrimBack_blanks {buf : List U8} {s : Nat} :
    ∀ {n : Nat}, (∀ i < n, ∃ c, buf[s + i]? = some c ∧ isSpace c = true) →
      rtrimBack buf (s + n) = rtrimBack buf s
  | 0, _ => rfl
  | n + 1, blanks => by
    obtain ⟨c, read, blank⟩ := blanks n (Nat.lt_succ_self n)
    rw [← Nat.add_assoc, rtrimBack, read]
    dsimp only
    rw [if_pos blank]
    exact rtrimBack_blanks fun i before => blanks i (Nat.lt_succ_of_lt before)

theorem rtrimBack_guarded {buf : List U8} {s : Nat} (guarded : StopsBefore isSpace buf s)
    (positive : 0 < s) (inside : s ≤ buf.length) : rtrimBack buf s = some s := by
  obtain ⟨back, rfl⟩ := Nat.exists_eq_add_one_of_ne_zero positive.ne'
  have read : buf[back]? = some buf[back] := List.getElem?_eq_getElem _
  rw [rtrimBack, read]
  dsimp only
  rw [if_neg]
  simpa using guarded _ positive read

theorem rtrimBack_spec {buf : List U8} {s : Nat} (guarded : StopsBefore isSpace buf s)
    (inside : s ≤ buf.length) :
    rtrimBack buf (s + (strAt 0 buf s).length)
      = if s = 0 ∧ (strAt 0 buf s).rdropWhile isSpace = [] then none
        else some (s + ((strAt 0 buf s).rdropWhile isSpace).length) := by
  have split := @List.rdropWhile_append_rtakeWhile _ isSpace (strAt 0 buf s)
  have read : ∀ i, i < (strAt 0 buf s).length → buf[s + i]? = (strAt 0 buf s)[i]? :=
    fun i before => getElem?_of_strAt before
  have last := @List.rdropWhile_last_not _ isSpace (strAt 0 buf s)
  have tail : ∀ c ∈ (strAt 0 buf s).rtakeWhile isSpace, isSpace c = true :=
    fun c mem => List.mem_rtakeWhile_imp mem
  generalize (strAt 0 buf s).rdropWhile isSpace = body at split last ⊢
  generalize (strAt 0 buf s).rtakeWhile isSpace = blanks at split tail
  rw [← split] at read ⊢
  rw [List.length_append, ← Nat.add_assoc, rtrimBack_blanks]
  · by_cases none_left : body = []
    · subst none_left
      by_cases first : s = 0
      · rw [if_pos ⟨first, rfl⟩, first]
        rfl
      · rw [if_neg (fun both => first both.1)]
        exact rtrimBack_guarded guarded (Nat.pos_of_ne_zero first) inside
    · rw [if_neg (fun both => none_left both.2)]
      have positive := List.length_pos_of_ne_nil none_left
      have at_last := read (body.length - 1) (by rw [List.length_append]; omega)
      rw [List.getElem?_append_left (by omega), ← List.getLast?_eq_getElem?,
        List.getLast?_eq_some_getLast none_left] at at_last
      rw [show s + body.length = s + (body.length - 1) + 1 by omega, rtrimBack, at_last]
      dsimp only
      rw [if_neg (last none_left)]
  · intro i before
    have within : body.length + i < (body ++ blanks).length := by
      rw [List.length_append]
      omega
    rw [Nat.add_assoc, read _ within, List.getElem?_append_right (Nat.le_add_right _ _),
      Nat.add_sub_cancel_left]
    exact ⟨blanks[i], List.getElem?_eq_getElem before, tail _ (List.getElem_mem _)⟩

theorem rdropWhile_of_some {K : List U8} (some_text : K.rdropWhile isSpace ≠ []) :
    K.rdropWhile isSpace = K.takeWhile isSpace ++ pcanbasicTrim K := by
  have split := @List.takeWhile_append_dropWhile _ isSpace K
  have rest : (K.dropWhile isSpace).reverse.dropWhile isSpace ≠ [] := by
    intro none_left
    apply some_text
    rw [List.rdropWhile_eq_nil_iff]
    intro c mem
    rw [← split, List.mem_append] at mem
    rcases mem with front | back
    · exact List.mem_takeWhile_imp front
    · exact List.dropWhile_eq_nil_iff.mp none_left c (List.mem_reverse.mpr back)
  conv => lhs; rw [← split]
  unfold List.rdropWhile pcanbasicTrim
  rw [List.reverse_append, List.dropWhile_append, if_neg (by simpa using rest),
    List.reverse_append, List.reverse_reverse]

theorem pcanbasicTrim_of_blank {K : List U8} (none_left : K.rdropWhile isSpace = []) :
    K.dropWhile isSpace = [] ∧ pcanbasicTrim K = [] := by
  have blanks := List.dropWhile_eq_nil_iff.mpr (List.rdropWhile_eq_nil_iff.mp none_left)
  exact ⟨blanks, by rw [pcanbasicTrim, blanks]; rfl⟩

theorem strAt_trimmed (buf : List U8) (s : Nat) :
    strAt 0 (buf.set (s + ((strAt 0 buf s).rdropWhile isSpace).length) 0)
      (pcanbasicLtrimAt buf s) = pcanbasicTrim (strAt 0 buf s) := by
  have skipped := (List.takeWhile_prefix (p := isSpace) (l := strAt 0 buf s)).length_le
  have core : strAt 0 buf (pcanbasicLtrimAt buf s) = (strAt 0 buf s).dropWhile isSpace := by
    have split := @List.takeWhile_append_dropWhile _ isSpace (strAt 0 buf s)
    rw [pcanbasicLtrimAt, strAt_add skipped]
    conv => lhs; arg 2; rw [← split]
    exact List.drop_left' rfl
  rw [strAt_set, core]
  by_cases none_left : (strAt 0 buf s).rdropWhile isSpace = []
  · obtain ⟨nothing, trimmed⟩ := pcanbasicTrim_of_blank none_left
    rw [nothing, trimmed, List.take_nil, ite_self]
  · have split := rdropWhile_of_some none_left
    have length := congrArg List.length split
    rw [List.length_append] at length
    rw [if_neg (by rw [pcanbasicLtrimAt]; omega), pcanbasicLtrimAt, Nat.add_sub_add_left, length,
      Nat.add_sub_cancel_left]
    exact (List.prefix_iff_eq_take.mp (List.rdropWhile_prefix _ _)).symm

theorem pcanbasicTrimAt_spec {buf : List U8} {s : Nat} (closed : Closed 0 buf)
    (inside : s < buf.length) (guarded : StopsBefore isSpace buf s) :
    pcanbasicTrimAt buf s
      = if s = 0 ∧ (strAt 0 buf s).rdropWhile isSpace = [] then none
        else some (buf.set (s + ((strAt 0 buf s).rdropWhile isSpace).length) 0,
          pcanbasicLtrimAt buf s) := by
  have stays := closed.strAt_inside inside
  have skipped := (List.takeWhile_prefix (p := isSpace) (l := strAt 0 buf s)).length_le
  have shorter := (@List.rdropWhile_prefix _ isSpace (strAt 0 buf s)).length_le
  have length : pcanbasicLtrimAt buf s + (strAt 0 buf (pcanbasicLtrimAt buf s)).length
      = s + (strAt 0 buf s).length := by
    rw [pcanbasicLtrimAt, strAt_add skipped, List.length_drop]
    omega
  rw [pcanbasicTrimAt, pcanbasicRtrimAt, length, rtrimBack_spec guarded inside.le]
  by_cases fault : s = 0 ∧ (strAt 0 buf s).rdropWhile isSpace = []
  · rw [if_pos fault, if_pos fault]
    rfl
  · rw [if_neg fault, if_neg fault]
    dsimp only
    rw [if_pos (by omega)]
    rfl

end Trim

section Parts

/-- What stands before the `=` is there and blank. -/
def BlankKey (pair : List U8) : Prop :=
  pair.takeWhile (· ≠ chr '=') ≠ [] ∧ (pair.takeWhile (· ≠ chr '=')).all isSpace = true

instance (pair : List U8) : Decidable (BlankKey pair) := instDecidableAnd

structure Trimmed (buf buf' : List U8) (s p save : Nat) (part : List U8)
    (more : List (List U8)) : Prop where
  begins : ∃ rest, Begins (chr '=') (strAt 0 buf s) (p - s) part rest
  store : buf' = (buf.set (p + part.length) 0).set (p + (part.rdropWhile isSpace).length) 0
  after : s ≤ p
  ends : p + part.length ≤ save
  part_at : strAt 0 buf' (p + (part.takeWhile isSpace).length) = pcanbasicTrim part
  more_at : tokens (chr '=') (strAt 0 buf' save) = more
  inside : save + (strAt 0 buf' save).length ≤ s + (strAt 0 buf s).length
  guarded : more ≠ [] → StopsBefore isSpace buf' save

theorem isSpace_nul : isSpace 0 = false := rfl

/-- The first part of a pair is found and trimmed, unless the trim reads in front of the copied
    string. -/
theorem part_scan {buf : List U8} {s : Nat} (closed : Closed 0 buf) (inside : s < buf.length)
    (guarded : StopsBefore isSpace buf s) {part : List U8} {more : List (List U8)}
    (found : tokens (chr '=') (strAt 0 buf s) = part :: more) :
    ∃ buf' p save, strtok 0 (chr '=') buf s = (buf', some p, save) ∧
      if s = 0 ∧ BlankKey (strAt 0 buf s) then pcanbasicTrimAt buf' p = none
      else ∃ buf'', pcanbasicTrimAt buf' p
          = some (buf'', p + (part.takeWhile isSpace).length) ∧
        Trimmed buf buf'' s p save part more := by
  obtain ⟨buf', p, save, rest, scanned, cut, others⟩ := strtok_some closed inside found
  refine ⟨buf', p, save, scanned, ?_⟩
  have begins := cut.begins
  have after := cut.after
  have stays := closed.strAt_inside inside
  have length := cut.begins.length
  have behind := cut.behind isSpace_nul
  have guard := cut.guarded guarded isSpace_nul (by decide)
  have closed' : Closed 0 buf' := by
    rw [cut.store]
    exact closed.set
  have same_length : buf'.length = buf.length := by
    rw [cut.store, List.length_set]
  have some_text := begins.some_text
  have shorter := (@List.rdropWhile_prefix _ isSpace part).length_le
  have trim := pcanbasicTrimAt_spec closed' (by omega) guard
  have trimmed := strAt_trimmed buf' p
  rw [pcanbasicLtrimAt, cut.token_at] at trim trimmed
  rw [trim]
  have fault : (p = 0 ∧ part.rdropWhile isSpace = []) ↔ (s = 0 ∧ BlankKey (strAt 0 buf s)) := by
    rw [BlankKey, begins.at_first, List.rdropWhile_eq_nil_iff, List.all_eq_true]
    constructor
    · rintro ⟨first, blank⟩
      obtain rfl : s = 0 := by omega
      rw [if_pos (by omega)]
      exact ⟨rfl, some_text, blank⟩
    · rintro ⟨first, text, blank⟩
      split at text
      next same =>
        rw [if_pos same] at blank
        exact ⟨by omega, blank⟩
      next => exact absurd rfl text
  by_cases outside : s = 0 ∧ BlankKey (strAt 0 buf s)
  · rw [if_pos outside, if_pos (fault.mpr outside)]
  · rw [if_neg outside, if_neg (fun both => outside (fault.mp both))]
    refine ⟨_, rfl, ?_⟩
    have kept : Behind 0 isSpace (buf'.set (p + (part.rdropWhile isSpace).length) 0)
        (p + part.length) save rest := behind.set isSpace_nul (by omega)
    constructor
    case begins => exact ⟨rest, begins⟩
    case store => rw [cut.store]
    case after => exact after
    case ends => exact behind.after
    case part_at => exact trimmed
    case more_at => rw [kept.rest_at, others]
    case inside =>
      rw [kept.rest_at]
      exact cut.inside
    case guarded =>
      intro some_left
      apply kept.guarded
      rintro rfl
      exact some_left (others.symm.trans tokens_nil)

theorem trim_length (part : List U8) :
    (part.takeWhile isSpace).length + (pcanbasicTrim part).length ≤ part.length := by
  have split := @List.takeWhile_append_dropWhile _ isSpace part
  have length := congrArg List.length split
  have shorter := (@List.rdropWhile_prefix _ isSpace (part.dropWhile isSpace)).length_le
  rw [List.length_append] at length
  unfold List.rdropWhile at shorter
  unfold pcanbasicTrim
  omega

section Frame
variable {buf buf' : List U8} {s p save : Nat} {part : List U8} {more : List (List U8)}

theorem Trimmed.closed (trimmed : Trimmed buf buf' s p save part more) (closed : Closed 0 buf) :
    Closed 0 buf' := by
  rw [trimmed.store]
  exact closed.set.set

theorem Trimmed.length (trimmed : Trimmed buf buf' s p save part more) :
    buf'.length = buf.length := by
  rw [trimmed.store, List.length_set, List.length_set]

theorem Trimmed.within (trimmed : Trimmed buf buf' s p save part more) :
    p + part.length ≤ s + (strAt 0 buf s).length := by
  obtain ⟨rest, begins⟩ := trimmed.begins
  have length := begins.length
  have after := trimmed.after
  omega

theorem Trimmed.behind (trimmed : Trimmed buf buf' s p save part more) {e saveptr1 : Nat}
    {rest : List U8} (behind : Behind 0 isSpace buf e saveptr1 rest)
    (reaches : s + (strAt 0 buf s).length ≤ e) : Behind 0 isSpace buf' e saveptr1 rest := by
  have within := trimmed.within
  have shorter := (@List.rdropWhile_prefix _ isSpace part).length_le
  rw [trimmed.store]
  exact (behind.set isSpace_nul (by omega)).set isSpace_nul (by omega)

theorem Trimmed.guarded_at (trimmed : Trimmed buf buf' s p save part more) {place : Nat}
    (guarded : StopsBefore isSpace buf place) : StopsBefore isSpace buf' place := by
  rw [trimmed.store]
  exact (guarded.set isSpace_nul).set isSpace_nul

theorem Trimmed.before (trimmed : Trimmed buf buf' s p save part more) {place : Nat}
    (ends : place + (strAt 0 buf place).length ≤ s) : strAt 0 buf' place = strAt 0 buf place := by
  have after := trimmed.after
  have first : strAt 0 (buf.set (p + part.length) 0) place = strAt 0 buf place := by
    rw [strAt_set_of_le (by omega), List.take_of_length_le (by omega)]
  rw [trimmed.store, strAt_set_of_le (by omega), first, List.take_of_length_le (by omega)]

end Frame

end Parts

section Passes

/-- The loop works on the token `pair` at `tok`, and `rest` is still to be read. -/
structure FdAt (st : FdParse) (tok : Nat) (pair rest : List U8) : Prop where
  tok_at : st.tok = some tok
  closed : Closed 0 st.sfdInit
  inside : tok < st.sfdInit.length
  pair_at : strAt 0 st.sfdInit tok = pair
  guarded : StopsBefore isSpace st.sfdInit tok
  behind : Behind 0 isSpace st.sfdInit (tok + pair.length) st.saveptr1 rest
  save_inside : st.saveptr1 < st.sfdInit.length
  key : ¬(tok = 0 ∧ BlankKey pair)

/-- What the loop has still to read, the token it is at first. -/
def FdReads (st : FdParse) : List (List U8) → Prop
  | [] => st.tok = none
  | pair :: pairs => ∃ tok rest, FdAt st tok pair rest ∧ tokens (chr ',') rest = pairs

theorem next_token {buf : List U8} {e save : Nat} {rest : List U8} (closed : Closed 0 buf)
    (inside : save < buf.length) (positive : 0 < save)
    (behind : Behind 0 isSpace buf e save rest) (pfdi : PcanfdInit) :
    FdReads { sfdInit := (strtok 0 (chr ',') buf save).1, pfdi,
              tok := (strtok 0 (chr ',') buf save).2.1,
              saveptr1 := (strtok 0 (chr ',') buf save).2.2 } (tokens (chr ',') rest) := by
  have rest_at := behind.rest_at
  cases parts : tokens (chr ',') rest with
  | nil =>
    obtain ⟨save', scanned⟩ := strtok_none (rest_at.symm ▸ parts)
    rw [scanned]
    exact rfl
  | cons pair pairs =>
    obtain ⟨buf', p, save', rest', scanned, cut, others⟩ :=
      strtok_some closed inside (rest_at.symm ▸ parts)
    rw [scanned]
    have some_left : rest ≠ [] := by
      rintro rfl
      exact List.cons_ne_nil _ _ (parts.symm.trans tokens_nil)
    have stays := closed.strAt_inside inside
    have length := cut.begins.length
    have within := cut.inside
    have after := cut.after
    refine ⟨p, rest', ?_, others⟩
    constructor
    case tok_at => rfl
    case closed =>
      dsimp only
      rw [cut.store]
      exact closed.set
    case inside =>
      dsimp only
      rw [cut.store, List.length_set]
      omega
    case pair_at => exact cut.token_at
    case guarded => exact cut.guarded (behind.guarded some_left) isSpace_nul (by decide)
    case behind => exact cut.behind isSpace_nul
    case save_inside =>
      dsimp only
      rw [cut.store, List.length_set]
      omega
    case key => exact fun fault => by omega

theorem FdAt.pass_pair {st : FdParse} {tok : Nat} {pair rest : List U8}
    (reads : FdAt st tok pair rest) {skey sval : List U8} {more : List (List U8)}
    (parts : tokens (chr '=') pair = skey :: sval :: more) :
    ∃ st', fdPass st tok = some st' ∧ FdReads st' (tokens (chr ',') rest) ∧
      st'.pfdi = fdSet st.pfdi (pcanbasicTrim skey) (strtoul (pcanbasicTrim sval)) := by
  have found : tokens (chr '=') (strAt 0 st.sfdInit tok) = skey :: sval :: more := by
    rw [reads.pair_at, parts]
  obtain ⟨buf1, p1, save1, scanned1, trim1⟩ :=
    part_scan reads.closed reads.inside reads.guarded found
  rw [if_neg (by rw [reads.pair_at]; exact reads.key)] at trim1
  obtain ⟨buf2, at2, trimmed1⟩ := trim1
  have stays := reads.closed.strAt_inside reads.inside
  have within1 := trimmed1.inside
  have ends1 := trimmed1.ends
  obtain ⟨_, begins1⟩ := trimmed1.begins
  have length1 := begins1.length
  have some_text1 := List.length_pos_of_ne_nil begins1.some_text
  have pair_length := congrArg List.length reads.pair_at
  have key_length := trim_length skey
  obtain ⟨buf3, p2, save2, scanned2, trim2⟩ :=
    part_scan (trimmed1.closed reads.closed) (by rw [trimmed1.length]; omega)
      (trimmed1.guarded (List.cons_ne_nil _ _)) trimmed1.more_at
  rw [if_neg (by omega)] at trim2
  obtain ⟨buf4, at4, trimmed2⟩ := trim2
  have key_at : strAt 0 buf4 (p1 + (skey.takeWhile isSpace).length) = pcanbasicTrim skey := by
    rw [trimmed2.before (by rw [trimmed1.part_at]; omega), trimmed1.part_at]
  have behind : Behind 0 isSpace buf4 (tok + pair.length) st.saveptr1 rest := by
    apply trimmed2.behind
    · apply trimmed1.behind reads.behind
      rw [reads.pair_at]
    · rw [← reads.pair_at]
      omega
  have next := next_token (trimmed2.closed (trimmed1.closed reads.closed))
    (by rw [trimmed2.length, trimmed1.length]; exact reads.save_inside)
    (by
      have after := behind.after
      omega) behind
    (fdSet st.pfdi (pcanbasicTrim skey) (strtoul (pcanbasicTrim sval)))
  refine ⟨_, ?_, next, rfl⟩
  rw [fdPass, scanned1]
  dsimp only
  rw [at2]
  dsimp only
  rw [scanned2]
  dsimp only
  rw [at4]
  dsimp only
  rw [key_at, trimmed2.part_at]

theorem key_outside {st : FdParse} {tok : Nat} {pair : List U8} (closed : Closed 0 st.sfdInit)
    (inside : tok < st.sfdInit.length) (guarded : StopsBefore isSpace st.sfdInit tok)
    (pair_at : strAt 0 st.sfdInit tok = pair) (first : tok = 0) (blank : BlankKey pair) :
    fdPass st tok = none := by
  cases parts : tokens (chr '=') pair with
  | nil => exact absurd (first_of_no_tokens parts) blank.1
  | cons skey more =>
    obtain ⟨buf1, p1, save1, scanned, trim⟩ :=
      part_scan closed inside guarded (pair_at.symm ▸ parts)
    rw [if_pos (by rw [pair_at]; exact ⟨first, blank⟩)] at trim
    rw [fdPass, scanned]
    dsimp only
    rw [trim]

theorem FdAt.with_buf {st : FdParse} {tok : Nat} {pair rest : List U8}
    (reads : FdAt st tok pair rest) {buf : List U8} (closed : Closed 0 buf)
    (length : buf.length = st.sfdInit.length) (guarded : StopsBefore isSpace buf tok)
    (behind : Behind 0 isSpace buf (tok + pair.length) st.saveptr1 rest) {pair' : List U8}
    (pair_at : strAt 0 buf tok = pair') (shorter : pair'.length ≤ pair.length)
    (key : ¬BlankKey pair') : FdAt { st with sfdInit := buf } tok pair' rest := by
  constructor
  case tok_at => exact reads.tok_at
  case closed => exact closed
  case inside => exact length ▸ reads.inside
  case pair_at => exact pair_at
  case guarded => exact guarded
  case behind => exact behind.mono (by omega)
  case save_inside => exact length ▸ reads.save_inside
  case key => exact fun fault => key fault.2

theorem trimmed_key {k : Nat} {part : List U8} (whole : chr '=' ∉ part) :
    (tokens (chr '=') (List.replicate k (chr '=') ++ part.rdropWhile isSpace)).length < 2 ∧
      ¬BlankKey (List.replicate k (chr '=') ++ part.rdropWhile isSpace) := by
  have whole' : chr '=' ∉ part.rdropWhile isSpace :=
    fun mem => whole ((List.rdropWhile_prefix isSpace part).subset mem)
  have stable := List.rdropWhile_idempotent isSpace part
  generalize part.rdropWhile isSpace = body at whole' stable
  rw [tokens_skip]
  by_cases none_left : body = []
  · subst none_left
    refine ⟨by simp [tokens], ?_⟩
    rintro ⟨text, _⟩
    apply text
    cases k with
    | zero => rfl
    | succ k => simp [List.replicate_succ]
  · refine ⟨by rw [tokens_last none_left whole']; exact Nat.lt_succ_self 1, ?_⟩
    have begins : Begins (chr '=') (List.replicate k (chr '=') ++ body) k body [] :=
      ⟨none_left, whole', Or.inl ⟨rfl, rfl⟩⟩
    rintro ⟨text, blank⟩
    rw [begins.at_first] at text blank
    split at text
    next first =>
      rw [if_pos first, List.all_eq_true] at blank
      exact none_left (stable.symm.trans (List.rdropWhile_eq_nil_iff.mpr blank))
    next => exact text rfl

theorem FdAt.pass_stuck {st : FdParse} {tok : Nat} {pair rest : List U8}
    (reads : FdAt st tok pair rest) (single : (tokens (chr '=') pair).length < 2) :
    ∃ st' pair', fdPass st tok = some st' ∧ FdAt st' tok pair' rest ∧
      (tokens (chr '=') pair').length < 2 := by
  have pair_at := reads.pair_at
  cases parts : tokens (chr '=') pair with
  | nil =>
    obtain ⟨save, scanned⟩ := strtok_none (pair_at.symm ▸ parts)
    refine ⟨st, pair, ?_, reads, single⟩
    rw [fdPass, scanned]
  | cons skey more =>
    have alone : more = [] := by
      rw [parts] at single
      exact List.eq_nil_of_length_eq_zero (by simpa using single)
    subst alone
    obtain ⟨buf1, p1, save1, scanned, trim⟩ :=
      part_scan reads.closed reads.inside reads.guarded (pair_at.symm ▸ parts)
    rw [if_neg (by rw [pair_at]; exact reads.key)] at trim
    obtain ⟨buf2, at2, trimmed⟩ := trim
    obtain ⟨save2, ended⟩ := strtok_none trimmed.more_at
    obtain ⟨rest', begins⟩ := trimmed.begins
    have after := trimmed.after
    have length := begins.length
    have shorter := (List.rdropWhile_prefix isSpace skey).length_le
    obtain ⟨single', key'⟩ := @trimmed_key (p1 - tok) skey begins.whole
    have pair' : strAt 0 buf2 tok
        = List.replicate (p1 - tok) (chr '=') ++ skey.rdropWhile isSpace := by
      have split := @List.rdropWhile_append_rtakeWhile _ isSpace skey
      have front : List.replicate (p1 - tok) (chr '=') ++ skey.rdropWhile isSpace
          <+: strAt 0 st.sfdInit tok := by
        rcases begins.text with ⟨last, _⟩ | more
        · rw [last]
          exact List.prefix_append_right_inj _ |>.mpr (List.rdropWhile_prefix _ _)
        · rw [more]
          exact (List.prefix_append_right_inj _ |>.mpr (List.rdropWhile_prefix _ _)).trans
            (List.prefix_append _ _)
      rw [trimmed.store, strAt_set_of_le (by omega), strAt_set_of_le (by omega), List.take_take,
        Nat.min_eq_left (by omega), List.prefix_iff_eq_take.mp front, List.length_append,
        List.length_replicate]
      congr 1
      omega
    refine ⟨{ st with sfdInit := buf2 }, _, ?_,
      reads.with_buf (trimmed.closed reads.closed) trimmed.length
        (trimmed.guarded_at reads.guarded) (trimmed.behind reads.behind (by rw [pair_at]))
        pair' ?_ key', single'⟩
    · rw [fdPass, scanned]
      dsimp only
      rw [at2]
      dsimp only
      rw [ended]
    · rw [List.length_append, List.length_replicate, ← pair_at]
      omega

end Passes

section Runs

theorem fdLoop_stuck {st : FdParse} {tok : Nat} {pair rest : List U8}
    (reads : FdAt st tok pair rest) (single : (tokens (chr '=') pair).length < 2)
    (passes : Nat) : fdLoop passes st = .running := by
  induction passes generalizing st pair with
  | zero => rfl
  | succ passes ih =>
    obtain ⟨st', pair', pass, reads', single'⟩ := reads.pass_stuck single
    rw [fdLoop, reads.tok_at]
    dsimp only
    rw [pass]
    exact ih reads' single'

theorem parseFdPairs_pair {pair skey sval : List U8} {more : List (List U8)}
    (parts : tokens (chr '=') pair = skey :: sval :: more) (pfdi : PcanfdInit)
    (pairs : List (List U8)) :
    parseFdPairs pfdi (pair :: pairs) = parseFdPairs
      (fdSet pfdi (pcanbasicTrim skey) (strtoul (pcanbasicTrim sval))) pairs := by
  rw [parseFdPairs, strtokens_eq, parts, fdSet]
  dsimp only
  cases fdParam (pcanbasicTrim skey) <;> rfl

theorem parseFdPairs_single {pair : List U8} (single : (tokens (chr '=') pair).length < 2)
    (pfdi : PcanfdInit) (pairs : List (List U8)) : parseFdPairs pfdi (pair :: pairs) = none := by
  rw [parseFdPairs, strtokens_eq]
  rcases parts : tokens (chr '=') pair with _ | ⟨skey, _ | ⟨sval, more⟩⟩
  · rfl
  · rfl
  · rw [parts] at single
    exact absurd single (by simp)

theorem fdLoop_reads {texts : List (List U8)} {st : FdParse} (reads : FdReads st texts) :
    (parseFdPairs st.pfdi texts = none → ∀ passes, fdLoop passes st = .running) ∧
      ∀ pfdi, parseFdPairs st.pfdi texts = some pfdi →
        ∀ passes, texts.length < passes → fdLoop passes st = .returned 0 pfdi := by
  induction texts generalizing st with
  | nil =>
    constructor
    · intro stuck
      cases stuck
    · intro pfdi parsed passes enough
      obtain ⟨passes, rfl⟩ := Nat.exists_eq_add_one_of_ne_zero (Nat.ne_zero_of_lt enough)
      obtain rfl := Option.some.inj parsed
      have ended : st.tok = none := reads
      rw [fdLoop, ended]
  | cons pair pairs ih =>
    obtain ⟨tok, rest, reading, others⟩ := reads
    subst others
    rcases parts : tokens (chr '=') pair with _ | ⟨skey, _ | ⟨sval, more⟩⟩
    case cons.cons =>
      obtain ⟨st', pass, reads', pfdi'⟩ := reading.pass_pair parts
      obtain ⟨stuck, ends⟩ := ih reads'
      have goes_on : ∀ passes, fdLoop (passes + 1) st = fdLoop passes st' := by
        intro passes
        rw [fdLoop, reading.tok_at]
        dsimp only
        rw [pass]
      rw [parseFdPairs_pair parts, ← pfdi']
      constructor
      · intro none_parsed passes
        cases passes with
        | zero => rfl
        | succ passes => rw [goes_on, stuck none_parsed]
      · intro pfdi parsed passes enough
        obtain ⟨passes, rfl⟩ := Nat.exists_eq_add_one_of_ne_zero (Nat.ne_zero_of_lt enough)
        rw [goes_on, ends pfdi parsed passes (by simpa using enough)]
    all_goals
      have single : (tokens (chr '=') pair).length < 2 := by
        rw [parts]
        simp
      constructor
      · intro _
        exact fdLoop_stuck reading single
      · intro pfdi parsed
        rw [parseFdPairs_single single] at parsed
        cases parsed

/-- The first pair of the text has a blank key, and nothing stands in front of it. -/
def BlankFirst (text : List U8) : Prop :=
  BlankKey ((text.take 500).takeWhile (· ≠ chr ','))

section Start
variable {text : List U8} (string : 0 ∉ text)
include string

theorem start_at : strAt 0 (text.take 500 ++ [0]) 0 = text.take 500 := by
  have whole : ∀ c ∈ text.take 500, decide (c ≠ 0) = true := by
    intro c mem
    simpa using ne_of_mem_of_not_mem (List.mem_of_mem_take mem) string
  rw [strAt, List.drop_zero, List.takeWhile_append_of_pos whole]
  simp

theorem fdStart_cases :
    FdReads (fdStart text) (tokens (chr ',') (text.take 500)) ∧ ¬BlankFirst text ∨
      fdLoop 1 (fdStart text) = .outside ∧ BlankFirst text := by
  have closed : Closed 0 (text.take 500 ++ [(0 : U8)]) := List.getLast?_concat ..
  have inside : 0 < (text.take 500 ++ [(0 : U8)]).length := by
    rw [List.length_append]
    exact Nat.succ_pos _
  have text_at := start_at string
  cases parts : tokens (chr ',') (text.take 500) with
  | nil =>
    left
    obtain ⟨save, scanned⟩ := strtok_none (text_at.symm ▸ parts)
    refine ⟨?_, fun blank => blank.1 ?_⟩
    · rw [fdStart, scanned]
      rfl
    · rw [first_of_no_tokens parts]
      rfl
  | cons pair pairs =>
    obtain ⟨buf, p, save, rest, scanned, cut, others⟩ :=
      strtok_some closed inside (text_at.symm ▸ parts)
    have first := cut.begins.at_first
    have guarded : StopsBefore isSpace (text.take 500 ++ [(0 : U8)]) 0 :=
      fun _ positive _ => absurd positive (Nat.lt_irrefl 0)
    have within := cut.inside
    have length := cut.begins.length
    have stays := closed.strAt_inside inside
    have closed' : Closed 0 buf := by
      rw [cut.store]
      exact closed.set
    have same_length : buf.length = (text.take 500 ++ [(0 : U8)]).length := by
      rw [cut.store, List.length_set]
    have started : fdStart text
        = { sfdInit := buf, pfdi := PcanfdInit.zero, tok := some p, saveptr1 := save } := by
      rw [fdStart, scanned]
    rw [text_at, Nat.sub_zero] at first
    have fault : BlankFirst text ↔ p = 0 ∧ BlankKey pair := by
      rw [BlankFirst, first]
      constructor
      · intro blank
        split at blank
        next same => exact ⟨same, blank⟩
        next => exact absurd rfl blank.1
      · rintro ⟨same, blank⟩
        rw [if_pos same]
        exact blank
    rw [fault, started]
    by_cases outside : p = 0 ∧ BlankKey pair
    · right
      refine ⟨?_, outside⟩
      rw [fdLoop]
      dsimp only
      rw [key_outside closed' (by dsimp only; omega)
        (cut.guarded guarded isSpace_nul (by decide)) cut.token_at outside.1 outside.2]
    · left
      refine ⟨⟨p, rest, ?_, others⟩, outside⟩
      constructor
      case tok_at => rfl
      case closed => exact closed'
      case inside =>
        dsimp only
        omega
      case pair_at => exact cut.token_at
      case guarded => exact cut.guarded guarded isSpace_nul (by decide)
      case behind => exact cut.behind isSpace_nul
      case save_inside =>
        dsimp only
        omega
      case key => exact outside

end Start

end Runs

section Fields

inductive FdField where
  | clock
  | nomBrp | nomTseg1 | nomTseg2 | nomSjw
  | dataBrp | dataTseg1 | dataTseg2 | dataSjw
deriving Repr, DecidableEq

/-- The field that a known key names, and what its value is multiplied by. -/
def fieldNamed (key : List U8) : Option (FdField × Nat) :=
  if key = ascii "f_clock" then some (.clock, 1)
  else if key = ascii "f_clock_mhz" then some (.clock, 1000000)
  else if key = ascii "nom_brp" then some (.nomBrp, 1)
  else if key = ascii "nom_tseg1" then some (.nomTseg1, 1)
  else if key = ascii "nom_tseg2" then some (.nomTseg2, 1)
  else if key = ascii "nom_sjw" then some (.nomSjw, 1)
  else if key = ascii "data_brp" then some (.dataBrp, 1)
  else if key = ascii "data_tseg1" then some (.dataTseg1, 1)
  else if key = ascii "data_tseg2" then some (.dataTseg2, 1)
  else if key = ascii "data_sjw" then some (.dataSjw, 1)
  else none

def fdInitOf (value : FdField → U32) : PcanfdInit :=
  { PcanfdInit.zero with
    clockHz := value .clock
    nominal := { PcanBittiming.zero with
      brp := value .nomBrp, tseg1 := value .nomTseg1, tseg2 := value .nomTseg2
      sjw := value .nomSjw }
    data := { PcanBittiming.zero with
      brp := value .dataBrp, tseg1 := value .dataTseg1, tseg2 := value .dataTseg2
      sjw := value .dataSjw } }

def setField (value : FdField → U32) (pair : List U8 × List U8) : FdField → U32 :=
  match fieldNamed pair.1 with
  | some (field, factor) =>
    Function.update value field (strtoul pair.2 * BitVec.ofNat 32 factor)
  | none => value

/-- What a comparison of the source does and what it stands for. -/
inductive FieldSets : Option (PcanfdInit → U32 → PcanfdInit) → Option (FdField × Nat) → Prop
  | unknown : FieldSets none none
  | known {set : PcanfdInit → U32 → PcanfdInit} {field : FdField} {factor : Nat}
      (positive : 0 < factor)
      (same : ∀ value val, set (fdInitOf value) val
        = fdInitOf (Function.update value field (val * BitVec.ofNat 32 factor))) :
      FieldSets (some set) (some (field, factor))

theorem FieldSets.branch {c : Prop} [Decidable c]
    {set set' : Option (PcanfdInit → U32 → PcanfdInit)} {named named' : Option (FdField × Nat)}
    (first : FieldSets set named) (others : FieldSets set' named') :
    FieldSets (if c then set else set') (if c then named else named') := by
  by_cases equal : c
  · rw [if_pos equal, if_pos equal]
    exact first
  · rw [if_neg equal, if_neg equal]
    exact others

theorem fdParam_fields (key : List U8) : FieldSets (fdParam key) (fieldNamed key) := by
  unfold fdParam fieldNamed
  repeat' apply FieldSets.branch
  case others => exact .unknown
  all_goals
    apply FieldSets.known (by decide)
    intro value val
    simp [fdInitOf, Function.update]

theorem fdSet_field (value : FdField → U32) (key val : List U8) :
    fdSet (fdInitOf value) key (strtoul val) = fdInitOf (setField value (key, val)) := by
  have fields := fdParam_fields key
  unfold fdSet setField
  dsimp only
  generalize fdParam key = set at fields
  generalize fieldNamed key = named at fields
  cases fields with
  | unknown => rfl
  | known _ same => exact same value _

end Fields

section Written

/-- The number that a text begins with, as `strtoul` reads one with base 0, without its bounds. -/
def written (text : List U8) : Int :=
  let negative := text.headD 0 = chr '-'
  let digits := if negative ∨ text.headD 0 = chr '+' then text.tail else text
  let hex := hexPrefix digits
  let base := if hex then 16 else if digits.headD 0 = chr '0' then 8 else 10
  let value := ((if hex then digits.drop 2 else digits).takeWhile (isDigitOf base)).foldl
    (fun n c => n * base + (digitVal c).getD 0) 0
  if negative then -value else value

/-- The key and the value of a part that has a `=`, without the blanks around them. -/
def pairOf (part : List U8) : Option (List U8 × List U8) :=
  if part.contains (chr '=') then
    some (pcanbasicTrim (part.takeWhile (· ≠ chr '=')),
      pcanbasicTrim ((part.dropWhile (· ≠ chr '=')).drop 1))
  else none

def valueFor (field : FdField) (pair : List U8 × List U8) : Option (Nat × List U8) :=
  match fieldNamed pair.1 with
  | some (named, factor) => if named = field then some (factor, pair.2) else none
  | none => none

def valuesOf (field : FdField) (text : List U8) : List (Nat × List U8) :=
  ((text.splitOn (chr ',')).filterMap pairOf).filterMap (valueFor field)

/-- The number written for a field: the last value that is not blank, 0 without one. -/
def fieldWritten (field : FdField) (text : List U8) : Int :=
  match ((valuesOf field text).filter (·.2 ≠ [])).getLast? with
  | some (factor, val) => written val * factor
  | none => 0

/-- A list of pairs: at most 500 characters, and no part has more than one `=`. -/
def FdForm (text : List U8) : Prop :=
  text.length ≤ 500 ∧ ∀ part ∈ text.splitOn (chr ','), part.count (chr '=') ≤ 1

/-- Every token has text on both sides of a `=`. -/
def FdPaired (text : List U8) : Prop :=
  ∀ pair ∈ tokens (chr ',') (text.take 500), 2 ≤ (tokens (chr '=') pair).length

/-- The last value for a field fits; where it is blank, 0 is what the text says anyway. -/
def FieldFits (field : FdField) (text : List U8) : Prop :=
  match (valuesOf field text).getLast? with
  | some (factor, val) =>
    if val = [] then fieldWritten field text = 0
    else 0 ≤ written val * factor ∧ written val * factor < 2 ^ 32
  | none => True

/-- What is expected of the call for a text that `strndup` has copied. -/
structure FdInitMeets (text : List U8) : Prop where
  ends : ∃ passes, pcanbasicParseFdInitRun true (some text) passes ≠ .running
  inside : ∀ passes, pcanbasicParseFdInitRun true (some text) passes ≠ .outside
  told : FdForm text → ∃ passes value,
    pcanbasicParseFdInitRun true (some text) passes = .returned 0 (fdInitOf value) ∧
      ∀ field, ((value field).toNat : Int) = fieldWritten field text

theorem strtoul_nil : strtoul [] = 0 := by
  decide

theorem strtoul_written {text : List U8} {factor : Nat} (known : 0 < factor)
    (least : 0 ≤ written text * factor) (fits : written text * factor < 2 ^ 32) :
    ((strtoul text * BitVec.ofNat 32 factor).toNat : Int) = written text * factor := by
  unfold written at least fits ⊢
  unfold strtoul
  dsimp only at least fits ⊢
  generalize List.foldl _ 0 _ = value at least fits ⊢
  have big : (value : Int) ≤ value * factor := by
    exact_mod_cast Nat.le_mul_of_pos_right value known
  by_cases negative : text.headD 0 = chr '-'
  · rw [if_pos negative] at least fits ⊢
    have zero : value = 0 := by
      rw [Int.neg_mul] at least
      omega
    subst zero
    rw [if_neg (by decide), if_pos negative]
    simp
  · rw [if_neg negative] at least fits ⊢
    rw [if_neg (by omega), if_neg negative, BitVec.ofNat_mul_ofNat, BitVec.toNat_ofNat,
      Nat.mod_eq_of_lt (by exact_mod_cast fits)]
    push_cast
    rfl

theorem pairOf_parts {part skey sval : List U8} {more : List (List U8)}
    (single : part.count (chr '=') ≤ 1)
    (parts : tokens (chr '=') part = skey :: sval :: more) :
    pairOf part = some (pcanbasicTrim skey, pcanbasicTrim sval) := by
  obtain ⟨k, rest, begins, others⟩ := begins_of_tokens parts
  have none_key : ∀ c ∈ skey, decide (c ≠ chr '=') = true := by
    intro c mem
    simpa using ne_of_mem_of_not_mem mem begins.whole
  rcases begins.text with ⟨_, none_left⟩ | split
  · rw [none_left, tokens_nil] at others
    cases others
  · rw [split, List.count_append, List.count_append, List.count_replicate_self,
      List.count_cons_self] at single
    have first : k = 0 := by omega
    have whole : chr '=' ∉ rest := List.count_eq_zero.mp (by omega)
    have some_text : rest ≠ [] := by
      rintro rfl
      cases others
    rw [tokens_last some_text whole] at others
    obtain rfl := (List.cons.inj others).1
    subst first
    rw [List.replicate_zero, List.nil_append] at split
    rw [pairOf, split, if_pos (by simp), List.takeWhile_append_of_pos none_key,
      List.dropWhile_append_of_pos none_key]
    simp

theorem parse_form {parts : List (List U8)} (value : FdField → U32)
    (single : ∀ part ∈ parts, part.count (chr '=') ≤ 1)
    (paired : ∀ pair ∈ parts.filter (· ≠ []), 2 ≤ (tokens (chr '=') pair).length) :
    parseFdPairs (fdInitOf value) (parts.filter (· ≠ []))
      = some (fdInitOf ((parts.filterMap pairOf).foldl setField value)) := by
  induction parts generalizing value with
  | nil => rfl
  | cons part parts ih =>
    have single' := fun other mem => single other (List.mem_cons_of_mem part mem)
    by_cases none_there : part = []
    · subst none_there
      rw [List.filter_cons_of_neg (by simp)] at paired ⊢
      exact ih value single' paired
    · rw [List.filter_cons_of_pos (by simpa using none_there)] at paired ⊢
      have long := paired part List.mem_cons_self
      rcases two : tokens (chr '=') part with _ | ⟨skey, _ | ⟨sval, more⟩⟩
      · rw [two] at long
        exact absurd long (by decide)
      · rw [two] at long
        exact absurd long (by simp)
      · rw [parseFdPairs_pair two, fdSet_field,
          ih _ single' fun pair mem => paired pair (List.mem_cons_of_mem part mem),
          List.filterMap_cons_some (pairOf_parts (single part List.mem_cons_self) two)]
        rfl

theorem foldl_setField (pairs : List (List U8 × List U8)) (value : FdField → U32)
    (field : FdField) :
    pairs.foldl setField value field
      = match (pairs.filterMap (valueFor field)).getLast? with
        | some (factor, val) => strtoul val * BitVec.ofNat 32 factor
        | none => value field := by
  induction pairs using List.reverseRecOn with
  | nil => rfl
  | append_singleton pairs pair ih =>
    rw [List.foldl_append, List.filterMap_append, List.getLast?_append]
    rw [List.foldl_cons, List.foldl_nil, setField]
    cases named : fieldNamed pair.1 with
    | none => simpa [valueFor, named] using ih
    | some known =>
      obtain ⟨other, factor⟩ := known
      by_cases same : other = field
      · subst same
        simp [valueFor, named]
      · simpa [valueFor, named, same, Function.update_of_ne (Ne.symm same)] using ih

end Written

section Told

theorem fieldNamed_pos {key : List U8} {field : FdField} {factor : Nat}
    (known : fieldNamed key = some (field, factor)) : 0 < factor := by
  have fields := fdParam_fields key
  generalize fdParam key = set at fields
  rw [known] at fields
  cases fields with
  | known positive => exact positive

theorem valuesOf_pos {field : FdField} {text : List U8} {factor : Nat} {val : List U8}
    (mem : (factor, val) ∈ valuesOf field text) : 0 < factor := by
  obtain ⟨pair, _, valued⟩ := List.mem_filterMap.mp mem
  unfold valueFor at valued
  split at valued
  next named factor' known =>
    split at valued
    next =>
      cases valued
      exact fieldNamed_pos known
    next => cases valued
  next => cases valued

theorem getLast?_filter {A : Type} {p : A → Bool} {l : List A} {x : A} (last : l.getLast? = some x)
    (kept : p x = true) : (l.filter p).getLast? = some x := by
  obtain ⟨init, rfl⟩ := List.getLast?_eq_some_iff.mp last
  rw [List.filter_append, List.filter_cons_of_pos kept]
  exact List.getLast?_concat ..

def fieldStored (text : List U8) : FdField → U32 :=
  ((text.splitOn (chr ',')).filterMap pairOf).foldl setField fun _ => 0

theorem field_told_iff (field : FdField) (text : List U8) :
    ((fieldStored text field).toNat : Int) = fieldWritten field text ↔ FieldFits field text := by
  rw [fieldStored, foldl_setField, ← valuesOf, FieldFits]
  cases last : (valuesOf field text).getLast? with
  | none =>
    rw [List.getLast?_eq_none_iff] at last
    simp [fieldWritten, last]
  | some stored =>
    obtain ⟨factor, val⟩ := stored
    dsimp only
    by_cases blank : val = []
    · rw [if_pos blank, blank, strtoul_nil]
      rw [show (0 : U32) * BitVec.ofNat 32 factor = 0 from BitVec.zero_mul]
      exact eq_comm
    · rw [if_neg blank]
      have known := valuesOf_pos (List.mem_of_getLast? last)
      have same : fieldWritten field text = written val * factor := by
        rw [fieldWritten, getLast?_filter last (by simpa using blank)]
      rw [same]
      constructor
      · intro told
        rw [← told]
        have bound := (strtoul val * BitVec.ofNat 32 factor).isLt
        omega
      · rintro ⟨least, fits⟩
        exact strtoul_written known least fits

theorem fdInitOf_injective : Function.Injective fdInitOf := by
  intro value value' same
  funext field
  simp only [fdInitOf, PcanfdInit.mk.injEq, PcanBittiming.mk.injEq] at same
  cases field <;> simp only [same]

theorem parseFdPairs_some_iff (pairs : List (List U8)) (pfdi : PcanfdInit) :
    (∃ pfdi', parseFdPairs pfdi pairs = some pfdi')
      ↔ ∀ pair ∈ pairs, 2 ≤ (tokens (chr '=') pair).length := by
  induction pairs generalizing pfdi with
  | nil => simp [parseFdPairs]
  | cons pair pairs ih =>
    rw [List.forall_mem_cons]
    rcases parts : tokens (chr '=') pair with _ | ⟨skey, _ | ⟨sval, more⟩⟩
    case cons.cons =>
      rw [parseFdPairs_pair parts, ih]
      simp
    all_goals
      rw [parseFdPairs_single (by rw [parts]; simp)]
      simp

theorem fdLoop_stays {st : FdParse} {passes : Nat} (done : fdLoop passes st ≠ .running)
    (more : Nat) : fdLoop (passes + more) st = fdLoop passes st := by
  induction passes generalizing st with
  | zero => exact absurd rfl done
  | succ passes ih =>
    rw [Nat.succ_add]
    unfold fdLoop at done ⊢
    cases tok : st.tok with
    | none => rfl
    | some p =>
      dsimp only
      rw [tok] at done
      dsimp only at done
      cases pass : fdPass st p with
      | none => rfl
      | some st' =>
        rw [pass] at done
        exact ih done

end Told

section Result

/-- A text with a blank first key is read in front of the copied string; of the others the call
    comes to an end with those whose tokens are all pairs. -/
theorem run_cases {text : List U8} (string : 0 ∉ text) :
    BlankFirst text ∧ pcanbasicParseFdInitRun true (some text) 1 = .outside ∨
      ¬BlankFirst text ∧ ¬FdPaired text ∧
        (∀ passes, pcanbasicParseFdInitRun true (some text) passes = .running) ∨
      ¬BlankFirst text ∧ FdPaired text ∧ ∃ pfdi,
        pcanbasicParseFdInit true (some text) = some (0, pfdi) ∧ ∃ passes, ∀ more,
          pcanbasicParseFdInitRun true (some text) (passes + more) = .returned 0 pfdi := by
  rcases fdStart_cases string with ⟨reads, starts⟩ | ⟨outside, blank⟩
  · have zero : (fdStart text).pfdi = PcanfdInit.zero := rfl
    obtain ⟨stuck, ends⟩ := fdLoop_reads reads
    rw [zero] at stuck ends
    have paired := parseFdPairs_some_iff (tokens (chr ',') (text.take 500)) PcanfdInit.zero
    cases parsed : parseFdPairs PcanfdInit.zero (tokens (chr ',') (text.take 500)) with
    | none =>
      refine Or.inr (Or.inl ⟨starts, fun pairs => ?_, stuck parsed⟩)
      obtain ⟨pfdi, found⟩ := paired.mpr pairs
      rw [parsed] at found
      cases found
    | some pfdi =>
      refine Or.inr (Or.inr ⟨starts, paired.mp ⟨pfdi, parsed⟩, pfdi, ?_,
        (tokens (chr ',') (text.take 500)).length + 1,
        fun more => ends pfdi parsed _ (by omega)⟩)
      rw [pcanbasicParseFdInit, if_pos rfl, strtokens_eq, parsed]
      rfl
  · exact Or.inl ⟨blank, outside⟩

theorem form_parsed {text : List U8} (form : FdForm text) (paired : FdPaired text) :
    pcanbasicParseFdInit true (some text) = some (0, fdInitOf (fieldStored text)) := by
  have whole : text.take 500 = text := List.take_of_length_le form.1
  rw [FdPaired, whole] at paired
  have parsed := parse_form (fun _ => 0) form.2 paired
  rw [pcanbasicParseFdInit, if_pos rfl, whole, strtokens_eq, tokens]
  rw [show PcanfdInit.zero = fdInitOf fun _ => 0 from rfl, parsed]
  rfl

/-- The call does what is expected of it for the texts whose tokens all have text on both sides
    of a `=`, that do not begin with a blank key, and, where they are lists of pairs, whose
    values fit. -/
theorem parse_fd_init_iff {text : List U8} (string : 0 ∉ text) :
    FdInitMeets text ↔
      FdPaired text ∧ ¬BlankFirst text ∧ (FdForm text → ∀ field, FieldFits field text) := by
  rcases run_cases string with ⟨blank, outside⟩ | ⟨_, single, stuck⟩ |
    ⟨starts, paired, pfdi, parsed, passes, ends⟩
  · constructor
    · intro meets
      exact absurd outside (meets.inside 1)
    · rintro ⟨_, starts, _⟩
      exact absurd blank starts
  · constructor
    · rintro ⟨⟨passes, ends⟩, _, _⟩
      exact absurd (stuck passes) ends
    · rintro ⟨paired, _, _⟩
      exact absurd paired single
  · have stored : FdForm text → pfdi = fdInitOf (fieldStored text) := by
      intro form
      have same := (form_parsed form paired).symm.trans parsed
      exact (congrArg Prod.snd (Option.some.inj same)).symm
    have settled : ∀ other, pcanbasicParseFdInitRun true (some text) other ≠ .running →
        pcanbasicParseFdInitRun true (some text) other = .returned 0 pfdi := by
      intro other done
      have stays := fdLoop_stays done passes
      rw [← ends other, Nat.add_comm]
      exact stays.symm
    constructor
    · intro meets
      refine ⟨paired, starts, ?_⟩
      intro form field
      obtain ⟨other, value, returned, told⟩ := meets.told form
      have same := settled other (by rw [returned]; exact FdRun.noConfusion)
      rw [returned, stored form, FdRun.returned.injEq] at same
      rw [← field_told_iff, ← fdInitOf_injective same.2]
      exact told field
    · rintro ⟨_, _, fits⟩
      constructor
      case ends => exact ⟨passes + 0, by rw [ends 0]; exact FdRun.noConfusion⟩
      case inside =>
        intro other outside
        have same := settled other (by rw [outside]; exact FdRun.noConfusion)
        rw [outside] at same
        cases same
      case told =>
        intro form
        refine ⟨passes + 0, fieldStored text, by rw [ends 0, stored form], ?_⟩
        intro field
        exact (field_told_iff field text).mpr (fits form field)

end Result

section Samples

theorem usual_text_meets : FdInitMeets (ascii " f_clock_mhz = 0x14,,nom_brp=5 ") :=
  (parse_fd_init_iff (by decide)).mpr
    ⟨by unfold FdPaired; decide +kernel, by unfold BlankFirst; decide +kernel,
      fun _ field => (field_told_iff field _).mp (by cases field <;> decide +kernel)⟩

/-- A key alone is read for ever. -/
theorem key_alone_loops : ¬FdInitMeets (ascii "f_clock=80000000,nom_brp") := by
  intro meets
  have single : ¬FdPaired (ascii "f_clock=80000000,nom_brp") := by
    unfold FdPaired
    decide +kernel
  obtain ⟨passes, ends⟩ := meets.ends
  rcases @run_cases (ascii "f_clock=80000000,nom_brp") (by decide) with
    ⟨_, outside⟩ | ⟨_, _, stuck⟩ | ⟨_, paired, _⟩
  · exact meets.inside 1 outside
  · exact ends (stuck passes)
  · exact single paired

example : pcanbasicParseFdInitRun true (some (ascii " =5")) 1 = .outside := by
  decide +kernel

example : pcanbasicParseFdInitRun true (some (ascii "f_clock_mhz=4295,nom_brp=5,nom_brp= ")) 4 =
    .returned 0 { PcanfdInit.zero with clockHz := 32704 } := by
  decide +kernel

end Samples

end PcanDriver

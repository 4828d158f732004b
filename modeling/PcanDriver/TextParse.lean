import PcanDriver.Lib.LineText
import PcanDriver.OpenSpec

/-!
The parsers of the lines that are written to the device (`pcan_parse.c`). They are given the
buffer from its start and may look at all of it, but none looks behind the first end of line.
-/
namespace PcanDriver
open LineText

def erange : Int := 34

section Characters

def chr (c : Char) : U8 := BitVec.ofNat 8 c.toNat

def ascii (s : String) : List U8 := s.toList.map chr

def newline : U8 := chr '\n'

def isBlank (c : U8) : Bool := c = chr ' ' || c = chr '\t'

def isEol (c : U8) : Bool := c = 0 || c = newline || c = chr '\r'

def isEow (c : U8) : Bool := isBlank c || isEol c

/-- The value of a digit; letters may be capital ones. -/
def digitVal (c : U8) : Option Nat :=
  if chr '0' ≤ c ∧ c ≤ chr '9' then some (c.toNat - 48)
  else
    let lc := c ||| 0x20
    if chr 'a' ≤ lc ∧ lc ≤ chr 'f' then some (lc.toNat - 87) else none

def isDigitOf (base : Nat) (c : U8) : Bool :=
  match digitVal c with
  | none => false
  | some val => val < base

end Characters

section Scanning
variable {R : Type}

abbrev Scan (R : Type) := List U8 → R

def skipBlanks (next : Scan R) : Scan R := fun text => next (text.dropWhile isBlank)

def scanChar (next : U8 → Scan R) : Scan R := fun text => next (text.headD 0) text.tail

/-- `skip_blanks_and_test_for_CR`. -/
def noCr (reject : R) (next : Scan R) : Scan R :=
  skipBlanks fun text => if isEol (text.headD 0) then reject else next text

def hexPrefix (text : List U8) : Bool :=
  text.headD 0 = chr '0' && ((text.drop 1).headD 0 ||| 0x20) = chr 'x' &&
    isDigitOf 16 ((text.drop 2).headD 0)

/-- The digits of a number that `simple_strtoul` takes, with the number as a word: its
    overflow is lost. -/
def scanDigits (base : Nat) (next : Option U32 → Scan R) : Scan R := fun text =>
  let digits := text.takeWhile (isDigitOf base)
  let value := digits.foldl (fun n c => n * base + (digitVal c).getD 0) 0
  next (if digits = [] then none else some (BitVec.ofNat 32 value))
    (text.dropWhile (isDigitOf base))

/-- `scan_unsigned_number`; where there is no number, nothing is taken. -/
def scanUnsignedNumber (next : Option U32 → Scan R) : Scan R := fun text =>
  if hexPrefix text then scanDigits 16 next (text.drop 2)
  else if text.headD 0 = chr '0' then scanDigits 8 next text
  else scanDigits 10 next text

end Scanning

section Parsers

/-- The result is 0 for a comment and an empty line. -/
def pcanParseInputIdle : Scan Int :=
  skipBlanks <| scanChar fun c _ => if c = chr '#' ∨ c = newline then 0 else -einval

/-- The members of a `struct pcanfd_msg` that the parser has written: the others are what
    the stack holds. -/
structure ParsedMsg where
  type : MsgType
  flags : U32
  id : Option U32
  dataLen : Option U16
  data : List U8
deriving Repr, DecidableEq

def messageKind (c : U8) : Option (MsgType × U32) :=
  if c = chr 'B' then some (.canfdMsg, pcanfdMsgSlf ||| pcanfdMsgBrs)
  else if c = chr 'b' then some (.canfdMsg, pcanfdMsgBrs)
  else if c = chr 'M' then some (.can20Msg, pcanfdMsgSlf)
  else if c = chr 'm' then some (.can20Msg, 0)
  else if c = chr 'R' then some (.can20Msg, pcanfdMsgSlf ||| pcanfdMsgRtr)
  else if c = chr 'r' then some (.can20Msg, pcanfdMsgRtr)
  else none

/-- `reject` answers the last error: this is 0 when the number before was scanned. -/
def parseData : Nat → ParsedMsg → Scan (Int × ParsedMsg)
  | 0, pf => fun _ => (0, pf)
  | left + 1, pf =>
    noCr (0, pf) <| scanUnsignedNumber fun number =>
      match number with
      | none => fun _ => (-erange, pf)
      | some dwDat =>
        if 255 < dwDat then fun _ => (0, pf)
        else parseData left { pf with data := pf.data ++ [dwDat.setWidth 8] }

def parseLength (pf : ParsedMsg) : Scan (Int × ParsedMsg) :=
  noCr (0, pf) <| scanUnsignedNumber fun number =>
    match number with
    | none => fun _ => (-erange, pf)
    | some dwLen =>
      if 64 < dwLen then fun _ => (0, pf)
      else parseData dwLen.toNat { pf with dataLen := some (dwLen.setWidth 16) }

def parseId (pf : ParsedMsg) : Scan (Int × ParsedMsg) :=
  noCr (-einval, pf) <| scanUnsignedNumber fun number =>
    match number with
    | none => fun _ => (-erange, pf)
    | some id =>
      let pf := { pf with id := some id }
      if (if pf.flags &&& pcanfdMsgExt ≠ 0 then 0x3fffffff < id else 2047 < id) then
        fun _ => (0, pf)
      else parseLength pf

def parseFormat (pf : ParsedMsg) : Scan (Int × ParsedMsg) :=
  noCr (-einval, pf) <| scanChar fun c =>
    if c = chr 'e' then parseId { pf with flags := pf.flags ||| pcanfdMsgExt }
    else if c = chr 's' then parseId pf
    else fun _ => (-einval, pf)

def pcanParseInputMessage : Scan (Int × ParsedMsg) :=
  skipBlanks <| scanChar fun c =>
    match messageKind c with
    | none => fun _ => (-einval, ⟨.can20Msg, 0, none, none, []⟩)
    | some (type, flags) => parseFormat ⟨type, flags, none, none, []⟩

/-- A member of the settings that a keyword stands for. -/
def bitrateKeyword (keyword : List U8) : Option (PcanfdInit → U32 → PcanfdInit) :=
  if keyword = ascii "f_clock" then some fun i v => { i with clockHz := v }
  else if keyword = ascii "nom_bitrate" then
    some fun i v => { i with nominal := { i.nominal with bitrate := v } }
  else if keyword = ascii "nom_brp" then
    some fun i v => { i with nominal := { i.nominal with brp := v } }
  else if keyword = ascii "nom_tseg1" then
    some fun i v => { i with nominal := { i.nominal with tseg1 := v } }
  else if keyword = ascii "nom_tseg2" then
    some fun i v => { i with nominal := { i.nominal with tseg2 := v } }
  else if keyword = ascii "nom_sjw" then
    some fun i v => { i with nominal := { i.nominal with sjw := v } }
  else if keyword = ascii "data_bitrate" then
    some fun i v => { i with data := { i.data with bitrate := v } }
  else if keyword = ascii "data_brp" then
    some fun i v => { i with data := { i.data with brp := v } }
  else if keyword = ascii "data_tseg1" then
    some fun i v => { i with data := { i.data with tseg1 := v } }
  else if keyword = ascii "data_tseg2" then
    some fun i v => { i with data := { i.data with tseg2 := v } }
  else if keyword = ascii "data_sjw" then
    some fun i v => { i with data := { i.data with sjw := v } }
  else none

/-- What `strtounit` with the units k and M does to its variable, or the character that it
    complains of. As a signed `char`, one from 0x80 on is negative and taken for no error. -/
def strtounit (value : List U8) : Except U8 (Option U32) :=
  scanUnsignedNumber (fun number rest =>
    let v := number.getD 0
    match rest with
    | [] => .ok (some v)
    | c :: _ =>
      if c = chr 'k' then .ok (some (v * 1000))
      else if c = chr 'M' then .ok (some (v * 1000000))
      else if c < 0x80 then .error c
      else .ok none) value

/-- What stands before and behind the last `=` of a record. -/
def splitRecord (record : List U8) : Option (List U8 × List U8) :=
  let value := (record.reverse.takeWhile (· ≠ chr '=')).reverse
  let keyword := record.take (record.length - value.length - 1)
  if value.length < record.length ∧ keyword ≠ [] then some (keyword, value) else none

/-- The records of the string, which commas separate. Unknown keywords are ignored. -/
def scanRecords : Nat → List U8 → PcanfdInit → Option PcanfdInit
  | 0, _, pfdi => some pfdi
  | _, [], pfdi => some pfdi
  | fuel + 1, word, pfdi =>
    match splitRecord (word.takeWhile (· ≠ chr ',')) with
    | none => none
    | some (keyword, value) =>
      let rest := (word.dropWhile (· ≠ chr ',')).tail
      match bitrateKeyword keyword with
      | none => scanRecords fuel rest pfdi
      | some set =>
        match strtounit value with
        | .error _ => none
        | .ok v => scanRecords fuel rest (match v with | none => pfdi | some v => set pfdi v)

/-- `scan_bitrate_string`, on the characters up to the end of the word. The position of its
    caller is not moved. -/
def scanBitrateString (pfdi : PcanfdInit) (text : List U8) : Option PcanfdInit :=
  let word := text.takeWhile (!isEow ·)
  scanRecords word.length word pfdi

def btrTiming (pbt : PcanBittiming) (word : U32) : PcanBittiming :=
  { pbt with
    sjw := (1 : U32) + (word &&& 0xc000) >>> 14
    brp := (1 : U32) + (word &&& 0x3f00) >>> 8
    tsam := (word &&& 0x0080) >>> 7
    tseg2 := (1 : U32) + (word &&& 0x0070) >>> 4
    tseg1 := (1 : U32) + (word &&& 0x000f)
    bitrate := 0 }

def pcanBtr0btr1ToBittiming (pbt : PcanBittiming) (btr0btr1 : U16) : PcanBittiming :=
  let pbt := btrTiming pbt (btr0btr1.setWidth 32)
  match pcanBittimingToBitrate pbt (8 * mhz) with
  | none => pbt
  | some (_, done) => done

def switchFlag (c : U8) : U32 :=
  if c = chr 's' then pcanfdInitStdMsgOnly else if c = chr 'l' then pcanfdInitListenOnly else 0

/-- The optional rest: so many switches are possible. -/
def scanSwitches : Nat → PcanfdInit → Scan PcanfdInit
  | 0, pfdi => fun _ => pfdi
  | left + 1, pfdi =>
    noCr pfdi <| scanChar fun c =>
      scanSwitches left { pfdi with flags := pfdi.flags ||| switchFlag c }

def fdFlag (pfdi : PcanfdInit) : PcanfdInit :=
  if pfdi.data.bitrate ≠ 0 ∨ pfdi.data.brp ≠ 0 ∨ pfdi.data.tseg1 ≠ 0 ∨ pfdi.data.tseg2 ≠ 0 ∨
      pfdi.data.sjw ≠ 0 then { pfdi with flags := pfdi.flags ||| pcanfdInitFd }
  else pfdi

def PcanfdInit.zero : PcanfdInit := ⟨0, 0, PcanBittiming.zero, PcanBittiming.zero⟩

/-- What follows the letter and its blanks: a BTR0BTR1 word or a bitrate string. -/
def parseRate : Scan (Option PcanfdInit) :=
  scanUnsignedNumber fun number text =>
    match number with
    | some btr0btr1 =>
      if 0xffff < btr0btr1 then none
      else
        some (scanSwitches 2 { PcanfdInit.zero with
          clockHz := 8 * mhz
          nominal := pcanBtr0btr1ToBittiming PcanBittiming.zero (btr0btr1.setWidth 16) } text)
    | none => (scanBitrateString PcanfdInit.zero text).map fun pfdi => scanSwitches 2 pfdi text

def pcanParseInputInit : Scan (Option PcanfdInit) :=
  skipBlanks <| scanChar fun c =>
    if c = chr 'i' then noCr none fun text => (parseRate text).map fdFlag else fun _ => none

end Parsers

section Conversion

theorem masked_shift_le (word mask : U32) (k : Nat) :
    ((word &&& mask) >>> k).toNat ≤ mask.toNat >>> k := by
  rw [BitVec.toNat_ushiftRight, BitVec.toNat_and, Nat.shiftRight_eq_div_pow,
    Nat.shiftRight_eq_div_pow]
  exact Nat.div_le_div_right Nat.and_le_right

theorem btrTiming_nonzero (pbt : PcanBittiming) (word : U32) :
    quantaProduct (btrTiming pbt word) ≠ 0 := by
  have brp := masked_shift_le word 0x3f00 8
  have tseg2 := masked_shift_le word 0x70 4
  have tseg1 := masked_shift_le word 0xf 0
  rw [BitVec.ushiftRight_zero] at tseg1
  simp only [quantaProduct, btrTiming]
  generalize (word &&& 0x3f00) >>> 8 = b at brp ⊢
  generalize (word &&& 0x70) >>> 4 = t2 at tseg2 ⊢
  generalize word &&& 0xf = t1 at tseg1 ⊢
  have brp : b.toNat ≤ 63 := brp
  have tseg2 : t2.toNat ≤ 7 := tseg2
  have tseg1 : t1.toNat ≤ 15 := tseg1
  have quanta : (1 + (1 + t1) + (1 + t2)).toNat = 3 + t1.toNat + t2.toNat := by
    simp
    omega
  have scale : (1 + b).toNat = 1 + b.toNat := by
    simp
    omega
  have small : (1 + b.toNat) * (3 + t1.toNat + t2.toNat) ≤ 64 * 25 :=
    Nat.mul_le_mul (by omega) (by omega)
  intro zero
  have product := congrArg BitVec.toNat zero
  rw [BitVec.toNat_mul, quanta, scale, Nat.mod_eq_of_lt (by omega)] at product
  simp at product

theorem pcanBtr0btr1ToBittiming_rated (pbt : PcanBittiming) (btr0btr1 : U16) :
    pcanBtr0btr1ToBittiming pbt btr0btr1 =
      ratedTiming (btrTiming pbt (btr0btr1.setWidth 32)) (8 * mhz) := by
  have rated := @bittimingToBitrate_eq _ (8 * mhz) (by decide)
    (btrTiming_nonzero pbt (btr0btr1.setWidth 32))
  simp only [pcanBtr0btr1ToBittiming, rated]

end Conversion

section Bounds
variable {R : Type}

theorem skipBlanks_within {next : Scan R} (each : Within newline next) :
    Within newline (skipBlanks next) :=
  Within.skip each (by decide)

theorem scanChar_within {next : U8 → Scan R} (inside : ∀ c, Within newline (next c))
    (last : ∀ rest rest', next newline rest = next newline rest') :
    Within newline (scanChar next) :=
  Within.next next (fun c _ => inside c) last 0

theorem noCr_within (reject : R) {next : Scan R} (each : Within newline next) :
    Within newline (noCr reject next) := by
  refine skipBlanks_within (Within.peek (fun c text => if isEol c then reject else next text) ?_ 0)
  intro c
  cases isEol c with
  | false => exact each
  | true => exact Within.const reject

/-- A character behind `noCr` is not the end of the line. -/
theorem noCr_scanChar_within (reject : R) {next : U8 → Scan R}
    (inside : ∀ c, Within newline (next c)) : Within newline (noCr reject (scanChar next)) := by
  refine skipBlanks_within ?_
  intro line clean tail tail'
  cases line with
  | nil => rfl
  | cons c line =>
    cases ended : isEol c with
    | false =>
      simp only [List.cons_append, List.headD_cons, ended, Bool.false_eq_true, if_false]
      exact inside c line (fun member => clean (List.mem_cons_of_mem c member)) tail tail'
    | true => simp only [List.cons_append, List.headD_cons, ended, if_true]

theorem scanDigits_within (base : Nat) {next : Option U32 → Scan R}
    (stops : isDigitOf base newline = false) (each : ∀ number, Within newline (next number)) :
    Within newline (scanDigits base next) :=
  Within.word (fun digits => next (if digits = [] then none else some (BitVec.ofNat 32
    (digits.foldl (fun n c => n * base + (digitVal c).getD 0) 0)))) (fun _ => each _) stops

theorem newline_unmarked : decide ((newline ||| 0x20) = chr 'x') = false := rfl

theorem hexPrefix_within : Within newline hexPrefix := by
  intro line clean tail tail'
  rcases line with _ | ⟨c, _ | ⟨d, _ | ⟨e, line⟩⟩⟩
  · rfl
  · simp only [hexPrefix, List.cons_append, List.nil_append, List.drop_one, List.tail_cons,
      List.headD_cons, newline_unmarked, Bool.and_false, Bool.false_and]
  · rfl
  · rfl

theorem hexPrefix_length {line tail : List U8} (found : hexPrefix (line ++ newline :: tail)) :
    2 ≤ line.length := by
  rcases line with _ | ⟨c, _ | ⟨d, line⟩⟩
  · cases found
  · simp only [hexPrefix, List.cons_append, List.nil_append, List.drop_one, List.tail_cons,
      List.headD_cons, newline_unmarked, Bool.and_false, Bool.false_and] at found
    cases found
  · simp

theorem scanUnsignedNumber_within {next : Option U32 → Scan R}
    (each : ∀ number, Within newline (next number)) :
    Within newline (scanUnsignedNumber next) := by
  intro line clean tail tail'
  have same := hexPrefix_within line clean tail tail'
  cases found : hexPrefix (line ++ newline :: tail) with
  | true =>
    have long := hexPrefix_length found
    simp only [scanUnsignedNumber, ← same, found, if_true, List.drop_append_of_le_length long]
    exact scanDigits_within 16 rfl each _ (fun member => clean (List.mem_of_mem_drop member))
      tail tail'
  | false =>
    simp only [scanUnsignedNumber, ← same, found, Bool.false_eq_true, if_false]
    refine Within.peek (fun c text => if c = chr '0' then scanDigits 8 next text
      else scanDigits 10 next text) ?_ 0 line clean tail tail'
    intro c
    by_cases zero : c = chr '0'
    · simpa only [if_pos zero] using scanDigits_within 8 rfl each
    · simpa only [if_neg zero] using scanDigits_within 10 rfl each

theorem pcanParseInputIdle_within : Within newline pcanParseInputIdle :=
  skipBlanks_within (scanChar_within (fun _ => Within.const _) fun _ _ => rfl)

theorem parseData_within (left : Nat) (pf : ParsedMsg) : Within newline (parseData left pf) := by
  induction left generalizing pf with
  | zero => exact Within.const _
  | succ left ih =>
    refine noCr_within _ (scanUnsignedNumber_within ?_)
    rintro (_ | dwDat)
    · exact Within.const _
    · exact Within.branch (Within.const _) (ih _)

theorem parseLength_within (pf : ParsedMsg) : Within newline (parseLength pf) := by
  refine noCr_within _ (scanUnsignedNumber_within ?_)
  rintro (_ | dwLen)
  · exact Within.const _
  · exact Within.branch (Within.const _) (parseData_within _ _)

theorem parseId_within (pf : ParsedMsg) : Within newline (parseId pf) := by
  refine noCr_within _ (scanUnsignedNumber_within ?_)
  rintro (_ | id)
  · exact Within.const _
  · exact Within.branch (Within.const _) (parseLength_within _)

theorem parseFormat_within (pf : ParsedMsg) : Within newline (parseFormat pf) := by
  refine noCr_scanChar_within _ ?_
  intro c
  exact Within.branch (parseId_within _) (Within.branch (parseId_within _) (Within.const _))

theorem pcanParseInputMessage_within : Within newline pcanParseInputMessage := by
  refine skipBlanks_within (scanChar_within ?_ fun _ _ => rfl)
  intro c
  cases messageKind c with
  | none => exact Within.const _
  | some kind => exact parseFormat_within _

theorem scanBitrateString_within (pfdi : PcanfdInit) :
    Within newline (scanBitrateString pfdi) :=
  Within.word (fun word _ => scanRecords word.length word pfdi) (fun _ => Within.const _) rfl

theorem scanSwitches_within (left : Nat) (pfdi : PcanfdInit) :
    Within newline (scanSwitches left pfdi) := by
  induction left generalizing pfdi with
  | zero => exact Within.const _
  | succ left ih =>
    refine noCr_scanChar_within _ ?_
    intro c
    exact ih _

theorem parseRate_within : Within newline parseRate := by
  refine scanUnsignedNumber_within ?_
  rintro (_ | btr0btr1) line clean tail tail'
  · dsimp only
    rw [scanBitrateString_within _ line clean tail tail']
    cases scanBitrateString PcanfdInit.zero (line ++ newline :: tail') with
    | none => rfl
    | some pfdi => exact congrArg some (scanSwitches_within 2 pfdi line clean tail tail')
  · dsimp only
    split
    · rfl
    · exact congrArg some (scanSwitches_within 2 _ line clean tail tail')

theorem pcanParseInputInit_within : Within newline pcanParseInputInit := by
  refine skipBlanks_within (scanChar_within ?_ fun _ _ => rfl)
  intro c
  refine Within.branch (noCr_within none ?_) (Within.const _)
  intro line clean tail tail'
  exact congrArg (Option.map fdFlag) (parseRate_within line clean tail tail')

end Bounds
end PcanDriver

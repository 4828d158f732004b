import PcanDriver.TextParse

/-!
The text that `CAN_InitializeFD` takes for a bit rate (`pcanbasic_parse_fd_init` of `pcbcore.c`).
It names a clock and two timings; that it might name a rate is not foreseen.
-/
namespace PcanDriver

section Source

/-- What `strtok_r` answers one after the other. -/
def strtokens (delim : U8) (text : List U8) : List (List U8) :=
  (text.splitOn delim).filter (· ≠ [])

def isSpace (c : U8) : Bool := c = chr ' ' || (9 ≤ c && c ≤ 13)

def pcanbasicTrim (s : List U8) : List U8 :=
  ((s.dropWhile isSpace).reverse.dropWhile isSpace).reverse

/-- `strtoul` with base 0, stored in 32 bits: what overflows an `unsigned long` becomes its
    largest value, a sign is taken into account as by an `unsigned` negation. -/
def strtoul (text : List U8) : U32 :=
  let negative := text.headD 0 = chr '-'
  let digits := if negative ∨ text.headD 0 = chr '+' then text.tail else text
  let hex := hexPrefix digits
  let base := if hex then 16 else if digits.headD 0 = chr '0' then 8 else 10
  let value := ((if hex then digits.drop 2 else digits).takeWhile (isDigitOf base)).foldl
    (fun n c => n * base + (digitVal c).getD 0) 0
  if 2 ^ 64 ≤ value then 0xffffffff
  else if negative then -BitVec.ofNat 32 value else BitVec.ofNat 32 value

def fdParam (key : List U8) : Option (PcanfdInit → U32 → PcanfdInit) :=
  if key = ascii "f_clock" then some fun pfdi val => { pfdi with clockHz := val }
  else if key = ascii "f_clock_mhz" then
    some fun pfdi val => { pfdi with clockHz := val * 1000000 }
  else if key = ascii "nom_brp" then
    some fun pfdi val => { pfdi with nominal := { pfdi.nominal with brp := val } }
  else if key = ascii "nom_tseg1" then
    some fun pfdi val => { pfdi with nominal := { pfdi.nominal with tseg1 := val } }
  else if key = ascii "nom_tseg2" then
    some fun pfdi val => { pfdi with nominal := { pfdi.nominal with tseg2 := val } }
  else if key = ascii "nom_sjw" then
    some fun pfdi val => { pfdi with nominal := { pfdi.nominal with sjw := val } }
  else if key = ascii "data_brp" then
    some fun pfdi val => { pfdi with data := { pfdi.data with brp := val } }
  else if key = ascii "data_tseg1" then
    some fun pfdi val => { pfdi with data := { pfdi.data with tseg1 := val } }
  else if key = ascii "data_tseg2" then
    some fun pfdi val => { pfdi with data := { pfdi.data with tseg2 := val } }
  else if key = ascii "data_sjw" then
    some fun pfdi val => { pfdi with data := { pfdi.data with sjw := val } }
  else none

/-- The loop has no result when a token is no pair: it goes on with the same token. -/
def parseFdPairs (pfdi : PcanfdInit) : List (List U8) → Option PcanfdInit
  | [] => some pfdi
  | tok :: rest =>
    match strtokens (chr '=') tok with
    | skey :: sval :: _ =>
      let val := strtoul (pcanbasicTrim sval)
      match fdParam (pcanbasicTrim skey) with
      | some set => parseFdPairs (set pfdi val) rest
      | none => parseFdPairs pfdi rest
    | _ => none

/-- `copied` is whether `strndup` has memory. The error is that of the source, which is not
    negated; the settings count only without one. -/
def pcanbasicParseFdInit (copied : Bool) (fdbitrate : Option (List U8)) :
    Option (Int × PcanfdInit) :=
  match fdbitrate with
  | none => some (einval, PcanfdInit.zero)
  | some text =>
    if copied then
      (parseFdPairs PcanfdInit.zero (strtokens (chr ',') (text.take 500))).map ((0, ·))
    else some (enomem, PcanfdInit.zero)

end Source

section Rates

/-- No bit rate is given, only clock and timings. -/
structure Unrated (pfdi : PcanfdInit) : Prop where
  nominal : pfdi.nominal.bitrate = 0
  data : pfdi.data.bitrate = 0

theorem fdParam_unrated {key : List U8} {set : PcanfdInit → U32 → PcanfdInit}
    (known : fdParam key = some set) {pfdi : PcanfdInit} (unrated : Unrated pfdi) (val : U32) :
    Unrated (set pfdi val) := by
  unfold fdParam at known
  repeat' split at known
  all_goals
    cases known
  all_goals
    exact ⟨unrated.nominal, unrated.data⟩

theorem parseFdPairs_unrated {tokens : List (List U8)} {pfdi pfdi' : PcanfdInit}
    (parsed : parseFdPairs pfdi tokens = some pfdi') (unrated : Unrated pfdi) :
    Unrated pfdi' := by
  induction tokens generalizing pfdi with
  | nil =>
    obtain rfl := Option.some.inj parsed
    exact unrated
  | cons tok rest ih =>
    unfold parseFdPairs at parsed
    split at parsed
    next =>
      dsimp only at parsed
      split at parsed
      next set known => exact ih parsed (fdParam_unrated known unrated _)
      next => exact ih parsed unrated
    next => cases parsed

theorem pcanbasicParseFdInit_unrated {copied : Bool} {fdbitrate : Option (List U8)} {err : Int}
    {pfdi : PcanfdInit} (parsed : pcanbasicParseFdInit copied fdbitrate = some (err, pfdi)) :
    Unrated pfdi := by
  unfold pcanbasicParseFdInit at parsed
  split at parsed
  next =>
    cases parsed
    exact ⟨rfl, rfl⟩
  next text =>
    split at parsed
    next =>
      obtain ⟨settings, pairs, same⟩ := Option.map_eq_some_iff.mp parsed
      cases same
      exact parseFdPairs_unrated pairs ⟨rfl, rfl⟩
    next =>
      cases parsed
      exact ⟨rfl, rfl⟩

end Rates

section Samples

example : pcanbasicParseFdInit true (some (ascii " f_clock_mhz = 0x14,nom_brp=5 ")) =
    some (0, { PcanfdInit.zero with
      clockHz := 20000000, nominal := { PcanBittiming.zero with brp := 5 } }) := by
  decide +kernel

example : pcanbasicParseFdInit true (some (ascii "f_clock=80000000,nom_brp")) = none := by
  decide +kernel

end Samples

end PcanDriver

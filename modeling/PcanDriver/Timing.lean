import PcanDriver.Device

/-!
Bit timings: `pcan_bitrate_to_bittiming` of `pcan_timing.c` with the scan over
segment counts it makes, the conversions of `pcanfd_core.c`, and the capability
records of the three controller families. `none` stands for a call that does not
return: one of its divisors is zero, or, for a capability record without a least
number of quanta, its loop has no end.
-/
namespace PcanDriver

def edom : Int := 33

def mhz : U32 := 1000000
def ghz : Nat := 1000000000
def uintMax : U32 := 0xffffffff

def pcanSamptScale : U32 := 10000
def pcanCalcMaxError : U32 := 50
def pcanCalcSyncSeg : U32 := 1

structure PcanfdBittimingRange where
  brpMin : U32
  brpMax : U32
  brpInc : U32
  tseg1Min : U32
  tseg1Max : U32
  tseg2Min : U32
  tseg2Max : U32
  sjwMin : U32
  sjwMax : U32
deriving Repr, DecidableEq, Inhabited

def sja1000Capabilities : PcanfdBittimingRange :=
  { brpMin := 1, brpMax := 64, brpInc := 1, tseg1Min := 1, tseg1Max := 16
    tseg2Min := 1, tseg2Max := 8, sjwMin := 1, sjwMax := 4 }

def sja2010Caps : PcanfdBittimingRange :=
  { brpMin := 1, brpMax := 1024, brpInc := 1, tseg1Min := 1, tseg1Max := 16
    tseg2Min := 1, tseg2Max := 8, sjwMin := 1, sjwMax := 4 }

def ucanSlowCapabilities : PcanfdBittimingRange :=
  { brpMin := 1, brpMax := 1024, brpInc := 1, tseg1Min := 1, tseg1Max := 256
    tseg2Min := 1, tseg2Max := 128, sjwMin := 1, sjwMax := 128 }

def ucanFastCapabilities : PcanfdBittimingRange :=
  { brpMin := 1, brpMax := 1024, brpInc := 1, tseg1Min := 1, tseg1Max := 32
    tseg2Min := 1, tseg2Max := 16, sjwMin := 1, sjwMax := 16 }

def sja1000Clocks : List U32 := [8 * mhz]

def sja2010Clocks : List U32 := [56 * mhz]

def ucanClocks : List U32 := [80 * mhz, 20 * mhz, 24 * mhz, 30 * mhz, 40 * mhz, 60 * mhz]

def divU32 (a b : U32) : Option U32 :=
  if b = 0 then none else some (a / b)

/-- `do_div` with its 64-bit quotient cast to 32 bits. No dividend of the callers
wraps in 64 bits. -/
def doDiv (v64 : Nat) (b : U32) : Option U32 :=
  if b = 0 then none else some (BitVec.ofNat 32 (v64 / b.toNat))

/-- The kernel's `abs`, which takes the word for a signed `int`. -/
def absU32 (x : U32) : U32 :=
  if x.msb then -x else x

def clampU32 (x low high : U32) : U32 :=
  if x < low then low else if high < x then high else x

/-- What `pcan_update_sample_point` hands back: its result and the variables it
writes through its pointers. -/
structure SamplePointSplit where
  samplePoint : U32
  error : U32
  tseg1 : U32
  tseg2 : U32
deriving Repr, DecidableEq, Inhabited

/-- Pass `i` of the loop: the second segment with the sample point rounded, kept in
range, and what the first segment overflows goes back to the second. -/
def samplePointTrial (btc : PcanfdBittimingRange) (samplePointNominal tseg i : U32) :
    Option SamplePointSplit := do
  let tseg2 := tseg + pcanCalcSyncSeg
    - samplePointNominal * (tseg + pcanCalcSyncSeg) / pcanSamptScale - i
  let tseg2 := clampU32 tseg2 btc.tseg2Min btc.tseg2Max
  let exceeds := btc.tseg1Max < tseg - tseg2
  let tseg1 := if exceeds then btc.tseg1Max else tseg - tseg2
  let tseg2 := if exceeds then tseg - btc.tseg1Max else tseg2
  let samplePoint ← divU32 (pcanSamptScale * (tseg + pcanCalcSyncSeg - tseg2))
    (tseg + pcanCalcSyncSeg)
  return { samplePoint, error := absU32 (samplePointNominal - samplePoint), tseg1, tseg2 }

def SamplePointSplit.better (samplePointNominal : U32) (best trial : SamplePointSplit) :
    SamplePointSplit :=
  if trial.samplePoint ≤ samplePointNominal ∧ trial.error < best.error then trial else best

/-- `tseg1` and `tseg2` are the variables behind the pointers. When neither pass is
taken they keep what they held and the error stays `UINT_MAX`. -/
def pcanUpdateSamplePoint (btc : PcanfdBittimingRange) (samplePointNominal tseg tseg1 tseg2 : U32) :
    Option SamplePointSplit := do
  let best : SamplePointSplit := { samplePoint := 0, error := uintMax, tseg1, tseg2 }
  let down ← samplePointTrial btc samplePointNominal tseg 0
  let best := best.better samplePointNominal down
  let up ← samplePointTrial btc samplePointNominal tseg 1
  return best.better samplePointNominal up

/-- The local variables of `pcan_bitrate_to_bittiming` that live across passes. -/
structure TimingSearch where
  bestBitrateError : U32
  bestSamplePointError : U32
  bestTseg : U32
  bestBrp : U32
  tseg1 : U32
  tseg2 : U32
deriving Repr, DecidableEq, Inhabited

def TimingSearch.start : TimingSearch :=
  { bestBitrateError := uintMax, bestSamplePointError := uintMax
    bestTseg := 0, bestBrp := 0, tseg1 := 0, tseg2 := 0 }

/-- The part of a pass that keeps the candidate or not, given the split its segments
were put in. The segments are overwritten even when it is not kept. -/
def TimingSearch.consider (search : TimingSearch) (tseg brp bitrateError : U32)
    (split : SamplePointSplit) : TimingSearch × Bool :=
  let bestSamplePointError :=
    if bitrateError < search.bestBitrateError then uintMax else search.bestSamplePointError
  if bestSamplePointError < split.error then
    ({ search with
        bestSamplePointError := bestSamplePointError
        tseg1 := split.tseg1
        tseg2 := split.tseg2 }, false)
  else
    ({ bestBitrateError := bitrateError
       bestSamplePointError := split.error
       bestTseg := tseg / 2
       bestBrp := brp
       tseg1 := split.tseg1
       tseg2 := split.tseg2 }, decide (bitrateError = 0 ∧ split.error = 0))

/-- One pass of the `for` loop; the flag is its `break`. -/
def searchPass (btc : PcanfdBittimingRange) (clkFreq rate samplePointNominal tseg : U32)
    (search : TimingSearch) : Option (TimingSearch × Bool) := do
  let tsegall := pcanCalcSyncSeg + tseg / 2
  let quotient ← divU32 clkFreq (tsegall * rate)
  let steps ← divU32 (quotient + tseg % 2) btc.brpInc
  let brp := steps * btc.brpInc
  if brp < btc.brpMin ∨ btc.brpMax < brp then
    return (search, false)
  let bitrate ← divU32 clkFreq (brp * tsegall)
  let bitrateError := absU32 (rate - bitrate)
  if search.bestBitrateError < bitrateError then
    return (search, false)
  let split ← pcanUpdateSamplePoint btc samplePointNominal (tseg / 2) search.tseg1 search.tseg2
  return search.consider tseg brp bitrateError split

/-- The last value of the loop counter. -/
def tsegLast (btc : PcanfdBittimingRange) : U32 := (btc.tseg1Min + btc.tseg2Min) * 2

/-- The condition of the loop fails after these values, unless the last one is 0: no unsigned
counter is less, and after a round without a `break` the next one finds none either. -/
def searchPasses (btc : PcanfdBittimingRange) (clkFreq rate samplePointNominal : U32) :
    List U32 → TimingSearch → Option TimingSearch
  | [], search => if tsegLast btc = 0 then none else some search
  | tseg :: rest, search => do
    let (search, stop) ← searchPass btc clkFreq rate samplePointNominal tseg search
    if stop then return search
    searchPasses btc clkFreq rate samplePointNominal rest search

/-- The values of the loop counter, twice the segment count and counting down: even
rounds the prescaler down, odd rounds it up. With 0 for the last one the counter wraps, and
these are all values of a round. -/
def tsegChoices (btc : PcanfdBittimingRange) : List U32 :=
  let first := (btc.tseg1Max + btc.tseg2Max) * 2 + 1
  let passes := if tsegLast btc = 0 then 2 ^ 32 else first.toNat + 1 - (tsegLast btc).toNat
  (List.range passes).map fun k => first - BitVec.ofNat 32 k

/-- The sample points recommended by CiA 301 and 601-1 where the user asks for none. -/
def samplePointWanted (bt : PcanBittiming) : U32 :=
  if bt.samplePoint ≠ 0 then bt.samplePoint
  else if 800000 < bt.bitrate then 7500
  else if 500000 < bt.bitrate then 8000
  else 8750

def sanitizedSjw (btc : PcanfdBittimingRange) (sjw tseg2 : U32) : U32 :=
  if sjw = 0 ∨ btc.sjwMax = 0 then 1
  else
    let sjw := if btc.sjwMax < sjw then btc.sjwMax else sjw
    if tseg2 < sjw then tseg2 else sjw

/-- What follows the loop once the rate's error is accepted. -/
def takeSearch (bt : PcanBittiming) (btc : PcanfdBittimingRange) (sysclockHz : U32)
    (search : TimingSearch) : Option PcanBittiming := do
  let split ← pcanUpdateSamplePoint btc (samplePointWanted bt) search.bestTseg
    search.tseg1 search.tseg2
  let tq ← doDiv (search.bestBrp.toNat * ghz) sysclockHz
  return { bt with
    samplePoint := split.samplePoint
    tq := tq
    tseg1 := split.tseg1
    tseg2 := split.tseg2
    brp := search.bestBrp
    sjw := sanitizedSjw btc bt.sjw split.tseg2 }

def bitrateErrorTooHigh (search : TimingSearch) (rate : U32) : Option Bool :=
  if search.bestBitrateError = 0 then some false
  else do
    let bitrateError ← doDiv (search.bestBitrateError.toNat * pcanSamptScale.toNat) rate
    return decide (pcanCalcMaxError < bitrateError)

def pcanBitrateToBittiming (bt : PcanBittiming) (btc : PcanfdBittimingRange) (sysclockHz : U32) :
    Option (Int × PcanBittiming) := do
  if bt.samplePoint ≠ 0 ∧ pcanSamptScale < bt.samplePoint then
    return (-einval, bt)
  let search ← searchPasses btc sysclockHz bt.bitrate (samplePointWanted bt) (tsegChoices btc)
    TimingSearch.start
  if ← bitrateErrorTooHigh search bt.bitrate then
    return (-edom, bt)
  let bt ← takeSearch bt btc sysclockHz search
  return (0, bt)

def pcanGetBps (clkHz : U32) (pbt : PcanBittiming) : Option U32 :=
  divU32 clkHz (pbt.brp * (1 + pbt.tseg1 + pbt.tseg2))

def pcanBittimingToBitrate (pbt : PcanBittiming) (clkHz : U32) : Option (Int × PcanBittiming) := do
  if pbt.brp = 0 then return (-einval, pbt)
  let sjw := if pbt.sjw = 0 then 1 else pbt.sjw
  let samplePoint ← divU32 (pcanSamptScale * (1 + pbt.tseg1)) (1 + pbt.tseg1 + pbt.tseg2)
  let bitrate ← pcanGetBps clkHz pbt
  let tq ← doDiv (pbt.brp.toNat * ghz) clkHz
  return (0, { pbt with sjw, samplePoint, bitrate, tq })

/-- The user's prescaler and segments, brought into range; the jump width is not. -/
def clampTiming (pbt : PcanBittiming) (caps : PcanfdBittimingRange) : PcanBittiming :=
  { pbt with
    brp := clampU32 pbt.brp caps.brpMin caps.brpMax
    tseg1 := clampU32 pbt.tseg1 caps.tseg1Min caps.tseg1Max
    tseg2 := clampU32 pbt.tseg2 caps.tseg2Min caps.tseg2Max }

def pcanBittimingNormalize (pbt : PcanBittiming) (clockHz : U32) (caps : PcanfdBittimingRange) :
    Option (Int × PcanBittiming) := do
  let (err, pbt) ←
    if pbt.brp ≠ 0 then pcanBittimingToBitrate (clampTiming pbt caps) clockHz
    else if pbt.bitrate ≠ 0 then pcanBitrateToBittiming pbt caps clockHz
    else some (-einval, pbt)
  if err ≠ 0 then return (err, pbt)
  let bitrateReal ← divU32 clockHz (pbt.brp * (pbt.tseg1 + pbt.tseg2 + 1))
  return (0, { pbt with bitrateReal })

def pcanBittimingToBtr0btr1 (pbt : PcanBittiming) : U16 :=
  (((pbt.sjw - 1) &&& 0x3) <<< 14
    ||| ((pbt.brp - 1) &&& 0x3f) <<< 8
    ||| (if pbt.tsam ≠ 0 then 1 else 0 : U32) <<< 7
    ||| ((pbt.tseg2 - 1) &&& 0x7) <<< 4
    ||| ((pbt.tseg1 - 1) &&& 0xf)).setWidth 16

/-- The result of the search is ignored: a refused rate is encoded as the zeroed
timing it left. -/
def sja1000Bitrate (dwBitRate samplePt sjw : U32) : Option U16 := do
  let bt : PcanBittiming :=
    { brp := 0, tseg1 := 0, tseg2 := 0, tsam := 0, tq := 0, bitrateReal := 0
      bitrate := dwBitRate
      sjw := if sjw ≠ 0 then sjw else sja1000Capabilities.sjwMin
      samplePoint := samplePt }
  let (_, bt) ← pcanBitrateToBittiming bt sja1000Capabilities (8 * mhz)
  return pcanBittimingToBtr0btr1 bt

end PcanDriver

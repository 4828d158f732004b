import PcanDriver.OpenInit

/-!
The timing abstraction of `pcan_timing.c` and the use that `pcanfd_ucan.c` makes of it
(`ucan_set_BTR0BTR1`): a register word of the SJA1000 is turned into durations, a prescaler and
segments of about these durations are searched for another clock, and the durations of these are
counted in quanta again. `none` stands for a call that does not return, for a division by zero or
for a loop without an end.
-/
namespace PcanDriver

def divRound (a b : U32) : Option U32 := divU32 (a + b / 2) b

/-- `DIV_ROUND64`. No dividend of the callers wraps in 64 bits. -/
def divRound64 (a b : Nat) : Option Nat := if b = 0 then none else some ((a + b / 2) / b)

structure PcanBittimingAbs where
  prescaler : U32
  syncSegNs : U32
  tseg1Ns : U32
  tseg2Ns : U32
  sjwNs : U32
  bitrate : U32
  deltaBitrate : U32
  sample3 : U8
deriving Repr, DecidableEq, Inhabited

def pcanBittimingToAbstract (pbt : PcanBittiming) (sysclockHz : U32) : Option PcanBittimingAbs := do
  let sysclockMhz := sysclockHz / mhz
  let prescalerHz := pbt.brp * 1000
  let syncSegNs ← divRound prescalerHz sysclockMhz
  let tseg1Ns ← divRound (prescalerHz * pbt.tseg1) sysclockMhz
  let tseg2Ns ← divRound (prescalerHz * pbt.tseg2) sysclockMhz
  let sjwNs ← divRound (prescalerHz * pbt.sjw) sysclockMhz
  let bitrate ← divRound sysclockHz (pbt.brp * (1 + pbt.tseg1 + pbt.tseg2))
  let slower ← divRound sysclockHz (pbt.brp * (1 + pbt.tseg1 + pbt.tseg2 + pbt.sjw))
  return {
    prescaler := pbt.brp
    syncSegNs, tseg1Ns, tseg2Ns, sjwNs, bitrate
    deltaBitrate := absU32 (bitrate - slower)
    sample3 := pbt.tsam.setWidth 8 }

/-- The timing that `pcan_btr0btr1_to_abstract` reads out of a word. -/
def sja1000Timing (btr0btr1 : U16) : PcanBittiming :=
  let btr0 : U8 := (btr0btr1 >>> 8).setWidth 8
  let btr1 : U8 := (btr0btr1 &&& 0xff).setWidth 8
  { PcanBittiming.zero with
    sjw := ((btr0 >>> 6) &&& 0x03).setWidth 32 + 1
    tseg1 := (btr1 &&& 0x0f).setWidth 32 + 1
    tseg2 := ((btr1 >>> 4) &&& 0x07).setWidth 32 + 1
    brp := (btr0 &&& 0x3f).setWidth 32 + 1
    tsam := (btr1 >>> 7).setWidth 32 }

def pcanBtr0btr1ToAbstract (btr0btr1 : U16) : Option PcanBittimingAbs :=
  pcanBittimingToAbstract (sja1000Timing btr0btr1) (8 * mhz)

def penaltyInvalid : U32 := 0x7fffffff

/-- `pcan_timing_parameters` without the clock and the length of a bit, which the search does not
    change. -/
structure PcanTimingParameters where
  tseg1 : U16
  tseg2 : U16
  sjw : U16
  prescaler : U16
  tSclPs : U32
  baudrate : U32
  tseg1Ns : U32
  tseg2Ns : U32
  sjwNs : U32
  penalty : U32
deriving Repr, DecidableEq, Inhabited

def PcanTimingParameters.zero : PcanTimingParameters := ⟨0, 0, 0, 0, 0, 0, 0, 0, 0, 0⟩

section Search
variable (abtOrg : PcanBittimingAbs) (cap : PcanfdBittimingRange) (sysclock tBitNs : U32)

/-- The values of the outer loop's counter, down to 4. -/
def tqChoices : List U16 :=
  let first : U16 := (cap.tseg1Max + cap.tseg2Max + 1).setWidth 16
  (List.range (first.toNat + 1 - 4)).map fun k => first - BitVec.ofNat 16 k

/-- The values of the inner loop's counter, which has 16 bits and does not pass 0xffff. -/
def sjwChoices : Option (List U16) :=
  let first : U16 := cap.sjwMin.setWidth 16
  if 0xffff ≤ cap.sjwMax then none
  else some ((List.range (cap.sjwMax.toNat + 1 - first.toNat)).map fun k => first + BitVec.ofNat 16 k)

def tqPrescaler (tqNb : U16) : Option U16 :=
  (divRound64 (tBitNs.toNat * sysclock.toNat) (tqNb.toNat * ghz)).map (BitVec.ofNat 16)

def prescalerPs (prescaler : U16) : Option U32 :=
  (divRound64 (prescaler.toNat * 1000 * ghz) sysclock.toNat).map (BitVec.ofNat 32)

def tsegQuanta (tsegNs tSclPs : U32) : Option U16 :=
  (divRound (1000 * tsegNs) tSclPs).map (BitVec.setWidth 16)

def quantaNs (quanta : U16) (tSclPs : U32) : U32 :=
  BitVec.ofNat 32 (quanta.toNat * tSclPs.toNat / 1000)

/-- A pass of the outer loop up to the inner one, which not all values reach. -/
def tqTrial (tqNb : U16) : Option (Option PcanTimingParameters) := do
  let prescaler ← tqPrescaler sysclock tBitNs tqNb
  if prescaler.setWidth 32 < cap.brpMin ∨ cap.brpMax < prescaler.setWidth 32 then return none
  let tSclPs ← prescalerPs sysclock prescaler
  if tSclPs = 0 then return none
  let tseg1 ← tsegQuanta abtOrg.tseg1Ns tSclPs
  let tseg2 ← tsegQuanta abtOrg.tseg2Ns tSclPs
  if tseg1.toNat + tseg2.toNat + 1 ≠ tqNb.toNat then return none
  if tseg1.setWidth 32 < cap.tseg1Min ∨ cap.tseg1Max < tseg1.setWidth 32 then return none
  if tseg2.setWidth 32 < cap.tseg2Min ∨ cap.tseg2Max < tseg2.setWidth 32 then return none
  return some { PcanTimingParameters.zero with
    prescaler, tSclPs, tseg1, tseg2
    tseg1Ns := quantaNs tseg1 tSclPs
    tseg2Ns := quantaNs tseg2 tSclPs }

/-- The first term compares whole bits, the second one the jump widths. -/
def timingPenalty (cur : PcanTimingParameters) : U32 :=
  absU32 ((cur.tseg1Ns + cur.tseg2Ns + cur.tSclPs / 1000)
      - (abtOrg.tseg1Ns + abtOrg.tseg2Ns + abtOrg.syncSegNs))
    + absU32 (cur.sjwNs - abtOrg.sjwNs)

def sjwTrial (cur : PcanTimingParameters) (sjw : U16) : Option PcanTimingParameters := do
  let baudrate ← divRound64 (1000 * ghz)
    (cur.tSclPs + cur.tseg1Ns * 1000 + cur.tseg2Ns * 1000).toNat
  let cur := { cur with
    sjw
    sjwNs := quantaNs sjw cur.tSclPs
    baudrate := BitVec.ofNat 32 baudrate }
  return { cur with penalty := timingPenalty abtOrg cur }

/-- All that a pass of the outer loop compares with the best so far. -/
def tqTrials (tqNb : U16) : Option (List PcanTimingParameters) := do
  match ← tqTrial abtOrg cap sysclock tBitNs tqNb with
  | none => return []
  | some cur => (← sjwChoices cap).mapM (sjwTrial abtOrg cur)

def keepBaudrate (best cur : PcanTimingParameters) : PcanTimingParameters :=
  if cur.penalty < best.penalty then cur else best

def searchBaudrate : Option PcanTimingParameters :=
  (tqChoices cap).foldlM
    (fun best tqNb => do
      let trials ← tqTrials abtOrg cap sysclock tBitNs tqNb
      return trials.foldl keepBaudrate best)
    { PcanTimingParameters.zero with penalty := penaltyInvalid }

end Search

def PcanTimingParameters.toAbstract (best : PcanTimingParameters)
    (abtResult abtOrg : PcanBittimingAbs) : PcanBittimingAbs :=
  { abtResult with
    prescaler := best.prescaler.setWidth 32
    tseg1Ns := best.tseg1Ns
    tseg2Ns := best.tseg2Ns
    sjwNs := best.sjwNs
    bitrate := best.baudrate
    sample3 := abtOrg.sample3 }

def pcanConvertAbstract (abtResult abtOrg : PcanBittimingAbs) (cap : PcanfdBittimingRange)
    (sysclock : U32) : Option (Int × PcanBittimingAbs) := do
  let tBitNs ← divRound (BitVec.ofNat 32 ghz) abtOrg.bitrate
  let best ← searchBaudrate abtOrg cap sysclock tBitNs
  if best.penalty = penaltyInvalid then return (0, abtResult)
  return (1, best.toAbstract abtResult abtOrg)

def pcanAbstractToBittiming (pbt : PcanBittiming) (abt : PcanBittimingAbs) (sysclockHz : U32) :
    Option (Int × PcanBittiming) := do
  let tSclNs ← divRound (abt.prescaler * 1000) (sysclockHz / mhz)
  if tSclNs = 0 then return (0, pbt)
  let sjw ← divRound abt.sjwNs tSclNs
  let tseg1 ← divRound abt.tseg1Ns tSclNs
  let tseg2 ← divRound abt.tseg2Ns tSclNs
  let samplePoint ← divU32 (pcanSamptScale * (1 + tseg1)) (1 + tseg1 + tseg2)
  return (1, { pbt with
    bitrate := abt.bitrate
    sjw, tseg1, tseg2
    brp := abt.prescaler
    tq := tSclNs
    tsam := abt.sample3.setWidth 32
    samplePoint })

/-- The result of a failed conversion is the negative error, that of a successful one is 1. The
    locals `at_convert` and `*pbr` hold anything before the call. -/
def ucanConvertBtr0btr1 (atConvert : PcanBittimingAbs) (pbr : PcanBittiming) (btr0btr1 : U16)
    (pcap : PcanfdBittimingRange) : Option (Int × PcanBittiming) := do
  let sysclock := 80 * mhz
  let atOriginal ← pcanBtr0btr1ToAbstract btr0btr1
  let (found, atConvert) ← pcanConvertAbstract atConvert atOriginal pcap sysclock
  if found = 0 then return (-einval, pbr)
  pcanAbstractToBittiming pbr atConvert sysclock

structure UcanSend where
  err : Int
  sent : Option UcanTimingSlow

/-- `cmdSize` is the size of the command buffer, in which the command needs 8 bytes. -/
def ucanSetTimingSlow (cmdSize : Nat) (sendCmd : UcanTimingSlow → Int) (pbr : PcanBittiming) :
    UcanSend :=
  if cmdSize < 8 then ⟨-einval, none⟩
  else ⟨sendCmd (ucanAddCmdTimingSlow pbr), some (ucanAddCmdTimingSlow pbr)⟩

/-- Only the result 0 is taken for a failure. -/
def ucanSetBtr0btr1 (cmdSize : Nat) (sendCmd : UcanTimingSlow → Int) (atConvert : PcanBittimingAbs)
    (bitrate : PcanBittiming) (btr0btr1 : U16) : Option UcanSend := do
  let (err, bitrate) ← ucanConvertBtr0btr1 atConvert bitrate btr0btr1 ucanSlowCapabilities
  if err = 0 then return ⟨-einval, none⟩
  return ucanSetTimingSlow cmdSize sendCmd bitrate

end PcanDriver

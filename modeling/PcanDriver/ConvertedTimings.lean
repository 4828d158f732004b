import Mathlib.Tactic.Ring
import PcanDriver.AbstractSearch
import PcanDriver.MatchedQuanta
import PcanDriver.RateSearch
import PcanDriver.TimingRegisters

/-!
What a register word of the SJA1000 is worth after it has been converted for another controller and
clock: the values that the search compares, which of them comes out, and what is counted of it.
-/
namespace PcanDriver
open FirstLeast RoundedDivision

section Statement

def bitQuanta (bt : PcanBittiming) : Nat := 1 + bt.tseg1.toNat + bt.tseg2.toNat

def bitClocks (bt : PcanBittiming) : Nat := bt.brp.toNat * bitQuanta bt

/-- The rates are the clock over the clocks of a bit, and 8 MHz over those of the original; they
    are compared without rounding. The sample points are shares of a bit, and a quantum is one of
    the new timing. -/
structure ConvertedTiming (cap : PcanfdBittimingRange) (clock : U32)
    (original timing : PcanBittiming) : Prop where
  inRange : TimingInRange cap timing
  notSlower : 199 * (8000000 * bitClocks timing) ≤ 200 * (clock.toNat * bitClocks original)
  notFaster : 200 * (clock.toNat * bitClocks original) ≤ 201 * (8000000 * bitClocks timing)
  samplePoint : Nat.dist ((1 + timing.tseg1.toNat) * bitQuanta original)
    ((1 + original.tseg1.toNat) * bitQuanta timing) ≤ bitQuanta original

/-- What is expected of the conversion, whatever the memory held that it writes to. -/
def ConversionMeets (btr0btr1 : U16) (cap : PcanfdBittimingRange) (clock : U32) : Prop :=
  ∀ abtOrg abtResult abt pbt timing, pcanBtr0btr1ToAbstract btr0btr1 = some abtOrg →
    pcanConvertAbstract abtResult abtOrg cap clock = some (1, abt) →
    pcanAbstractToBittiming pbt abt clock = some (1, timing) →
    ConvertedTiming cap clock (sja1000Timing btr0btr1) timing

/-- The original on another clock, with as long a quantum. -/
def sameQuantum (original : PcanBittiming) (clock : U32) : PcanBittiming :=
  { original with brp := BitVec.ofNat 32 (original.brp.toNat * (clock.toNat / 1000000) / 8) }

/-- The original is a timing of the new controller, too: its quantum is a whole number of clocks,
    nothing is out of range, and it has one of the numbers of quanta that the search tries. -/
structure OriginalOffered (cap : PcanfdBittimingRange) (clock : U32) (original : PcanBittiming) :
    Prop where
  megahertz : clock.toNat % 1000000 = 0
  ticks : 0 < clock.toNat
  slow : clock.toNat < 500000000
  whole : original.brp.toNat * (clock.toNat / 1000000) % 8 = 0
  inRange : TimingInRange cap (sameQuantum original clock)
  counted : cap.tseg1Max.toNat + cap.tseg2Max.toNat + 1 < 2 ^ 16
  four : 4 ≤ bitQuanta original

end Statement

section Words

theorem field_toNat {x mask : U8} {k : Nat} (ones : mask.toNat = 2 ^ k - 1) :
    ((x &&& mask).setWidth 32 + 1 : U32).toNat = x.toNat % 2 ^ k + 1 := by
  have one : (1 : U32).toNat = 1 := rfl
  have small : x.toNat % 2 ^ k ≤ x.toNat := Nat.mod_le _ _
  have size := x.isLt
  rw [BitVec.toNat_add, BitVec.toNat_setWidth, BitVec.toNat_and, ones,
    Nat.and_two_pow_sub_one_eq_mod, one]
  omega

theorem sja1000Timing_toNat (btr0btr1 : U16) :
    (sja1000Timing btr0btr1).brp.toNat = btr0btr1.toNat / 256 % 64 + 1 ∧
    (sja1000Timing btr0btr1).sjw.toNat = btr0btr1.toNat / 16384 + 1 ∧
    (sja1000Timing btr0btr1).tseg1.toNat = btr0btr1.toNat % 16 + 1 ∧
    (sja1000Timing btr0btr1).tseg2.toNat = btr0btr1.toNat / 16 % 8 + 1 := by
  have size := btr0btr1.isLt
  have btr0 : ((btr0btr1 >>> 8).setWidth 8 : U8).toNat = btr0btr1.toNat / 256 := by
    rw [BitVec.toNat_setWidth, BitVec.toNat_ushiftRight, Nat.shiftRight_eq_div_pow]
    omega
  have ones : (0xff : U16).toNat = 2 ^ 8 - 1 := rfl
  have btr1 : ((btr0btr1 &&& 0xff).setWidth 8 : U8).toNat = btr0btr1.toNat % 256 := by
    rw [BitVec.toNat_setWidth, BitVec.toNat_and, ones, Nat.and_two_pow_sub_one_eq_mod]
    omega
  have shifted (x : U8) (k : Nat) : (x >>> k).toNat = x.toNat / 2 ^ k := by
    rw [BitVec.toNat_ushiftRight, Nat.shiftRight_eq_div_pow]
  unfold sja1000Timing
  refine ⟨?_, ?_, ?_, ?_⟩
  · rw [@field_toNat _ _ 6 rfl, btr0]
    omega
  · rw [@field_toNat _ _ 2 rfl, shifted, btr0]
    omega
  · rw [@field_toNat _ _ 4 rfl, btr1]
    omega
  · rw [@field_toNat _ _ 3 rfl, shifted, btr1]
    omega

theorem sja1000Timing_bounds (btr0btr1 : U16) :
    (1 ≤ (sja1000Timing btr0btr1).brp.toNat ∧ (sja1000Timing btr0btr1).brp.toNat ≤ 64) ∧
    (1 ≤ (sja1000Timing btr0btr1).tseg1.toNat ∧ (sja1000Timing btr0btr1).tseg1.toNat ≤ 16) ∧
    (1 ≤ (sja1000Timing btr0btr1).tseg2.toNat ∧ (sja1000Timing btr0btr1).tseg2.toNat ≤ 8) ∧
    (1 ≤ (sja1000Timing btr0btr1).sjw.toNat ∧ (sja1000Timing btr0btr1).sjw.toNat ≤ 4) := by
  have size := btr0btr1.isLt
  obtain ⟨brp, sjw, tseg1, tseg2⟩ := sja1000Timing_toNat btr0btr1
  omega

theorem divRound_toNat {a b : U32} (nonzero : b ≠ 0) (room : a.toNat + b.toNat / 2 < 2 ^ 32) :
    ∃ quotient, divRound a b = some quotient ∧
      quotient.toNat = (a.toNat + b.toNat / 2) / b.toNat := by
  have two : (2 : U32).toNat = 2 := rfl
  refine ⟨(a + b / 2) / b, if_neg nonzero, ?_⟩
  rw [BitVec.toNat_udiv, BitVec.toNat_add, BitVec.toNat_udiv, two, Nat.mod_eq_of_lt room]

structure AbstractOf (bt : PcanBittiming) (abt : PcanBittimingAbs) : Prop where
  syncSegNs : abt.syncSegNs.toNat = 125 * bt.brp.toNat
  tseg1Ns : abt.tseg1Ns.toNat = 125 * (bt.brp.toNat * bt.tseg1.toNat)
  tseg2Ns : abt.tseg2Ns.toNat = 125 * (bt.brp.toNat * bt.tseg2.toNat)
  sjwNs : abt.sjwNs.toNat = 125 * (bt.brp.toNat * bt.sjw.toNat)
  bitrate : abt.bitrate.toNat = (8000000 + bitClocks bt / 2) / bitClocks bt

theorem segment_ns {brp quanta : U32} (low : brp.toNat ≤ 64) (few : quanta.toNat ≤ 16) :
    ∃ ns, divRound (brp * 1000 * quanta) (8 * mhz / mhz) = some ns ∧
      ns.toNat = 125 * (brp.toNat * quanta.toNat) := by
  have eight : (8 * mhz / mhz : U32).toNat = 8 := by decide
  have thousand : (1000 : U32).toNat = 1000 := rfl
  have most : brp.toNat * quanta.toNat ≤ 64 * 16 := Nat.mul_le_mul low few
  have first : (brp * 1000 : U32).toNat = 1000 * brp.toNat := by
    rw [BitVec.toNat_mul, thousand]
    omega
  have product : (brp * 1000 * quanta : U32).toNat = 1000 * (brp.toNat * quanta.toNat) := by
    rw [BitVec.toNat_mul, first, Nat.mul_assoc]
    omega
  obtain ⟨ns, divided, value⟩ := @divRound_toNat (brp * 1000 * quanta) (8 * mhz / mhz) (by decide)
    (by omega)
  refine ⟨ns, divided, ?_⟩
  rw [value, product, eight]
  omega

theorem rate_some {brp quanta : U32} (low : 1 ≤ brp.toNat ∧ brp.toNat ≤ 64)
    (some_ : 1 ≤ quanta.toNat ∧ quanta.toNat ≤ 29) :
    ∃ rate, divRound (8 * mhz) (brp * quanta) = some rate ∧
      rate.toNat = (8000000 + brp.toNat * quanta.toNat / 2) / (brp.toNat * quanta.toNat) := by
  have clock : (8 * mhz : U32).toNat = 8000000 := by decide
  have most : brp.toNat * quanta.toNat ≤ 64 * 29 := Nat.mul_le_mul low.2 some_.2
  have least : 0 < brp.toNat * quanta.toNat := Nat.mul_pos low.1 some_.1
  have product : (brp * quanta : U32).toNat = brp.toNat * quanta.toNat := by
    rw [BitVec.toNat_mul, Nat.mod_eq_of_lt (by omega)]
  have nonzero : brp * quanta ≠ 0 := by
    intro zero
    rw [zero] at product
    exact absurd product (Nat.ne_of_lt least)
  obtain ⟨rate, divided, value⟩ := @divRound_toNat (8 * mhz) (brp * quanta) nonzero
    (by rw [product, clock]; omega)
  rw [product, clock] at value
  exact ⟨rate, divided, value⟩

theorem abstractOf_timing {bt : PcanBittiming}
    (brp : 1 ≤ bt.brp.toNat ∧ bt.brp.toNat ≤ 64)
    (tseg1 : 1 ≤ bt.tseg1.toNat ∧ bt.tseg1.toNat ≤ 16)
    (tseg2 : 1 ≤ bt.tseg2.toNat ∧ bt.tseg2.toNat ≤ 8)
    (sjw : 1 ≤ bt.sjw.toNat ∧ bt.sjw.toNat ≤ 4) :
    ∃ abt, pcanBittimingToAbstract bt (8 * mhz) = some abt ∧ AbstractOf bt abt := by
  have one : (1 : U32).toNat = 1 := rfl
  have quanta : (1 + bt.tseg1 + bt.tseg2).toNat = bitQuanta bt := by
    unfold bitQuanta
    rw [BitVec.toNat_add, BitVec.toNat_add, one]
    omega
  have longer : (1 + bt.tseg1 + bt.tseg2 + bt.sjw).toNat = bitQuanta bt + bt.sjw.toNat := by
    rw [BitVec.toNat_add, quanta, bitQuanta, Nat.mod_eq_of_lt (by omega)]
  have few : 1 ≤ bitQuanta bt ∧ bitQuanta bt ≤ 25 := by
    unfold bitQuanta
    omega
  obtain ⟨syncSegNs, isSync, sync⟩ := @segment_ns bt.brp 1 brp.2 (by decide)
  have once : bt.brp * 1000 * 1 = bt.brp * 1000 := BitVec.mul_one _
  rw [once] at isSync
  rw [one, Nat.mul_one] at sync
  obtain ⟨tseg1Ns, isFirst, first⟩ := @segment_ns bt.brp bt.tseg1 brp.2 tseg1.2
  obtain ⟨tseg2Ns, isSecond, second⟩ := @segment_ns bt.brp bt.tseg2 brp.2 (by omega)
  obtain ⟨sjwNs, isJump, jump⟩ := @segment_ns bt.brp bt.sjw brp.2 (by omega)
  obtain ⟨bitrate, isRate, rate⟩ := @rate_some bt.brp (1 + bt.tseg1 + bt.tseg2) brp (by omega)
  obtain ⟨slower, isSlower, -⟩ := @rate_some bt.brp (1 + bt.tseg1 + bt.tseg2 + bt.sjw) brp
    (by omega)
  unfold pcanBittimingToAbstract
  simp only [isSync, isFirst, isSecond, isJump, isRate, isSlower, Option.bind_eq_bind,
    Option.bind_some]
  rw [quanta] at rate
  exact ⟨_, rfl, sync, first, second, jump, rate⟩

theorem original_abstract (btr0btr1 : U16) :
    ∃ abtOrg tBitNs, pcanBtr0btr1ToAbstract btr0btr1 = some abtOrg ∧
      AbstractOf (sja1000Timing btr0btr1) abtOrg ∧
      divRound (BitVec.ofNat 32 ghz) abtOrg.bitrate = some tBitNs ∧
      tBitNs.toNat = (1000000000 + abtOrg.bitrate.toNat / 2) / abtOrg.bitrate.toNat := by
  obtain ⟨brp, tseg1, tseg2, sjw⟩ := sja1000Timing_bounds btr0btr1
  obtain ⟨abtOrg, converted, abstractOf⟩ := abstractOf_timing brp tseg1 tseg2 sjw
  have clocks : 0 < bitClocks (sja1000Timing btr0btr1) :=
    Nat.mul_pos brp.1 (by unfold bitQuanta; omega)
  have rate := abstractOf.bitrate
  have high : (8000000 + bitClocks (sja1000Timing btr0btr1) / 2) /
      bitClocks (sja1000Timing btr0btr1) ≤ 8000000 + bitClocks (sja1000Timing btr0btr1) / 2 :=
    Nat.div_le_self _ _
  have most : bitClocks (sja1000Timing btr0btr1) ≤ 64 * 25 :=
    Nat.mul_le_mul brp.2 (by unfold bitQuanta; omega)
  have least : 0 < abtOrg.bitrate.toNat := by
    rw [rate]
    exact Nat.div_pos (by omega) clocks
  have giga : (BitVec.ofNat 32 ghz).toNat = 1000000000 := by decide
  have nonzero : abtOrg.bitrate ≠ 0 := by
    intro zero
    rw [zero] at least
    exact absurd least (by decide)
  obtain ⟨tBitNs, divided, value⟩ := @divRound_toNat (BitVec.ofNat 32 ghz) abtOrg.bitrate nonzero
    (by omega)
  rw [giga] at value
  exact ⟨abtOrg, tBitNs, converted, abstractOf, divided, value⟩

end Words

/-- The length of a bit in nanoseconds, rounded by way of the rate. -/
def bitNs (clocks : Nat) : Nat :=
  let rate := (8000000 + clocks / 2) / clocks
  (1000000000 + rate / 2) / rate

theorem bitNs_near : ∀ brp < 65, 1 ≤ brp → ∀ quanta < 26, 3 ≤ quanta →
    bitNs (brp * quanta) ≤ 125 * (brp * quanta) + quanta ∧
      125 * (brp * quanta) ≤ bitNs (brp * quanta) + quanta := by
  decide +kernel

/-- The clock in whole megahertz, slow enough for the rounded length of a bit. -/
structure Clocked (clock : U32) (mega : Nat) : Prop where
  hertz : clock.toNat = 1000000 * mega
  ticks : 0 < mega
  slow : mega < 500

structure Searched (bt : PcanBittiming) (abtOrg : PcanBittimingAbs) (tBitNs : U32) : Prop where
  abstractOf : AbstractOf bt abtOrg
  brp : 1 ≤ bt.brp.toNat ∧ bt.brp.toNat ≤ 64
  tseg1 : 1 ≤ bt.tseg1.toNat ∧ bt.tseg1.toNat ≤ 16
  tseg2 : 1 ≤ bt.tseg2.toNat ∧ bt.tseg2.toNat ≤ 8
  sjw : 1 ≤ bt.sjw.toNat ∧ bt.sjw.toNat ≤ 4
  length : tBitNs.toNat ≤ 125 * bitClocks bt + bitQuanta bt ∧
    125 * bitClocks bt ≤ tBitNs.toNat + bitQuanta bt

section Values
variable {bt : PcanBittiming} {abtOrg : PcanBittimingAbs} {cap : PcanfdBittimingRange}
  {clock tBitNs : U32} {mega : Nat} {tqNb : U16} {cur : PcanTimingParameters}

theorem Searched.segments (searched : Searched bt abtOrg tBitNs) :
    abtOrg.tseg1Ns.toNat ≤ 128000 ∧ abtOrg.tseg2Ns.toNat ≤ 64000 ∧
      abtOrg.syncSegNs.toNat ≤ 8000 ∧ abtOrg.sjwNs.toNat ≤ 32000 := by
  rw [searched.abstractOf.tseg1Ns, searched.abstractOf.tseg2Ns, searched.abstractOf.syncSegNs,
    searched.abstractOf.sjwNs]
  have first := Nat.mul_le_mul searched.brp.2 searched.tseg1.2
  have second := Nat.mul_le_mul searched.brp.2 searched.tseg2.2
  have jump := Nat.mul_le_mul searched.brp.2 searched.sjw.2
  have brp := searched.brp
  omega

theorem Searched.bit_short (searched : Searched bt abtOrg tBitNs) : tBitNs.toNat ≤ 200025 := by
  have length := searched.length.1
  have quanta : bitQuanta bt ≤ 25 := by
    have tseg1 := searched.tseg1
    have tseg2 := searched.tseg2
    unfold bitQuanta
    omega
  have clocks : bitClocks bt ≤ 64 * 25 := Nat.mul_le_mul searched.brp.2 quanta
  omega

theorem Clocked.nonzero (clocked : Clocked clock mega) : clock ≠ 0 := by
  rintro rfl
  have hertz := clocked.hertz
  have ticks := clocked.ticks
  have none : (0 : U32).toNat = 0 := rfl
  omega

theorem prescalerPs_toNat (clocked : Clocked clock mega) {prescaler : U16} {tSclPs : U32}
    (length : prescalerPs clock prescaler = some tSclPs)
    (short : nearest (prescaler.toNat * 1000000) mega < 2 ^ 32) :
    tSclPs.toNat = nearest (prescaler.toNat * 1000000) mega := by
  rw [prescalerPs_some clocked.nonzero] at length
  rw [← Option.some.inj length, BitVec.toNat_ofNat]
  have scaled : (prescaler.toNat * 1000 * ghz + clock.toNat / 2) / clock.toNat =
      nearest (1000000 * (prescaler.toNat * 1000000)) (1000000 * mega) := by
    rw [clocked.hertz, nearest, ghz]
    congr 2
    omega
  rw [scaled, nearest_mul_left (by decide), Nat.mod_eq_of_lt short]

theorem tqPrescaler_toNat (clocked : Clocked clock mega) (short : tBitNs.toNat ≤ 200025)
    (four : 4 ≤ tqNb.toNat) {prescaler : U16}
    (divided : tqPrescaler clock tBitNs tqNb = some prescaler) :
    prescaler.toNat = nearest (tBitNs.toNat * mega) (tqNb.toNat * 1000) := by
  have nonzero : tqNb ≠ 0 := by
    rintro rfl
    exact absurd four (by decide)
  rw [tqPrescaler_some nonzero] at divided
  have scaled : (tBitNs.toNat * clock.toNat + tqNb.toNat * ghz / 2) / (tqNb.toNat * ghz) =
      nearest (1000000 * (tBitNs.toNat * mega)) (1000000 * (tqNb.toNat * 1000)) := by
    have first : 1000000 * (tBitNs.toNat * mega) = tBitNs.toNat * clock.toNat := by
      rw [clocked.hertz, Nat.mul_left_comm]
    have second : 1000000 * (tqNb.toNat * 1000) = tqNb.toNat * ghz := by
      rw [ghz]
      omega
    rw [first, second]
    rfl
  rw [scaled, nearest_mul_left (by decide)] at divided
  have most : tBitNs.toNat * mega ≤ 200025 * 500 :=
    Nat.mul_le_mul short (Nat.le_of_lt clocked.slow)
  have few : nearest (tBitNs.toNat * mega) (tqNb.toNat * 1000) < 2 ^ 16 := by
    by_contra many
    have below := nearest_le (tBitNs.toNat * mega) (b := tqNb.toNat * 1000)
    have product := Nat.mul_le_mul_right (tqNb.toNat * 1000) (Nat.not_lt.mp many)
    omega
  rw [← Option.some.inj divided, BitVec.toNat_ofNat, Nat.mod_eq_of_lt few]

theorem Passes.quantum (passes : Passes abtOrg cap clock tBitNs tqNb cur)
    (clocked : Clocked clock mega) (short : tBitNs.toNat ≤ 200025) (four : 4 ≤ tqNb.toNat) :
    cur.prescaler.toNat = nearest (tBitNs.toNat * mega) (tqNb.toNat * 1000) ∧
      cur.tSclPs.toNat = nearest (cur.prescaler.toNat * 1000000) mega := by
  have divided := tqPrescaler_toNat clocked short four passes.divided
  refine ⟨divided, prescalerPs_toNat clocked passes.length ?_⟩
  have below := nearest_le (tBitNs.toNat * mega) (b := tqNb.toNat * 1000)
  rw [← divided] at below
  have most : tBitNs.toNat * mega ≤ 200025 * mega := Nat.mul_le_mul_right mega short
  have ticks := clocked.ticks
  have clocks : cur.prescaler.toNat * 8000 ≤ 400050 * mega + 4000 := by
    by_contra many
    have enough : 50 * mega + 1 ≤ cur.prescaler.toNat := by omega
    have product :=
      Nat.mul_le_mul_left (2 * cur.prescaler.toNat - 1) (Nat.mul_le_mul_right 1000 four)
    simp only [Nat.sub_mul, Nat.mul_assoc, Nat.one_mul] at product
    omega
  by_contra long
  have length := nearest_le (cur.prescaler.toNat * 1000000) (b := mega)
  have product := Nat.mul_le_mul_right mega (Nat.not_lt.mp long)
  omega

theorem tsegQuanta_toNat {tsegNs tSclPs : U32} {quanta : U16} (short : tsegNs.toNat ≤ 128000)
    (counted : tsegQuanta tsegNs tSclPs = some quanta)
    (few : nearest (1000 * tsegNs.toNat) tSclPs.toNat < 2 ^ 16) :
    quanta.toNat = nearest (1000 * tsegNs.toNat) tSclPs.toNat := by
  have thousand : (1000 : U32).toNat = 1000 := rfl
  have two : (2 : U32).toNat = 2 := rfl
  have size := tSclPs.isLt
  unfold tsegQuanta divRound divU32 at counted
  split at counted
  next => cases counted
  next =>
  have dividend : (1000 * tsegNs + tSclPs / 2 : U32).toNat =
      1000 * tsegNs.toNat + tSclPs.toNat / 2 := by
    rw [BitVec.toNat_add, BitVec.toNat_mul, BitVec.toNat_udiv, thousand, two]
    omega
  rw [← Option.some.inj counted, BitVec.toNat_setWidth, BitVec.toNat_udiv, dividend]
  exact Nat.mod_eq_of_lt few

theorem wordDistance_small {a b : Nat} (first : a ≤ 2 ^ 31) (second : b ≤ 2 ^ 31) :
    wordDistance a b = Nat.dist a b := by
  unfold wordDistance Nat.dist
  omega

theorem jumpTrial_penalty (passes : Passes abtOrg cap clock tBitNs tqNb cur)
    (searched : Searched bt abtOrg tBitNs) (four : 4 ≤ tqNb.toNat) (sjw : U16) :
    (jumpTrial abtOrg cur sjw).penalty.toNat =
      Nat.dist (cur.tseg1.toNat * cur.tSclPs.toNat / 1000 + cur.tseg2.toNat * cur.tSclPs.toNat / 1000 +
          cur.tSclPs.toNat / 1000)
        (125 * (bt.brp.toNat + bt.brp.toNat * bt.tseg1.toNat + bt.brp.toNat * bt.tseg2.toNat)) +
      wordDistance (sjw.toNat * cur.tSclPs.toNat / 1000 % 2 ^ 32)
        (125 * (bt.brp.toNat * bt.sjw.toNat)) := by
  obtain ⟨first, second, sync, -⟩ := searched.segments
  obtain ⟨short, ns1, ns2⟩ := passes.lengths first second four
  obtain ⟨isNs1, isNs2⟩ := passes.ns first second four
  have abstractOf := searched.abstractOf
  have thousand : (1000 : U32).toNat = 1000 := rfl
  have bit : (cur.tseg1Ns + cur.tseg2Ns + cur.tSclPs / 1000).toNat =
      cur.tseg1.toNat * cur.tSclPs.toNat / 1000 + cur.tseg2.toNat * cur.tSclPs.toNat / 1000 +
        cur.tSclPs.toNat / 1000 := by
    rw [BitVec.toNat_add, BitVec.toNat_add, BitVec.toNat_udiv, thousand, isNs1, isNs2]
    omega
  have original : (abtOrg.tseg1Ns + abtOrg.tseg2Ns + abtOrg.syncSegNs).toNat =
      125 * (bt.brp.toNat + bt.brp.toNat * bt.tseg1.toNat + bt.brp.toNat * bt.tseg2.toNat) := by
    rw [BitVec.toNat_add, BitVec.toNat_add]
    have isFirst := abstractOf.tseg1Ns
    have isSecond := abstractOf.tseg2Ns
    have isSync := abstractOf.syncSegNs
    omega
  have jump : (quantaNs sjw cur.tSclPs).toNat = sjw.toNat * cur.tSclPs.toNat / 1000 % 2 ^ 32 := by
    rw [quantaNs, BitVec.toNat_ofNat]
  have penalty : (jumpTrial abtOrg cur sjw).penalty =
      absU32 ((cur.tseg1Ns + cur.tseg2Ns + cur.tSclPs / 1000) -
        (abtOrg.tseg1Ns + abtOrg.tseg2Ns + abtOrg.syncSegNs)) +
      absU32 (quantaNs sjw cur.tSclPs - abtOrg.sjwNs) := rfl
  rw [penalty, BitVec.toNat_add, absU32_toNat, absU32_toNat, bit, original, jump, abstractOf.sjwNs]
  have isFirst := abstractOf.tseg1Ns
  have isSecond := abstractOf.tseg2Ns
  have isSync := abstractOf.syncSegNs
  rw [wordDistance_small (by omega) (by omega)]
  have far := wordDistance_le (sjw.toNat * cur.tSclPs.toNat / 1000 % 2 ^ 32)
    (125 * (bt.brp.toNat * bt.sjw.toNat))
  apply Nat.mod_eq_of_lt
  unfold Nat.dist
  omega

theorem Passes.matched (passes : Passes abtOrg cap clock tBitNs tqNb cur)
    (searched : Searched bt abtOrg tBitNs) (four : 4 ≤ bitQuanta bt)
    (more : bitQuanta bt ≤ tqNb.toNat)
    (bit : cur.tseg1.toNat * cur.tSclPs.toNat / 1000 + cur.tseg2.toNat * cur.tSclPs.toNat / 1000 +
        cur.tSclPs.toNat / 1000 =
      125 * (bt.brp.toNat + bt.brp.toNat * bt.tseg1.toNat + bt.brp.toNat * bt.tseg2.toNat)) :
    Matched bt.brp.toNat bt.tseg1.toNat bt.tseg2.toNat cur.tSclPs.toNat cur.tseg1.toNat
      cur.tseg2.toNat := by
  obtain ⟨short1, short2, -⟩ := searched.segments
  have first := searched.abstractOf.tseg1Ns
  have second := searched.abstractOf.tseg2Ns
  have bound1 := tsegQuanta_bound short1 passes.tseg1
  have bound2 := tsegQuanta_bound (by omega) passes.tseg2
  have brp := searched.brp
  have low := @half_quantum bt.brp.toNat bt.tseg1.toNat bt.tseg2.toNat cur.tSclPs.toNat
    cur.tseg1.toNat cur.tseg2.toNat (by omega) (by omega) bit
  have count (tseg : Nat) : nearest (125000 * (bt.brp.toNat * tseg)) cur.tSclPs.toNat ≤ 2 * tseg :=
    few_quanta low (by omega) rfl
  have scaled1 : 1000 * abtOrg.tseg1Ns.toNat = 125000 * (bt.brp.toNat * bt.tseg1.toNat) := by omega
  have scaled2 : 1000 * abtOrg.tseg2Ns.toNat = 125000 * (bt.brp.toNat * bt.tseg2.toNat) := by omega
  have few1 := count bt.tseg1.toNat
  have few2 := count bt.tseg2.toNat
  have range1 := searched.tseg1
  have range2 := searched.tseg2
  have count1 := tsegQuanta_toNat short1 passes.tseg1 (by rw [scaled1]; omega)
  have count2 := tsegQuanta_toNat (by omega) passes.tseg2 (by rw [scaled2]; omega)
  rw [scaled1] at count1
  rw [scaled2] at count2
  exact ⟨brp.1, range1, range2, four, count1, count2, bit, by rw [passes.quanta]; exact more⟩

theorem counted_fields (clocked : Clocked clock mega) {abt : PcanBittimingAbs}
    {pbt timing : PcanBittiming} (small : abt.prescaler.toNat < 2 ^ 16)
    (short1 : abt.tseg1Ns.toNat < 2 ^ 31) (short2 : abt.tseg2Ns.toNat < 2 ^ 31)
    (short : abt.sjwNs.toNat < 2 ^ 31)
    (counted : pcanAbstractToBittiming pbt abt clock = some (1, timing)) :
    let ns := nearest (abt.prescaler.toNat * 1000) mega
    timing.brp = abt.prescaler ∧ timing.tseg1.toNat = nearest abt.tseg1Ns.toNat ns ∧
      timing.tseg2.toNat = nearest abt.tseg2Ns.toNat ns ∧
      timing.sjw.toNat = nearest abt.sjwNs.toNat ns := by
  intro ns
  have ticks := clocked.ticks
  have slow := clocked.slow
  have thousand : (1000 : U32).toNat = 1000 := rfl
  have million : mhz.toNat = 1000000 := rfl
  have isMega : (clock / mhz).toNat = mega := by
    rw [BitVec.toNat_udiv, clocked.hertz, million, Nat.mul_div_cancel_left _ (by decide)]
  have isDividend : (abt.prescaler * 1000).toNat = abt.prescaler.toNat * 1000 := by
    rw [BitVec.toNat_mul, thousand, Nat.mod_eq_of_lt (by omega)]
  have nonzero : clock / mhz ≠ 0 := by
    intro zero
    rw [zero] at isMega
    have none : (0 : U32).toNat = 0 := rfl
    omega
  obtain ⟨tSclNs, divided, isNs⟩ := @divRound_toNat (abt.prescaler * 1000) (clock / mhz) nonzero
    (by omega)
  rw [isDividend, isMega] at isNs
  replace isNs : tSclNs.toNat = ns := isNs
  have shorter : ns ≤ 65536000 := by
    have quotient := Nat.div_le_self (abt.prescaler.toNat * 1000 + mega / 2) mega
    have same : ns = (abt.prescaler.toNat * 1000 + mega / 2) / mega := rfl
    omega
  unfold pcanAbstractToBittiming at counted
  rw [divided] at counted
  simp only [Option.bind_eq_bind, Option.bind_some] at counted
  split at counted
  next =>
    have failed : (0 : Int) = 1 := congrArg Prod.fst (Option.some.inj counted)
    exact absurd failed (by decide)
  next positive =>
    have count {a : U32} (few : a.toNat < 2 ^ 31) : ∃ quotient, divRound a tSclNs = some quotient ∧
        quotient.toNat = nearest a.toNat ns := by
      obtain ⟨quotient, isQuotient, value⟩ := @divRound_toNat a tSclNs positive (by omega)
      rw [isNs] at value
      exact ⟨quotient, isQuotient, value⟩
    obtain ⟨sjw, isSjw, sjwCount⟩ := count short
    obtain ⟨tseg1, isTseg1, tseg1Count⟩ := count short1
    obtain ⟨tseg2, isTseg2, tseg2Count⟩ := count short2
    simp only [isSjw, isTseg1, isTseg2, Option.bind_some] at counted
    obtain ⟨point, -, same⟩ := Option.bind_eq_some_iff.mp counted
    obtain rfl := congrArg Prod.snd (Option.some.inj same)
    exact ⟨rfl, tseg1Count, tseg2Count, sjwCount⟩

theorem setWidth_inside {x : U16} {low high : U32} :
    ¬(x.setWidth 32 < low ∨ high < x.setWidth 32) ↔ low.toNat ≤ x.toNat ∧ x.toNat ≤ high.toNat := by
  have size := x.isLt
  have value : (x.setWidth 32 : U32).toNat = x.toNat := by
    rw [BitVec.toNat_setWidth, Nat.mod_eq_of_lt (by omega)]
  rw [BitVec.lt_def, BitVec.lt_def, value]
  omega

theorem jumpTrial_prescaler (abtResult abtOrg : PcanBittimingAbs) (cur : PcanTimingParameters)
    (sjw : U16) : ((jumpTrial abtOrg cur sjw).toAbstract abtResult abtOrg).prescaler.toNat =
      cur.prescaler.toNat := by
  have size := cur.prescaler.isLt
  have widened : ((jumpTrial abtOrg cur sjw).toAbstract abtResult abtOrg).prescaler =
      cur.prescaler.setWidth 32 := rfl
  rw [widened, BitVec.toNat_setWidth, Nat.mod_eq_of_lt (by omega)]

/-- What is met to the nanosecond, in bit and jump width, keeps its quanta when these are counted
    again, and the jump width is between the original one and the one tried. -/
structure Recounted (bt : PcanBittiming) (cur : PcanTimingParameters) (sjw : U16)
    (timing : PcanBittiming) : Prop where
  matched : Matched bt.brp.toNat bt.tseg1.toNat bt.tseg2.toNat cur.tSclPs.toNat cur.tseg1.toNat
    cur.tseg2.toNat
  brp : timing.brp.toNat = cur.prescaler.toNat
  tseg1 : timing.tseg1.toNat = cur.tseg1.toNat
  tseg2 : timing.tseg2.toNat = cur.tseg2.toNat
  least : bt.sjw.toNat ≤ timing.sjw.toNat
  most : timing.sjw.toNat ≤ sjw.toNat

theorem zero_penalty_recounted (clocked : Clocked clock mega) (searched : Searched bt abtOrg tBitNs)
    (passes : Passes abtOrg cap clock tBitNs tqNb cur) (four : 4 ≤ bitQuanta bt)
    (more : bitQuanta bt ≤ tqNb.toNat) {sjw : U16}
    (zero : (jumpTrial abtOrg cur sjw).penalty.toNat = 0)
    {abtResult : PcanBittimingAbs} {pbt timing : PcanBittiming}
    (counted : pcanAbstractToBittiming pbt ((jumpTrial abtOrg cur sjw).toAbstract abtResult abtOrg)
      clock = some (1, timing)) : Recounted bt cur sjw timing := by
  have few : 4 ≤ tqNb.toNat := Nat.le_trans four more
  rw [jumpTrial_penalty passes searched few] at zero
  obtain ⟨sameBit, sameJump⟩ := Nat.add_eq_zero_iff.mp zero
  have bit := Nat.eq_of_dist_eq_zero sameBit
  have matched := passes.matched searched four more bit
  obtain ⟨-, quantum⟩ := passes.quantum clocked searched.bit_short few
  obtain ⟨first, second, -, jumpShort⟩ := searched.segments
  obtain ⟨-, ns1, ns2⟩ := passes.lengths first second few
  have brp := searched.brp
  have width := searched.sjw
  have widths := Nat.mul_le_mul brp.2 width.2
  have jump : sjw.toNat * cur.tSclPs.toNat / 1000 % 2 ^ 32 =
      125 * (bt.brp.toNat * bt.sjw.toNat) := by
    unfold wordDistance at sameJump
    omega
  have jumpNs : ((jumpTrial abtOrg cur sjw).toAbstract abtResult abtOrg).sjwNs.toNat =
      125 * (bt.brp.toNat * bt.sjw.toNat) := by
    rw [← jump]
    exact BitVec.toNat_ofNat _ _
  have small := cur.prescaler.isLt
  have isPrescaler := jumpTrial_prescaler abtResult abtOrg cur sjw
  obtain ⟨isBrp, tseg1, tseg2, sjwCount⟩ := counted_fields clocked (by omega)
    (Nat.lt_of_le_of_lt ns1 (by decide)) (Nat.lt_of_le_of_lt ns2 (by decide)) (by omega) counted
  rw [isPrescaler] at tseg1 tseg2 sjwCount
  have near := ns_near clocked.ticks quantum rfl
  generalize nearest (cur.prescaler.toNat * 1000) mega = ns at near tseg1 tseg2 sjwCount
  obtain ⟨isNs1, isNs2⟩ := passes.ns first second few
  have few1 := matched.few1
  have few2 := matched.few2
  have range1 := matched.range1
  have range2 := matched.range2
  have low := matched.low
  obtain ⟨least, most⟩ := recount_jump near brp.1 low matched.high brp.2 width jump
  rw [← jumpNs, ← sjwCount] at least most
  refine ⟨matched, (congrArg BitVec.toNat isBrp).trans isPrescaler, ?_, ?_, least, most⟩
  · have isFirst : ((jumpTrial abtOrg cur sjw).toAbstract abtResult abtOrg).tseg1Ns.toNat =
        cur.tseg1.toNat * cur.tSclPs.toNat / 1000 := isNs1
    rw [tseg1, isFirst]
    exact recount near (by omega) (by omega)
  · have isSecond : ((jumpTrial abtOrg cur sjw).toAbstract abtResult abtOrg).tseg2Ns.toNat =
        cur.tseg2.toNat * cur.tSclPs.toNat / 1000 := isNs2
    rw [tseg2, isSecond]
    exact recount near (by omega) (by omega)

theorem Recounted.meets (clocked : Clocked clock mega) (short : tBitNs.toNat ≤ 200025)
    (passes : Passes abtOrg cap clock tBitNs tqNb cur) (four : 4 ≤ tqNb.toNat) {sjw : U16}
    (narrow : cap.sjwMin.toNat ≤ bt.sjw.toNat) (wide : sjw.toNat ≤ cap.sjwMax.toNat)
    {timing : PcanBittiming} (recounted : Recounted bt cur sjw timing) :
    ConvertedTiming cap clock bt timing := by
  obtain ⟨-, quantum⟩ := passes.quantum clocked short four
  have quanta : bitQuanta timing = 1 + cur.tseg1.toNat + cur.tseg2.toNat := by
    rw [bitQuanta, recounted.tseg1, recounted.tseg2]
  have clocks : bitClocks timing =
      cur.prescaler.toNat * (1 + cur.tseg1.toNat + cur.tseg2.toNat) := by
    rw [bitClocks, quanta, recounted.brp]
  have rate := recounted.matched.rate clocked.ticks quantum
  have brp := setWidth_inside.mp passes.brp
  have range1 := setWidth_inside.mp passes.range1
  have range2 := setWidth_inside.mp passes.range2
  have least := recounted.least
  have most := recounted.most
  refine ⟨?_, ?_, ?_, ?_⟩
  · unfold TimingInRange
    simp only [BitVec.le_def]
    rw [recounted.brp, recounted.tseg1, recounted.tseg2]
    exact ⟨brp, range1, range2, Nat.le_trans narrow least, Nat.le_trans most wide⟩
  · rw [clocks, clocked.hertz, Nat.mul_assoc 1000000]
    have scaled := Nat.mul_le_mul_left 1000000 rate.1
    rw [bitClocks, bitQuanta]
    omega
  · rw [clocks, clocked.hertz, Nat.mul_assoc 1000000]
    have scaled := Nat.mul_le_mul_left 1000000 rate.2
    rw [bitClocks, bitQuanta]
    omega
  · rw [recounted.tseg1, quanta]
    exact recounted.matched.sample

end Values

section Scaled
variable {bt : PcanBittiming} {abtOrg : PcanBittimingAbs} {cap : PcanfdBittimingRange}
  {clock tBitNs : U32} {mega ps prescaler quanta tseg1 tseg2 : Nat}

/-- A timing with bits as long as the original's: its quantum has a whole number of clocks and of
    picoseconds, `ps` for each clock of the original's, and its segments are the rounded ones. -/
structure Scaled (bt : PcanBittiming) (cap : PcanfdBittimingRange)
    (mega ps prescaler quanta tseg1 tseg2 : Nat) : Prop where
  clocks : prescaler * 1000000 = ps * bt.brp.toNat * mega
  bit : quanta * ps = 125000 * bitQuanta bt
  more : bitQuanta bt ≤ quanta
  four : 4 ≤ quanta
  brp : cap.brpMin.toNat ≤ prescaler ∧ prescaler ≤ cap.brpMax.toNat
  tried : quanta ≤ ((cap.tseg1Max + cap.tseg2Max + 1).setWidth 16 : U16).toNat
  sum : tseg1 + tseg2 + 1 = quanta
  range1 : cap.tseg1Min.toNat ≤ tseg1 ∧ tseg1 ≤ cap.tseg1Max.toNat
  range2 : cap.tseg2Min.toNat ≤ tseg2 ∧ tseg2 ≤ cap.tseg2Max.toNat
  count1 : nearest (125000 * bt.tseg1.toNat) ps = tseg1
  count2 : nearest (125000 * bt.tseg2.toNat) ps = tseg2

theorem Scaled.prescaler_near (scaled : Scaled bt cap mega ps prescaler quanta tseg1 tseg2)
    (clocked : Clocked clock mega) (searched : Searched bt abtOrg tBitNs) :
    nearest (tBitNs.toNat * mega) (quanta * 1000) = prescaler := by
  have whole : prescaler * (quanta * 1000) = 125 * bitClocks bt * mega := by
    apply Nat.eq_of_mul_eq_mul_right (by decide : 0 < 1000)
    calc prescaler * (quanta * 1000) * 1000 = quanta * (prescaler * 1000000) := by ring
      _ = quanta * ps * (bt.brp.toNat * mega) := by rw [scaled.clocks]; ring
      _ = 125 * bitClocks bt * mega * 1000 := by rw [scaled.bit, bitClocks]; ring
  have high := Nat.mul_le_mul_right mega searched.length.1
  have low := Nat.mul_le_mul_right mega searched.length.2
  have spread : bitQuanta bt * mega * 2 < quanta * 1000 := by
    have slow := Nat.mul_le_mul scaled.more (by have := clocked.slow; omega : mega ≤ 499)
    have four := scaled.four
    omega
  rw [Nat.add_mul] at high low
  apply nearest_eq
  · omega
  · omega

theorem tseg_scaled {tsegNs tSclPs : U32} {brp tseg : Nat} {count : U16}
    (ns : tsegNs.toNat = 125 * (brp * tseg)) (length : tSclPs.toNat = ps * brp) (least : 1 ≤ brp)
    (short : tsegNs.toNat ≤ 128000) (counted : tsegQuanta tsegNs tSclPs = some count)
    (few : nearest (125000 * tseg) ps < 2 ^ 16) : count.toNat = nearest (125000 * tseg) ps := by
  have cancelled : nearest (1000 * tsegNs.toNat) tSclPs.toNat = nearest (125000 * tseg) ps := by
    have dividend : 1000 * tsegNs.toNat = brp * (125000 * tseg) := by
      rw [ns]
      ring
    rw [dividend, length, Nat.mul_comm ps, nearest_mul_left least]
  have value := tsegQuanta_toNat short counted (by rw [cancelled]; exact few)
  rw [value, cancelled]

theorem Scaled.short (scaled : Scaled bt cap mega ps prescaler quanta tseg1 tseg2) :
    0 < ps ∧ ps ≤ 125000 := by
  have positive : 0 < quanta := Nat.lt_of_lt_of_le (by decide) scaled.four
  constructor
  · refine Nat.pos_of_ne_zero fun zero => ?_
    have bit := scaled.bit
    have quanta : 1 ≤ bitQuanta bt := by
      unfold bitQuanta
      omega
    rw [zero] at bit
    omega
  · apply Nat.le_of_mul_le_mul_left _ positive
    rw [scaled.bit, Nat.mul_comm quanta]
    exact Nat.mul_le_mul_left _ scaled.more

theorem Scaled.passes (scaled : Scaled bt cap mega ps prescaler quanta tseg1 tseg2)
    (clocked : Clocked clock mega) (searched : Searched bt abtOrg tBitNs) :
    ∃ tqNb ∈ tqChoices cap, ∃ cur, tqTrial abtOrg cap clock tBitNs tqNb = some (some cur) ∧
      tqNb.toNat = quanta ∧ cur.tSclPs.toNat = ps * bt.brp.toNat ∧ cur.tseg1.toNat = tseg1 ∧
      cur.tseg2.toNat = tseg2 := by
  have size : ((cap.tseg1Max + cap.tseg2Max + 1).setWidth 16 : U16).toNat < 2 ^ 16 :=
    BitVec.isLt _
  have tried := scaled.tried
  have sum := scaled.sum
  have four := scaled.four
  have isQuanta : (BitVec.ofNat 16 quanta).toNat = quanta := by
    rw [BitVec.toNat_ofNat, Nat.mod_eq_of_lt (by omega)]
  have nonzero : BitVec.ofNat 16 quanta ≠ 0 := by
    intro zero
    rw [zero] at isQuanta
    have none : (0 : U16).toNat = 0 := rfl
    omega
  obtain ⟨clocks, divided⟩ : ∃ clocks, tqPrescaler clock tBitNs (BitVec.ofNat 16 quanta) =
      some clocks := ⟨_, tqPrescaler_some nonzero⟩
  have isClocks := tqPrescaler_toNat clocked searched.bit_short (by omega) divided
  rw [isQuanta, scaled.prescaler_near clocked searched] at isClocks
  obtain ⟨tSclPs, length⟩ : ∃ tSclPs, prescalerPs clock clocks = some tSclPs :=
    ⟨_, prescalerPs_some clocked.nonzero clocks⟩
  obtain ⟨positive, short⟩ := scaled.short
  have product := Nat.mul_le_mul short searched.brp.2
  have rounded : nearest (clocks.toNat * 1000000) mega = ps * bt.brp.toNat := by
    rw [isClocks, scaled.clocks, nearest_mul clocked.ticks]
  have isPs := prescalerPs_toNat clocked length (by omega)
  rw [rounded] at isPs
  have nonempty : tSclPs ≠ 0 := by
    rintro rfl
    have least := Nat.mul_pos positive searched.brp.1
    have none : (0 : U32).toNat = 0 := rfl
    omega
  obtain ⟨first, isFirst⟩ := @tsegQuanta_some abtOrg.tseg1Ns _ nonempty
  obtain ⟨second, isSecond⟩ := @tsegQuanta_some abtOrg.tseg2Ns _ nonempty
  obtain ⟨short1, short2, -⟩ := searched.segments
  have value1 := tseg_scaled searched.abstractOf.tseg1Ns isPs searched.brp.1 short1 isFirst
    (by rw [scaled.count1]; omega)
  have value2 := tseg_scaled searched.abstractOf.tseg2Ns isPs searched.brp.1 (by omega) isSecond
    (by rw [scaled.count2]; omega)
  rw [scaled.count1] at value1
  rw [scaled.count2] at value2
  obtain ⟨cur, passed, rfl, rfl, rfl⟩ := @tqTrial_passes abtOrg cap clock tBitNs
    (BitVec.ofNat 16 quanta) clocks first second tSclPs divided
    (setWidth_inside.mpr (by rw [isClocks]; exact scaled.brp)) length nonempty isFirst isSecond
    (by rw [value1, value2, isQuanta]; exact sum)
    (setWidth_inside.mpr (by rw [value1]; exact scaled.range1))
    (setWidth_inside.mpr (by rw [value2]; exact scaled.range2))
  refine ⟨BitVec.ofNat 16 quanta, tqChoices_iff.mpr ⟨by omega, ?_⟩, cur, passed, isQuanta, isPs,
    value1, value2⟩
  rw [BitVec.le_def, isQuanta]
  exact tried

theorem trial_passes {tqNb : U16} {cur : PcanTimingParameters} (four : 4 ≤ tqNb.toNat)
    (passed : tqTrial abtOrg cap clock tBitNs tqNb = some (some cur)) :
    Passes abtOrg cap clock tBitNs tqNb cur := by
  have nonzero : tqNb ≠ 0 := by
    rintro rfl
    exact absurd four (by decide)
  rcases @tqTrial_cases abtOrg cap clock tBitNs tqNb nonzero with
    given | ⟨-, missing⟩ | ⟨cur', -, passed', passes⟩
  · cases given.symm.trans passed
  · cases missing.symm.trans passed
  · obtain rfl := Option.some.inj (Option.some.inj (passed'.symm.trans passed))
    exact passes

/-- Such a timing is compared with the others, for each jump width, unless its penalty marks it as
    invalid. -/
theorem Scaled.tried_jump (scaled : Scaled bt cap mega ps prescaler quanta tseg1 tseg2)
    (clocked : Clocked clock mega) (searched : Searched bt abtOrg tBitNs) {widths : List U16}
    (ends : sjwChoices cap = some widths) {jump : U16} (member : jump ∈ widths) {penalty : Nat}
    (isPenalty : Nat.dist (tseg1 * (ps * bt.brp.toNat) / 1000 + tseg2 * (ps * bt.brp.toNat) / 1000 +
        ps * bt.brp.toNat / 1000)
        (125 * (bt.brp.toNat + bt.brp.toNat * bt.tseg1.toNat + bt.brp.toNat * bt.tseg2.toNat)) +
      wordDistance (jump.toNat * (ps * bt.brp.toNat) / 1000 % 2 ^ 32)
        (125 * (bt.brp.toNat * bt.sjw.toNat)) = penalty) (valid : penalty < penaltyInvalid.toNat) :
    ∃ c, TriedValues abtOrg cap clock tBitNs c ∧ c.quanta = quanta ∧ c.penalty.toNat = penalty := by
  obtain ⟨tqNb, choice, cur, passed, isQuanta, isPs, first, second⟩ :=
    scaled.passes clocked searched
  obtain ⟨short1, short2, -⟩ := searched.segments
  have four := (tqChoices_iff.mp choice).1
  have passes := trial_passes four passed
  have weighed := jumpTrial_penalty passes searched four jump
  rw [isPs, first, second, isPenalty] at weighed
  refine ⟨jumpTrial abtOrg cur jump, ⟨tqNb, choice, _,
    tqTrials_eq passed (passes.divisor short1 short2 four) ends, List.mem_map_of_mem member, ?_⟩,
    passes.quanta.trans isQuanta, weighed⟩
  rw [BitVec.lt_def, weighed]
  exact valid

theorem tried_passes {c : PcanTimingParameters} (searched : Searched bt abtOrg tBitNs)
    (tried : TriedValues abtOrg cap clock tBitNs c) :
    ∃ tqNb cur widths sjw, 4 ≤ tqNb.toNat ∧ Passes abtOrg cap clock tBitNs tqNb cur ∧
      sjwChoices cap = some widths ∧ sjw ∈ widths ∧ c = jumpTrial abtOrg cur sjw := by
  obtain ⟨short1, short2, -⟩ := searched.segments
  obtain ⟨tqNb, choice, trials, returned, member, -⟩ := tried
  rcases @tqTrials_cases abtOrg cap clock tBitNs short1 short2 tqNb choice with
    empty | ⟨-, missing⟩ | ⟨cur, widths, -, ends, passes, all⟩
  · obtain rfl := Option.some.inj (empty.symm.trans returned)
    cases member
  · cases missing.symm.trans returned
  · obtain rfl := Option.some.inj (all.symm.trans returned)
    obtain ⟨sjw, width, same⟩ := List.mem_map.mp member
    exact ⟨tqNb, cur, widths, sjw, (tqChoices_iff.mp choice).1, passes, ends, width, same.symm⟩

theorem jump_offered {widths : List U16} (ends : sjwChoices cap = some widths) {jump : Nat}
    (low : cap.sjwMin.toNat ≤ jump) (high : jump ≤ cap.sjwMax.toNat) (small : jump < 2 ^ 16) :
    ∃ width ∈ widths, width.toNat = jump := by
  have isJump : (BitVec.ofNat 16 jump).toNat = jump := by
    rw [BitVec.toNat_ofNat, Nat.mod_eq_of_lt small]
  refine ⟨BitVec.ofNat 16 jump, mem_sjwChoices ends ?_ (by rw [isJump]; exact high), isJump⟩
  rw [BitVec.le_def, isJump, BitVec.toNat_setWidth, Nat.mod_eq_of_lt (by omega)]
  exact low

end Scaled

section Meets
variable {btr0btr1 : U16} {cap : PcanfdBittimingRange} {clock : U32}

theorem original_searched (btr0btr1 : U16) :
    ∃ abtOrg tBitNs, pcanBtr0btr1ToAbstract btr0btr1 = some abtOrg ∧
      divRound (BitVec.ofNat 32 ghz) abtOrg.bitrate = some tBitNs ∧
      Searched (sja1000Timing btr0btr1) abtOrg tBitNs := by
  obtain ⟨abtOrg, tBitNs, converted, abstractOf, rated, length⟩ := original_abstract btr0btr1
  obtain ⟨brp, tseg1, tseg2, sjw⟩ := sja1000Timing_bounds btr0btr1
  have quanta : 3 ≤ bitQuanta (sja1000Timing btr0btr1) ∧
      bitQuanta (sja1000Timing btr0btr1) < 26 := by
    unfold bitQuanta
    omega
  have bit : tBitNs.toNat = bitNs (bitClocks (sja1000Timing btr0btr1)) := by
    rw [length, abstractOf.bitrate]
    rfl
  refine ⟨abtOrg, tBitNs, converted, rated, abstractOf, brp, tseg1, tseg2, sjw, ?_⟩
  rw [bit]
  exact bitNs_near _ (by omega) brp.1 _ quanta.2 quanta.1

theorem conversion_of_leader {abtOrg : PcanBittimingAbs} {tBitNs : U32}
    (converted : pcanBtr0btr1ToAbstract btr0btr1 = some abtOrg)
    (rated : divRound (BitVec.ofNat 32 ghz) abtOrg.bitrate = some tBitNs)
    (searched : Searched (sja1000Timing btr0btr1) abtOrg tBitNs)
    (meets : ∀ best,
      Leads (fun c => c.penalty.toNat) TriedBefore (TriedValues abtOrg cap clock tBitNs) best →
      ∀ abtResult pbt timing,
        pcanAbstractToBittiming pbt (best.toAbstract abtResult abtOrg) clock = some (1, timing) →
        ConvertedTiming cap clock (sja1000Timing btr0btr1) timing) :
    ConversionMeets btr0btr1 cap clock := by
  obtain ⟨short1, short2, -⟩ := searched.segments
  intro abtOrg' abtResult abt pbt timing converted' found counted
  obtain rfl := Option.some.inj (converted.symm.trans converted')
  rcases @convert_cases abtOrg cap clock tBitNs short1 short2 rated with
    ⟨-, fails⟩ | ⟨best, leads, succeeds⟩
  · exact absurd found (fails abtResult abt)
  · have same : best.toAbstract abtResult abtOrg = abt :=
      congrArg Prod.snd (Option.some.inj ((succeeds abtResult).symm.trans found))
    rw [← same] at counted
    exact meets best leads abtResult pbt timing counted

theorem leader_bounds {abtOrg : PcanBittimingAbs} {tBitNs : U32} {best c : PcanTimingParameters}
    (leads : Leads (fun c => c.penalty.toNat) TriedBefore (TriedValues abtOrg cap clock tBitNs) best)
    (tried : TriedValues abtOrg cap clock tBitNs c) : best.penalty.toNat ≤ c.penalty.toNat ∧
      (best.penalty.toNat = c.penalty.toNat → c.quanta ≤ best.quanta) := by
  rcases leads.2 c tried with rfl | nearer | ⟨same, before⟩
  · exact ⟨Nat.le_refl _, fun _ => Nat.le_refl _⟩
  · exact ⟨Nat.le_of_lt nearer, fun same => absurd same (Nat.ne_of_lt nearer)⟩
  · refine ⟨Nat.le_of_eq same, fun _ => ?_⟩
    unfold TriedBefore at before
    omega

theorem OriginalOffered.clocked {original : PcanBittiming}
    (offered : OriginalOffered cap clock original) : Clocked clock (clock.toNat / 1000000) := by
  have megahertz := offered.megahertz
  have ticks := offered.ticks
  have slow := offered.slow
  exact ⟨by omega, by omega, by omega⟩

theorem OriginalOffered.scaled {original : PcanBittiming}
    (offered : OriginalOffered cap clock original) (short : original.brp.toNat ≤ 64) :
    Scaled original cap (clock.toNat / 1000000) 125000
      (original.brp.toNat * (clock.toNat / 1000000) / 8) (bitQuanta original)
      original.tseg1.toNat original.tseg2.toNat := by
  obtain ⟨brp, tseg1, tseg2, -⟩ := offered.inRange
  rw [BitVec.le_def, BitVec.le_def] at brp tseg1 tseg2
  have clocked := offered.clocked
  have most := Nat.mul_le_mul short (Nat.le_of_lt clocked.slow)
  have whole := offered.whole
  have isBrp : (sameQuantum original clock).brp.toNat =
      original.brp.toNat * (clock.toNat / 1000000) / 8 := by
    rw [sameQuantum, BitVec.toNat_ofNat, Nat.mod_eq_of_lt (by omega)]
  rw [isBrp] at brp
  have counted := offered.counted
  have last : ((cap.tseg1Max + cap.tseg2Max + 1).setWidth 16 : U16).toNat =
      cap.tseg1Max.toNat + cap.tseg2Max.toNat + 1 := by
    have one : (1 : U32).toNat = 1 := rfl
    rw [BitVec.toNat_setWidth, BitVec.toNat_add, BitVec.toNat_add, one]
    omega
  refine ⟨?_, Nat.mul_comm _ _, Nat.le_refl _, offered.four, brp, ?_, ?_, tseg1, tseg2, ?_, ?_⟩
  · rw [Nat.mul_assoc]
    omega
  · have high1 : original.tseg1.toNat ≤ cap.tseg1Max.toNat := tseg1.2
    have high2 : original.tseg2.toNat ≤ cap.tseg2Max.toNat := tseg2.2
    rw [last, bitQuanta]
    omega
  · unfold bitQuanta
    omega
  · rw [Nat.mul_comm]
    exact nearest_mul (by decide) _
  · rw [Nat.mul_comm]
    exact nearest_mul (by decide) _

theorem own_ns (brp quanta : Nat) : quanta * (125000 * brp) / 1000 = 125 * (brp * quanta) := by
  rw [Nat.mul_left_comm, Nat.mul_comm quanta]
  omega

theorem own_penalty {bt : PcanBittiming} (brp : bt.brp.toNat ≤ 64) (sjw : bt.sjw.toNat ≤ 4) :
    Nat.dist (bt.tseg1.toNat * (125000 * bt.brp.toNat) / 1000 +
        bt.tseg2.toNat * (125000 * bt.brp.toNat) / 1000 + 125000 * bt.brp.toNat / 1000)
        (125 * (bt.brp.toNat + bt.brp.toNat * bt.tseg1.toNat + bt.brp.toNat * bt.tseg2.toNat)) +
      wordDistance (bt.sjw.toNat * (125000 * bt.brp.toNat) / 1000 % 2 ^ 32)
        (125 * (bt.brp.toNat * bt.sjw.toNat)) = 0 := by
  have most := Nat.mul_le_mul brp sjw
  rw [own_ns, own_ns, own_ns, Nat.mod_eq_of_lt (by omega)]
  unfold Nat.dist wordDistance
  omega

theorem OriginalOffered.tried {bt : PcanBittiming} {abtOrg : PcanBittimingAbs} {tBitNs : U32}
    (offered : OriginalOffered cap clock bt) (searched : Searched bt abtOrg tBitNs)
    {widths : List U16} (ends : sjwChoices cap = some widths) :
    ∃ c, TriedValues abtOrg cap clock tBitNs c ∧ c.quanta = bitQuanta bt ∧ c.penalty.toNat = 0 := by
  obtain ⟨-, -, -, narrow, wide⟩ := offered.inRange
  rw [BitVec.le_def] at narrow wide
  obtain ⟨jump, member, isJump⟩ :=
    jump_offered ends narrow wide (Nat.lt_of_le_of_lt searched.sjw.2 (by decide))
  replace isJump : jump.toNat = bt.sjw.toNat := isJump
  exact (offered.scaled searched.brp.2).tried_jump offered.clocked searched ends member
    (by rw [isJump]; exact own_penalty searched.brp.2 searched.sjw.2) (by decide)

/-- Where the original is a timing of the new controller, a conversion that reports success gives
    one that is expected. -/
theorem offered_conversion (offered : OriginalOffered cap clock (sja1000Timing btr0btr1)) :
    ConversionMeets btr0btr1 cap clock := by
  obtain ⟨abtOrg, tBitNs, converted, rated, searched⟩ := original_searched btr0btr1
  have clocked := offered.clocked
  obtain ⟨-, -, -, narrow, -⟩ := offered.inRange
  replace narrow : cap.sjwMin.toNat ≤ (sja1000Timing btr0btr1).sjw.toNat := BitVec.le_def.mp narrow
  apply conversion_of_leader converted rated searched
  intro best leads abtResult pbt timing counted
  obtain ⟨tqNb, cur, widths, sjw, few, passes, ends, member, rfl⟩ := tried_passes searched leads.1
  obtain ⟨own, tried, quanta, free⟩ := offered.tried searched ends
  obtain ⟨nearer, more⟩ := leader_bounds leads tried
  have zero : (jumpTrial abtOrg cur sjw).penalty.toNat = 0 := by omega
  have enough := more (zero.trans free.symm)
  rw [quanta, jumpTrial_quanta] at enough
  have recounted := zero_penalty_recounted clocked searched passes offered.four
    (enough.trans (Nat.le_of_eq passes.quanta)) zero counted
  exact recounted.meets clocked searched.bit_short passes few narrow
    (sjwChoices_bounds ends member).2

end Meets

end PcanDriver

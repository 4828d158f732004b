import PcanDriver.ConvertedTimings

/-!
The conversion that `ucan_set_BTR0BTR1` makes, which is the one use that the driver has for it: for
the uCAN controllers and their clock of 80 MHz. The search does not try the three quanta of the
shortest originals, and finds five or seven for them.
-/
namespace PcanDriver
open RoundedDivision

section Statement

/-- A command that is sent has the timing of a conversion that succeeded. -/
def SendsConverted (btr0btr1 : U16) : Prop :=
  ∀ cmdSize sendCmd atConvert bitrate outcome command,
    ucanSetBtr0btr1 cmdSize sendCmd atConvert bitrate btr0btr1 = some outcome →
    outcome.sent = some command →
    ∃ abtOrg abt timing, pcanBtr0btr1ToAbstract btr0btr1 = some abtOrg ∧
      pcanConvertAbstract atConvert abtOrg ucanSlowCapabilities (80 * mhz) = some (1, abt) ∧
      pcanAbstractToBittiming bitrate abt (80 * mhz) = some (1, timing) ∧
      command = ucanAddCmdTimingSlow timing

/-- Three quanta of one clock, with a jump width that seven quanta of another length meet. -/
def ThreeShortQuanta (original : PcanBittiming) : Prop :=
  original.brp = 1 ∧ original.tseg1 = 1 ∧ original.tseg2 = 1 ∧
    (original.sjw = 2 ∨ original.sjw = 4)

end Statement

section Ucan
variable {abtOrg : PcanBittimingAbs} {cap : PcanfdBittimingRange} {tBitNs : U32}
  {c : PcanTimingParameters}

theorem Passes.prescaler {tqNb : U16} (passes : Passes abtOrg cap (80 * mhz) tBitNs tqNb c) :
    1 ≤ c.prescaler.toNat := by
  refine Nat.pos_of_ne_zero fun zero => passes.positive ?_
  have length := passes.length
  have stopped : c.prescaler = 0 := BitVec.eq_of_toNat_eq zero
  rw [stopped] at length
  exact (Option.some.inj length).symm

theorem counted_at_80 {tqNb : U16} (passes : Passes abtOrg cap (80 * mhz) tBitNs tqNb c)
    (first : abtOrg.tseg1Ns.toNat ≤ 128000) (second : abtOrg.tseg2Ns.toNat ≤ 64000)
    (four : 4 ≤ tqNb.toNat) (abt : PcanBittimingAbs)
    (prescaler : abt.prescaler = c.prescaler.setWidth 32)
    (tseg1Ns : abt.tseg1Ns = c.tseg1Ns) (tseg2Ns : abt.tseg2Ns = c.tseg2Ns) (pbt : PcanBittiming) :
    ∃ timing, pcanAbstractToBittiming pbt abt (80 * mhz) = some (1, timing) := by
  have low := passes.prescaler
  have size := c.prescaler.isLt
  obtain ⟨-, ns1, ns2⟩ := passes.lengths first second four
  have eighty : (80 * mhz / mhz : U32).toNat = 80 := by decide
  have thousand : (1000 : U32).toNat = 1000 := rfl
  have one : (1 : U32).toNat = 1 := rfl
  have wide : (c.prescaler.setWidth 32).toNat = c.prescaler.toNat := by
    rw [BitVec.toNat_setWidth, Nat.mod_eq_of_lt (by omega)]
  have dividend : (abt.prescaler * 1000).toNat = c.prescaler.toNat * 1000 := by
    rw [prescaler, BitVec.toNat_mul, wide, thousand, Nat.mod_eq_of_lt (by omega)]
  obtain ⟨tSclNs, divided, value⟩ := @divRound_toNat (abt.prescaler * 1000) (80 * mhz / mhz)
    (by decide) (by omega)
  rw [dividend, eighty] at value
  have nonzero : tSclNs ≠ 0 := by
    rintro rfl
    have zero : (0 : U32).toNat = 0 := rfl
    omega
  have segment {ns : U32} (short : ns.toNat ≤ 176000) :
      ∃ tseg, divRound ns tSclNs = some tseg ∧ tseg.toNat ≤ 2000000 := by
    obtain ⟨tseg, counted, count⟩ := @divRound_toNat ns tSclNs nonzero (by omega)
    refine ⟨tseg, counted, ?_⟩
    rw [count]
    exact Nat.le_trans (Nat.div_le_self _ _) (by omega)
  obtain ⟨tseg1, isFirst, few1⟩ := @segment abt.tseg1Ns (by rw [tseg1Ns]; exact ns1)
  obtain ⟨tseg2, isSecond, few2⟩ := @segment abt.tseg2Ns (by rw [tseg2Ns]; omega)
  have bit : 1 + tseg1 + tseg2 ≠ 0 := by
    intro zero
    have value := congrArg BitVec.toNat zero
    have none : (0 : U32).toNat = 0 := rfl
    rw [BitVec.toNat_add, BitVec.toNat_add, one, none] at value
    omega
  have jump : divRound abt.sjwNs tSclNs = some ((abt.sjwNs + tSclNs / 2) / tSclNs) := if_neg nonzero
  have point : divU32 (pcanSamptScale * (1 + tseg1)) (1 + tseg1 + tseg2) =
      some (pcanSamptScale * (1 + tseg1) / (1 + tseg1 + tseg2)) := if_neg bit
  unfold pcanAbstractToBittiming
  simp only [divided, Option.bind_eq_bind, Option.bind_some, if_neg nonzero, jump, isFirst, isSecond,
    point]
  exact ⟨_, rfl⟩

theorem ucan_clocked : Clocked (80 * mhz) 80 := ⟨by decide, by decide, by decide⟩

theorem ucan_limits :
    (ucanSlowCapabilities.brpMin.toNat = 1 ∧ ucanSlowCapabilities.brpMax.toNat = 1024) ∧
    (ucanSlowCapabilities.tseg1Min.toNat = 1 ∧ ucanSlowCapabilities.tseg1Max.toNat = 256) ∧
    (ucanSlowCapabilities.tseg2Min.toNat = 1 ∧ ucanSlowCapabilities.tseg2Max.toNat = 128) ∧
    ucanSlowCapabilities.sjwMin.toNat = 1 ∧ ucanSlowCapabilities.sjwMax.toNat = 128 := by
  decide

theorem ucan_widths : ∃ widths, sjwChoices ucanSlowCapabilities = some widths := by
  have bounded : ¬(0xffff : U32) ≤ ucanSlowCapabilities.sjwMax := by decide
  unfold sjwChoices
  exact ⟨_, if_neg bounded⟩

theorem ucan_offered {bt : PcanBittiming} (searched : Searched bt abtOrg tBitNs)
    (four : 4 ≤ bitQuanta bt) : OriginalOffered ucanSlowCapabilities (80 * mhz) bt := by
  obtain ⟨brp, tseg1, tseg2, sjw⟩ := ucan_limits
  have mega : (80 * mhz : U32).toNat / 1000000 = 80 := by decide
  have isBrp : (sameQuantum bt (80 * mhz)).brp.toNat = 10 * bt.brp.toNat := by
    have range := searched.brp
    rw [sameQuantum, mega, BitVec.toNat_ofNat, Nat.mod_eq_of_lt (by omega)]
    omega
  refine ⟨by decide, by decide, by decide, ?_, ?_, by decide, four⟩
  · rw [mega]
    omega
  · have range := searched.brp
    have range1 := searched.tseg1
    have range2 := searched.tseg2
    have range3 := searched.sjw
    unfold TimingInRange
    simp only [BitVec.le_def, isBrp, brp, tseg1, tseg2, sjw]
    have same1 : (sameQuantum bt (80 * mhz)).tseg1 = bt.tseg1 := rfl
    have same2 : (sameQuantum bt (80 * mhz)).tseg2 = bt.tseg2 := rfl
    have same3 : (sameQuantum bt (80 * mhz)).sjw = bt.sjw := rfl
    rw [same1, same2, same3]
    omega

theorem Searched.three {bt : PcanBittiming} (searched : Searched bt abtOrg tBitNs)
    (three : bitQuanta bt = 3) : bt.tseg1.toNat = 1 ∧ bt.tseg2.toNat = 1 := by
  have range1 := searched.tseg1
  have range2 := searched.tseg2
  unfold bitQuanta at three
  omega

theorem Searched.three_of_few {bt : PcanBittiming} (searched : Searched bt abtOrg tBitNs)
    (few : ¬4 ≤ bitQuanta bt) : bitQuanta bt = 3 := by
  have tseg1 := searched.tseg1
  have tseg2 := searched.tseg2
  unfold bitQuanta at few ⊢
  omega

/-- Five quanta of 6 clocks are as long as three of 10, and the segments are rounded to two each. -/
theorem three_scaled {bt : PcanBittiming} (searched : Searched bt abtOrg tBitNs)
    (three : bitQuanta bt = 3) :
    Scaled bt ucanSlowCapabilities 80 75000 (6 * bt.brp.toNat) 5 2 2 := by
  obtain ⟨brp, tseg1, tseg2, -⟩ := ucan_limits
  obtain ⟨one1, one2⟩ := searched.three three
  have range := searched.brp
  refine ⟨by omega, by rw [three], by omega, by decide, by omega, by decide, rfl, by omega,
    by omega, ?_, ?_⟩
  · rw [one1]
    decide
  · rw [one2]
    decide

theorem three_jump {bt : PcanBittiming} (searched : Searched bt abtOrg tBitNs) {widths : List U16}
    (ends : sjwChoices ucanSlowCapabilities = some widths) :
    ∃ jump ∈ widths, wordDistance (jump.toNat * (75000 * bt.brp.toNat) / 1000 % 2 ^ 32)
      (125 * (bt.brp.toNat * bt.sjw.toNat)) ≤ 25 * bt.brp.toNat := by
  obtain ⟨-, -, -, sjwMin, sjwMax⟩ := ucan_limits
  have brp := searched.brp
  have near (jump : Nat) (few : 1 ≤ jump ∧ jump ≤ 7) (low : 75 * jump ≤ 125 * bt.sjw.toNat + 25)
      (high : 125 * bt.sjw.toNat ≤ 75 * jump + 25) : ∃ jump ∈ widths,
        wordDistance (jump.toNat * (75000 * bt.brp.toNat) / 1000 % 2 ^ 32)
          (125 * (bt.brp.toNat * bt.sjw.toNat)) ≤ 25 * bt.brp.toNat := by
    obtain ⟨width, member, isJump⟩ := @jump_offered _ _ ends jump (by omega) (by omega) (by omega)
    refine ⟨width, member, ?_⟩
    have ns : jump * (75000 * bt.brp.toNat) / 1000 = 75 * (bt.brp.toNat * jump) := by
      rw [Nat.mul_left_comm, Nat.mul_comm jump]
      omega
    have most := Nat.mul_le_mul brp.2 few.2
    have scaledLow := Nat.mul_le_mul_left bt.brp.toNat low
    have scaledHigh := Nat.mul_le_mul_left bt.brp.toNat high
    rw [Nat.mul_add, Nat.mul_left_comm, Nat.mul_left_comm bt.brp.toNat 125] at scaledLow
    rw [Nat.mul_add, Nat.mul_left_comm, Nat.mul_left_comm bt.brp.toNat 75] at scaledHigh
    rw [isJump, ns, Nat.mod_eq_of_lt (by omega)]
    unfold wordDistance
    omega
  obtain same | same | same | same : bt.sjw.toNat = 1 ∨ bt.sjw.toNat = 2 ∨ bt.sjw.toNat = 3 ∨
      bt.sjw.toNat = 4 := by
    have width := searched.sjw
    omega
  · exact near 2 (by decide) (by omega) (by omega)
  · exact near 3 (by decide) (by omega) (by omega)
  · exact near 5 (by decide) (by omega) (by omega)
  · exact near 7 (by decide) (by omega) (by omega)

theorem three_penalty (bt : PcanBittiming)
    (segments : bt.tseg1.toNat = 1 ∧ bt.tseg2.toNat = 1) :
    Nat.dist (2 * (75000 * bt.brp.toNat) / 1000 + 2 * (75000 * bt.brp.toNat) / 1000 +
        75000 * bt.brp.toNat / 1000)
      (125 * (bt.brp.toNat + bt.brp.toNat * bt.tseg1.toNat + bt.brp.toNat * bt.tseg2.toNat)) = 0 := by
  rw [segments.1, segments.2]
  apply Nat.dist_eq_zero
  omega

theorem three_tried {bt : PcanBittiming} (searched : Searched bt abtOrg tBitNs)
    (three : bitQuanta bt = 3) {widths : List U16}
    (ends : sjwChoices ucanSlowCapabilities = some widths) :
    ∃ c, TriedValues abtOrg ucanSlowCapabilities (80 * mhz) tBitNs c ∧
      c.penalty.toNat ≤ 25 * bt.brp.toNat := by
  obtain ⟨jump, member, near⟩ := three_jump searched ends
  have brp := searched.brp
  have invalid : penaltyInvalid.toNat = 2147483647 := by decide
  obtain ⟨five, tried, -, isPenalty⟩ := (three_scaled searched three).tried_jump ucan_clocked searched
    ends member (by rw [three_penalty _ (searched.three three), Nat.zero_add]) (by omega)
  exact ⟨five, tried, by rw [isPenalty]; exact near⟩

/-- What leads of the timings for three quanta is five quanta of 6 clocks, with the exception of
    two jump widths. -/
theorem three_leader {bt : PcanBittiming} (searched : Searched bt abtOrg tBitNs)
    (three : bitQuanta bt = 3) (other : ¬ThreeShortQuanta bt) {tqNb : U16}
    {cur : PcanTimingParameters} {widths : List U16} {sjw : U16} (four : 4 ≤ tqNb.toNat)
    (passes : Passes abtOrg ucanSlowCapabilities (80 * mhz) tBitNs tqNb cur)
    (ends : sjwChoices ucanSlowCapabilities = some widths) (member : sjw ∈ widths)
    (light : (jumpTrial abtOrg cur sjw).penalty.toNat ≤ 25 * bt.brp.toNat) :
    (cur.tseg1.toNat = 2 ∧ cur.tseg2.toNat = 2) ∧ cur.prescaler.toNat = 6 * bt.brp.toNat ∧
      cur.tSclPs.toNat = 75000 * bt.brp.toNat := by
  obtain ⟨one1, one2⟩ := searched.three three
  obtain ⟨short1, short2, -⟩ := searched.segments
  obtain ⟨short, -⟩ := passes.lengths short1 short2 four
  obtain ⟨divided, quantum⟩ := passes.quantum ucan_clocked searched.bit_short four
  have ps : cur.tSclPs.toNat = 12500 * cur.prescaler.toNat := by
    rw [quantum, nearest]
    omega
  have positive := passes.prescaler
  have first := searched.abstractOf.tseg1Ns
  have second := searched.abstractOf.tseg2Ns
  rw [one1] at first
  rw [one2] at second
  have same : cur.tseg2 = cur.tseg1 := by
    have segments : abtOrg.tseg2Ns = abtOrg.tseg1Ns :=
      BitVec.eq_of_toNat_eq (second.trans first.symm)
    have counted := passes.tseg2
    rw [segments] at counted
    exact Option.some.inj (counted.symm.trans passes.tseg1)
  have scaled : 1000 * abtOrg.tseg1Ns.toNat = 125000 * bt.brp.toNat := by omega
  have few : nearest (125000 * bt.brp.toNat) (12500 * cur.prescaler.toNat) < 2 ^ 16 := by
    by_contra many
    have brp := searched.brp
    have below := nearest_le (125000 * bt.brp.toNat) (b := 12500 * cur.prescaler.toNat)
    have product := Nat.mul_le_mul_right (12500 * cur.prescaler.toNat) (Nat.not_lt.mp many)
    omega
  have counted := tsegQuanta_toNat short1 passes.tseg1 (by rw [scaled, ps]; exact few)
  rw [scaled, ps] at counted
  have quanta := passes.quanta
  rw [same] at quanta
  have clocks : bitClocks bt = 3 * bt.brp.toNat := by
    rw [bitClocks, three, Nat.mul_comm]
  have rounded := searched.length
  rw [clocks, three] at rounded
  have penalty : Nat.dist (cur.tseg1.toNat * (12500 * cur.prescaler.toNat) / 1000 +
        cur.tseg1.toNat * (12500 * cur.prescaler.toNat) / 1000 + 12500 * cur.prescaler.toNat / 1000)
        (375 * bt.brp.toNat) +
      Nat.dist (sjw.toNat * (12500 * cur.prescaler.toNat) / 1000)
        (125 * (bt.brp.toNat * bt.sjw.toNat)) ≤ 25 * bt.brp.toNat := by
    have narrow := (sjwChoices_bounds ends member).2
    rw [ucan_limits.2.2.2.2] at narrow
    have jump := Nat.mul_le_mul narrow short
    have most := Nat.mul_le_mul searched.brp.2 searched.sjw.2
    rw [jumpTrial_penalty passes searched four, same, Nat.mod_eq_of_lt (by omega),
      wordDistance_small (by omega) (by omega), ps, one1, one2] at light
    have bit : 125 * (bt.brp.toNat + bt.brp.toNat * 1 + bt.brp.toNat * 1) = 375 * bt.brp.toNat := by
      omega
    rw [bit] at light
    exact light
  have other' : 2 ≤ bt.brp.toNat ∨ bt.sjw.toNat % 2 = 1 := by
    by_contra short
    have brp := searched.brp
    have width := searched.sjw
    refine other ⟨BitVec.eq_of_toNat_eq ?_, BitVec.eq_of_toNat_eq one1,
      BitVec.eq_of_toNat_eq one2, ?_⟩
    · have one : (1 : U32).toNat = 1 := rfl
      omega
    · obtain two | four : bt.sjw.toNat = 2 ∨ bt.sjw.toNat = 4 := by omega
      · exact .inl (BitVec.eq_of_toNat_eq two)
      · exact .inr (BitVec.eq_of_toNat_eq four)
  obtain ⟨segment, prescaler⟩ := three_quanta (by omega) (by omega) quanta divided counted positive
    penalty other'
  refine ⟨⟨segment, by rw [same]; exact segment⟩, prescaler, ?_⟩
  rw [ps, prescaler]
  omega

theorem three_counted {bt : PcanBittiming} (searched : Searched bt abtOrg tBitNs) {tqNb : U16}
    {cur : PcanTimingParameters} {sjw : U16}
    (passes : Passes abtOrg ucanSlowCapabilities (80 * mhz) tBitNs tqNb cur)
    (first : cur.tseg1.toNat = 2) (second : cur.tseg2.toNat = 2)
    (clocks : cur.prescaler.toNat = 6 * bt.brp.toNat) (ps : cur.tSclPs.toNat = 75000 * bt.brp.toNat)
    (narrow : sjw.toNat ≤ 128) {abtResult : PcanBittimingAbs} {pbt timing : PcanBittiming}
    (counted : pcanAbstractToBittiming pbt ((jumpTrial abtOrg cur sjw).toAbstract abtResult abtOrg)
      (80 * mhz) = some (1, timing)) :
    timing.brp.toNat = 6 * bt.brp.toNat ∧ timing.tseg1.toNat = 2 ∧ timing.tseg2.toNat = 2 ∧
      timing.sjw.toNat = sjw.toNat := by
  have brp := searched.brp
  have few := Nat.mul_le_mul narrow brp.2
  have length (quanta : U16) (short : quanta.toNat ≤ 128) :
      (quantaNs quanta cur.tSclPs).toNat = quanta.toNat * (75 * bt.brp.toNat) := by
    have most := Nat.mul_le_mul short brp.2
    rw [quantaNs_toNat (by rw [ps, Nat.mul_left_comm]; omega), ps, Nat.mul_left_comm,
      Nat.mul_left_comm _ 75]
    omega
  have ns1 := length cur.tseg1 (by omega)
  have ns2 := length cur.tseg2 (by omega)
  rw [← passes.tseg1Ns, first] at ns1
  rw [← passes.tseg2Ns, second] at ns2
  have isPrescaler := (jumpTrial_prescaler abtResult abtOrg cur sjw).trans clocks
  have isFirst : ((jumpTrial abtOrg cur sjw).toAbstract abtResult abtOrg).tseg1Ns.toNat =
      2 * (75 * bt.brp.toNat) := ns1
  have isSecond : ((jumpTrial abtOrg cur sjw).toAbstract abtResult abtOrg).tseg2Ns.toNat =
      2 * (75 * bt.brp.toNat) := ns2
  have isJump : ((jumpTrial abtOrg cur sjw).toAbstract abtResult abtOrg).sjwNs.toNat =
      sjw.toNat * (75 * bt.brp.toNat) := length sjw narrow
  have short : sjw.toNat * (75 * bt.brp.toNat) < 2 ^ 31 := by
    rw [Nat.mul_left_comm]
    omega
  obtain ⟨isBrp, tseg1, tseg2, jump⟩ := counted_fields ucan_clocked (by omega) (by omega) (by omega)
    (by rw [isJump]; exact short) counted
  have quantum : nearest (6 * bt.brp.toNat * 1000) 80 = 75 * bt.brp.toNat := by
    apply nearest_eq
    · omega
    · omega
  have positive : 0 < 75 * bt.brp.toNat := by omega
  rw [isPrescaler, quantum] at tseg1 tseg2 jump
  rw [isFirst, nearest_mul positive] at tseg1
  rw [isSecond, nearest_mul positive] at tseg2
  rw [isJump, nearest_mul positive] at jump
  exact ⟨(congrArg BitVec.toNat isBrp).trans isPrescaler, tseg1, tseg2, jump⟩

theorem three_conversion {btr0btr1 : U16} (three : bitQuanta (sja1000Timing btr0btr1) = 3)
    (other : ¬ThreeShortQuanta (sja1000Timing btr0btr1)) :
    ConversionMeets btr0btr1 ucanSlowCapabilities (80 * mhz) := by
  obtain ⟨abtOrg, tBitNs, converted, rated, searched⟩ := original_searched btr0btr1
  apply conversion_of_leader converted rated searched
  intro best leads abtResult pbt timing counted
  obtain ⟨tqNb, cur, widths, sjw, four, passes, ends, member, rfl⟩ := tried_passes searched leads.1
  have segments := searched.three three
  have brp := searched.brp
  obtain ⟨five, tried, near⟩ := three_tried searched three ends
  obtain ⟨⟨first, second⟩, prescaler, ps⟩ := three_leader searched three other four passes ends
    member (Nat.le_trans (leader_bounds leads tried).1 near)
  obtain ⟨rangeBrp, range1, range2, sjwMin, sjwMax⟩ := ucan_limits
  obtain ⟨wide, narrow⟩ := sjwChoices_bounds ends member
  have least : (ucanSlowCapabilities.sjwMin.setWidth 16 : U16).toNat = 1 := by decide
  rw [least] at wide
  rw [sjwMax] at narrow
  obtain ⟨isBrp, tseg1, tseg2, isSjw⟩ :=
    three_counted searched passes first second prescaler ps narrow counted
  have quanta : bitQuanta timing = 5 := by
    rw [bitQuanta, tseg1, tseg2]
  have clock : (80 * mhz : U32).toNat = 80000000 := by decide
  refine ⟨?_, ?_, ?_, ?_⟩
  · unfold TimingInRange
    simp only [BitVec.le_def, isBrp, tseg1, tseg2, isSjw, rangeBrp, range1, range2, sjwMin, sjwMax]
    omega
  · rw [bitClocks, bitClocks, quanta, three, isBrp, clock]
    omega
  · rw [bitClocks, bitClocks, quanta, three, isBrp, clock]
    omega
  · rw [tseg1, quanta, three, segments.1]
    decide

theorem ucan_tried {bt : PcanBittiming} (searched : Searched bt abtOrg tBitNs) :
    ∃ c, TriedValues abtOrg ucanSlowCapabilities (80 * mhz) tBitNs c := by
  obtain ⟨widths, ends⟩ := ucan_widths
  by_cases four : 4 ≤ bitQuanta bt
  · obtain ⟨own, tried, -⟩ := (ucan_offered searched four).tried searched ends
    exact ⟨own, tried⟩
  · -- The search does not try 3 quanta: 5 quanta of 6 clocks are as long as 3 of 10.
    obtain ⟨five, tried, -⟩ := three_tried searched (searched.three_of_few four) ends
    exact ⟨five, tried⟩

theorem ucan_converts (btr0btr1 : U16) (atConvert : PcanBittimingAbs) (bitrate : PcanBittiming) :
    ∃ abtOrg abt timing, pcanBtr0btr1ToAbstract btr0btr1 = some abtOrg ∧
      pcanConvertAbstract atConvert abtOrg ucanSlowCapabilities (80 * mhz) = some (1, abt) ∧
      pcanAbstractToBittiming bitrate abt (80 * mhz) = some (1, timing) := by
  obtain ⟨abtOrg, tBitNs, converted, rated, searched⟩ := original_searched btr0btr1
  obtain ⟨first, second, -⟩ := searched.segments
  obtain ⟨c, tried⟩ := ucan_tried searched
  rcases @convert_cases abtOrg ucanSlowCapabilities (80 * mhz) tBitNs first second rated with
    ⟨nothing, -⟩ | ⟨best, leads, succeeds⟩
  · exact absurd tried (nothing c)
  · obtain ⟨tqNb, cur, widths, sjw, four, passes, -, -, rfl⟩ := tried_passes searched leads.1
    obtain ⟨timing, counted⟩ := counted_at_80 passes first second four
      ((jumpTrial abtOrg cur sjw).toAbstract atConvert abtOrg) rfl rfl rfl bitrate
    exact ⟨abtOrg, _, timing, converted, succeeds atConvert, counted⟩

theorem sends_converted (btr0btr1 : U16) : SendsConverted btr0btr1 := by
  intro cmdSize sendCmd atConvert bitrate outcome command set sent
  obtain ⟨abtOrg, abt, timing, converted, found, counted⟩ :=
    ucan_converts btr0btr1 atConvert bitrate
  refine ⟨abtOrg, abt, timing, converted, found, counted, ?_⟩
  have result : ucanConvertBtr0btr1 atConvert bitrate btr0btr1 ucanSlowCapabilities =
      some (1, timing) := by
    unfold ucanConvertBtr0btr1
    simp only [converted, found, Option.bind_eq_bind, Option.bind_some]
    exact counted
  unfold ucanSetBtr0btr1 at set
  simp only [result, Option.bind_eq_bind, Option.bind_some] at set
  obtain rfl := Option.some.inj set
  unfold ucanSetTimingSlow at sent
  split at sent
  next => cases sent
  next => exact (Option.some.inj sent).symm

end Ucan

section Misfits

theorem too_fast (btr0btr1 : U16) (clock : U32) (brp tseg1 tseg2 : U32)
    (result : ((pcanBtr0btr1ToAbstract btr0btr1).bind fun abtOrg =>
      (pcanConvertAbstract default abtOrg ucanSlowCapabilities clock).bind fun convert =>
      (pcanAbstractToBittiming default convert.2 clock).map fun counted =>
        (convert.1, counted.1, counted.2.brp, counted.2.tseg1, counted.2.tseg2)) =
      some (1, 1, brp, tseg1, tseg2))
    (fast : 201 * (8000000 * (brp.toNat * (1 + tseg1.toNat + tseg2.toNat))) <
      200 * (clock.toNat * bitClocks (sja1000Timing btr0btr1))) :
    ¬ConversionMeets btr0btr1 ucanSlowCapabilities clock := by
  intro meets
  obtain ⟨abtOrg, converted, result⟩ := Option.bind_eq_some_iff.mp result
  obtain ⟨⟨found, abt⟩, search, result⟩ := Option.bind_eq_some_iff.mp result
  obtain ⟨⟨err, timing⟩, counted, result⟩ := Option.map_eq_some_iff.mp result
  obtain ⟨rfl, rfl, rfl, rfl, rfl⟩ : found = 1 ∧ err = 1 ∧ timing.brp = brp ∧
      timing.tseg1 = tseg1 ∧ timing.tseg2 = tseg2 := by
    simpa only [Prod.mk.injEq] using result
  exact absurd (meets _ _ _ _ _ converted search counted).notFaster (Nat.not_le.mpr fast)

theorem three_short_words {btr0btr1 : U16} (short : ThreeShortQuanta (sja1000Timing btr0btr1)) :
    btr0btr1 = 0x4000 ∨ btr0btr1 = 0x4080 ∨ btr0btr1 = 0xc000 ∨ btr0btr1 = 0xc080 := by
  obtain ⟨isBrp, isSjw, isFirst, isSecond⟩ := sja1000Timing_toNat btr0btr1
  obtain ⟨brp, first, second, sjw⟩ := short
  rw [brp] at isBrp
  rw [first] at isFirst
  rw [second] at isSecond
  have one : (1 : U32).toNat = 1 := rfl
  have width : btr0btr1.toNat / 16384 = 1 ∨ btr0btr1.toNat / 16384 = 3 := by
    rcases sjw with two | four
    · rw [two] at isSjw
      exact .inl (Nat.succ.inj isSjw).symm
    · rw [four] at isSjw
      exact .inr (Nat.succ.inj isSjw).symm
  obtain same | same | same | same : btr0btr1.toNat = 0x4000 ∨ btr0btr1.toNat = 0x4080 ∨
      btr0btr1.toNat = 0xc000 ∨ btr0btr1.toNat = 0xc080 := by
    omega
  · exact .inl (BitVec.eq_of_toNat_eq same)
  · exact .inr (.inl (BitVec.eq_of_toNat_eq same))
  · exact .inr (.inr (.inl (BitVec.eq_of_toNat_eq same)))
  · exact .inr (.inr (.inr (BitVec.eq_of_toNat_eq same)))

/-- The four words have seven quanta of 4 clocks, for 3 of 10. -/
theorem three_short_fails {btr0btr1 : U16} (short : ThreeShortQuanta (sja1000Timing btr0btr1)) :
    ¬ConversionMeets btr0btr1 ucanSlowCapabilities (80 * mhz) := by
  rcases three_short_words short with rfl | rfl | rfl | rfl
  · exact too_fast 0x4000 (80 * mhz) 4 3 3 (by decide +kernel) (by decide)
  · exact too_fast 0x4080 (80 * mhz) 4 3 3 (by decide +kernel) (by decide)
  · exact too_fast 0xc000 (80 * mhz) 4 3 3 (by decide +kernel) (by decide)
  · exact too_fast 0xc080 (80 * mhz) 4 3 3 (by decide +kernel) (by decide)

end Misfits

end PcanDriver

import Mathlib.Data.BitVec
import PcanDriver.OpenInit

/-!
The two splits of a bit that `pcan_update_sample_point` tries, in numbers. With `n`
quanta in the bit, of which the second segment can have `tseg2Max`, the sample point
can come after any number of quanta from `n - tseg2Max` on; it is placed exactly if
the earliest of these is not after the sample point asked for.
-/
namespace PcanDriver

/-- What all capability records of the drivers have in common. -/
structure PcanfdBittimingRange.Regular (btc : PcanfdBittimingRange) : Prop where
  brpMin : btc.brpMin = 1
  brpInc : btc.brpInc = 1
  tseg1Min : btc.tseg1Min = 1
  tseg2Min : btc.tseg2Min = 1
  sjwMin : btc.sjwMin = 1
  brpMax : 1 ≤ btc.brpMax.toNat ∧ btc.brpMax.toNat ≤ 1024
  sjwMax : 1 ≤ btc.sjwMax.toNat ∧ btc.sjwMax.toNat ≤ btc.tseg2Max.toNat
  segments : btc.tseg2Max.toNat < btc.tseg1Max.toNat ∧ btc.tseg1Max.toNat ≤ 256

theorem sja1000Capabilities_regular : sja1000Capabilities.Regular := by
  constructor <;> decide

theorem sja2010Caps_regular : sja2010Caps.Regular := by
  constructor <;> decide

theorem ucanSlowCapabilities_regular : ucanSlowCapabilities.Regular := by
  constructor <;> decide

theorem ucanFastCapabilities_regular : ucanFastCapabilities.Regular := by
  constructor <;> decide

theorem divU32_of_ne {a b : U32} (nonzero : b ≠ 0) : divU32 a b = some (a / b) := if_neg nonzero

theorem clampU32_toNat (x low high : U32) (order : low ≤ high) :
    (clampU32 x low high).toNat = max low.toNat (min x.toNat high.toNat) := by
  have order := BitVec.le_def.mp order
  unfold clampU32
  simp only [BitVec.lt_def]
  split
  · omega
  · split <;> omega

theorem absU32_sub_of_le {a b : U32} (order : b ≤ a) (small : a.toNat < 2 ^ 31) :
    (absU32 (a - b)).toNat = a.toNat - b.toNat := by
  have difference : (a - b).toNat = a.toNat - b.toNat := BitVec.toNat_sub_of_le order
  have notNegative : (a - b).msb = false := by
    rw [BitVec.msb_eq_false_iff_two_mul_lt, difference]
    omega
  rw [absU32, notNegative]
  exact difference

/-- The first segment of pass `i` for a bit of `n` quanta with `early` of them, by
rounding, before the sample point. -/
def firstSegment (btc : PcanfdBittimingRange) (n early i : Nat) : Nat :=
  let tseg2 :=
    if early + i ≤ n then max 1 (min (n - early - i) btc.tseg2Max.toNat) else btc.tseg2Max.toNat
  if tseg2 < n then min btc.tseg1Max.toNat (n - 1 - tseg2) else btc.tseg1Max.toNat

theorem firstSegment_le (btc : PcanfdBittimingRange) (n early i : Nat) :
    firstSegment btc n early i ≤ btc.tseg1Max.toNat := by
  simp only [firstSegment]
  split <;> split <;> omega

section Trial
variable {btc : PcanfdBittimingRange} {sp tseg : U32}

theorem early_le (asked : sp.toNat ≤ 10000) :
    sp.toNat * (tseg.toNat + 1) / 10000 ≤ tseg.toNat + 1 := by
  apply Nat.div_le_of_le_mul
  exact Nat.mul_le_mul asked Nat.le.refl

variable (regular : btc.Regular) (low : 2 ≤ tseg.toNat)
  (high : tseg.toNat ≤ btc.tseg1Max.toNat + btc.tseg2Max.toNat)
include regular low high

theorem quanta_toNat : (tseg + pcanCalcSyncSeg).toNat = tseg.toNat + 1 := by
  have := regular.segments
  have one : pcanCalcSyncSeg.toNat = 1 := rfl
  rw [BitVec.toNat_add, one]
  omega

theorem quanta_ne_zero : tseg + pcanCalcSyncSeg ≠ 0 := by
  intro zero
  have quanta := quanta_toNat regular low high
  simp [zero] at quanta

theorem early_toNat (asked : sp.toNat ≤ 10000) :
    (sp * (tseg + pcanCalcSyncSeg) / pcanSamptScale).toNat =
      sp.toNat * (tseg.toNat + 1) / 10000 := by
  have := regular.segments
  have bound : sp.toNat * (tseg.toNat + 1) ≤ 10000 * 600 := Nat.mul_le_mul asked (by omega)
  rw [BitVec.toNat_udiv, BitVec.toNat_mul, quanta_toNat regular low high,
    Nat.mod_eq_of_lt (by omega)]
  rfl

/-- The second segment of pass `i` before the first one is limited. -/
theorem clamped_toNat (asked : sp.toNat ≤ 10000) (i : U32) (pass : i.toNat ≤ 1) :
    (clampU32 (tseg + pcanCalcSyncSeg - sp * (tseg + pcanCalcSyncSeg) / pcanSamptScale - i)
        btc.tseg2Min btc.tseg2Max).toNat =
      if sp.toNat * (tseg.toNat + 1) / 10000 + i.toNat ≤ tseg.toNat + 1 then
        max 1 (min (tseg.toNat + 1 - sp.toNat * (tseg.toNat + 1) / 10000 - i.toNat)
          btc.tseg2Max.toNat)
      else btc.tseg2Max.toNat := by
  have segments := regular.segments
  have sjwMax := regular.sjwMax
  have earlyLe := @early_le sp tseg asked
  have order : btc.tseg2Min ≤ btc.tseg2Max := by
    rw [regular.tseg2Min, BitVec.le_def]
    exact Nat.le_trans sjwMax.1 sjwMax.2
  have one : btc.tseg2Min.toNat = 1 := by rw [regular.tseg2Min]; rfl
  rw [clampU32_toNat _ _ _ order, one, BitVec.toNat_sub, BitVec.toNat_sub,
    early_toNat regular low high asked, quanta_toNat regular low high]
  split <;> omega

/-- What pass `i` proposes: the second segment is what the first one leaves. -/
theorem samplePointTrial_spec (asked : sp.toNat ≤ 10000) (i : U32) (pass : i.toNat ≤ 1) :
    ∃ trial, samplePointTrial btc sp tseg i = some trial ∧
      trial.tseg1.toNat =
        firstSegment btc (tseg.toNat + 1) (sp.toNat * (tseg.toNat + 1) / 10000) i.toNat ∧
      trial.tseg2 = tseg - trial.tseg1 ∧
      trial.samplePoint.toNat = 10000 * (trial.tseg1.toNat + 1) / (tseg.toNat + 1) ∧
      trial.error = absU32 (sp - trial.samplePoint) := by
  have segments := regular.segments
  have clamped := clamped_toNat regular low high asked i pass
  simp only [samplePointTrial, divU32_of_ne (quanta_ne_zero regular low high), Option.bind_eq_bind,
    Option.bind_some, Option.pure_def, Option.some.injEq, exists_eq_left']
  generalize clampU32 _ _ _ = tseg2 at clamped ⊢
  have bounds : 1 ≤ tseg2.toNat ∧ tseg2.toNat ≤ btc.tseg2Max.toNat := by
    have := regular.sjwMax
    split at clamped <;> omega
  have taken : (if btc.tseg1Max < tseg - tseg2 then btc.tseg1Max else tseg - tseg2).toNat =
      firstSegment btc (tseg.toNat + 1) (sp.toNat * (tseg.toNat + 1) / 10000) i.toNat := by
    simp only [firstSegment, ← clamped]
    split <;> rename_i exceeds <;> rw [BitVec.lt_def, BitVec.toNat_sub] at exceeds
    · split <;> omega
    · rw [BitVec.toNat_sub]
      split <;> omega
  have rest : (if btc.tseg1Max < tseg - tseg2 then tseg - btc.tseg1Max else tseg2) =
      tseg - (if btc.tseg1Max < tseg - tseg2 then btc.tseg1Max else tseg - tseg2) := by
    split
    · rfl
    · simp
  refine ⟨taken, rest, ?_, trivial⟩
  have limited := firstSegment_le btc (tseg.toNat + 1) (sp.toNat * (tseg.toNat + 1) / 10000) i.toNat
  rw [← taken] at limited
  rw [rest]
  generalize (if btc.tseg1Max < tseg - tseg2 then btc.tseg1Max else tseg - tseg2) = tseg1 at *
  have before : tseg + pcanCalcSyncSeg - (tseg - tseg1) = tseg1 + pcanCalcSyncSeg := by
    rw [add_comm tseg, add_sub_assoc, sub_sub_cancel, add_comm]
  have scale : pcanSamptScale.toNat = 10000 := rfl
  have one : pcanCalcSyncSeg.toNat = 1 := rfl
  rw [before, BitVec.toNat_udiv, quanta_toNat regular low high, BitVec.toNat_mul, BitVec.toNat_add,
    scale, one, Nat.mod_eq_of_lt (a := tseg1.toNat + 1) (by omega), Nat.mod_eq_of_lt (by omega)]

end Trial

/-- The earliest sample point of a bit with `tseg` quanta behind the synchronisation
one, of which the first segment has at least `first`. -/
def earliestSamplePoint (btc : PcanfdBittimingRange) (tseg first : Nat) : Nat :=
  10000 * (max first (tseg - btc.tseg2Max.toNat) + 1) / (tseg + 1)

theorem samplePoint_le_iff (k tseg sp : Nat) :
    10000 * (k + 1) / (tseg + 1) ≤ sp ↔ 10000 * (k + 1) < sp * (tseg + 1) + (tseg + 1) := by
  rw [← Nat.lt_add_one_iff, Nat.div_lt_iff_lt_mul (Nat.succ_pos tseg), Nat.add_mul, Nat.one_mul]

section Passes
variable {btc : PcanfdBittimingRange} {sp tseg : Nat} (regular : btc.Regular)
  (asked : sp ≤ 10000) (low : 2 ≤ tseg) (high : tseg ≤ btc.tseg1Max.toNat + btc.tseg2Max.toNat)
include regular asked low high

theorem firstSegment_splits {i : Nat} (pass : i ≤ 1)
    (taken : 10000 * (firstSegment btc (tseg + 1) (sp * (tseg + 1) / 10000) i + 1) / (tseg + 1) ≤ sp) :
    firstSegment btc (tseg + 1) (sp * (tseg + 1) / 10000) i + 1 ≤ tseg ∧
      tseg ≤ firstSegment btc (tseg + 1) (sp * (tseg + 1) / 10000) i + btc.tseg2Max.toNat := by
  have segments := regular.segments
  have sjwMax := regular.sjwMax
  have bound : sp * (tseg + 1) ≤ 10000 * (tseg + 1) := Nat.mul_le_mul asked Nat.le.refl
  rw [samplePoint_le_iff] at taken
  generalize sp * (tseg + 1) = product at *
  simp only [firstSegment] at taken ⊢
  split at taken <;> rename_i c <;> simp only [c, if_true, if_false] <;>
    split at taken <;> rename_i d <;> simp only [d, if_true, if_false] <;> omega

/-- The passes find a split with a first segment of at least `first` quanta, none or
one, exactly if the earliest such split is not too late. -/
theorem passes_find_iff {first : Nat} (small : first ≤ 1) :
    (∃ i ≤ 1, first ≤ firstSegment btc (tseg + 1) (sp * (tseg + 1) / 10000) i ∧
      10000 * (firstSegment btc (tseg + 1) (sp * (tseg + 1) / 10000) i + 1) / (tseg + 1) ≤ sp) ↔
    earliestSamplePoint btc tseg first ≤ sp := by
  have segments := regular.segments
  have sjwMax := regular.sjwMax
  have bound : sp * (tseg + 1) ≤ 10000 * (tseg + 1) := Nat.mul_le_mul asked Nat.le.refl
  simp only [earliestSamplePoint, samplePoint_le_iff]
  generalize sp * (tseg + 1) = product at *
  constructor
  · rintro ⟨i, pass, least, taken⟩
    simp only [firstSegment] at least taken
    split at taken <;> rename_i c <;> simp only [c, if_true, if_false] at least <;>
      split at taken <;> rename_i d <;> simp only [d, if_true, if_false] at least <;> omega
  · intro early
    by_cases reached : first + 1 ≤ product / 10000
    · refine ⟨0, by omega, ?_⟩
      simp only [firstSegment]
      split <;> split <;> omega
    · refine ⟨1, by omega, ?_⟩
      simp only [firstSegment]
      split <;> split <;> omega

end Passes

/-- A split that `pcan_update_sample_point` takes. -/
structure SplitInTime (btc : PcanfdBittimingRange) (sp tseg : U32) (split : SamplePointSplit) :
    Prop where
  inTime : 10000 * (split.tseg1.toNat + 1) / (tseg.toNat + 1) ≤ sp.toNat
  error : split.error.toNat = sp.toNat - 10000 * (split.tseg1.toNat + 1) / (tseg.toNat + 1)
  sum : split.tseg1.toNat + split.tseg2.toNat = tseg.toNat
  first : split.tseg1.toNat ≤ btc.tseg1Max.toNat
  second : 1 ≤ split.tseg2.toNat ∧ split.tseg2.toNat ≤ btc.tseg2Max.toNat

section Update
variable {btc : PcanfdBittimingRange} {sp tseg : U32} (regular : btc.Regular)
  (asked : sp.toNat ≤ 10000) (low : 2 ≤ tseg.toNat)
  (high : tseg.toNat ≤ btc.tseg1Max.toNat + btc.tseg2Max.toNat)
include regular asked low high

theorem trial_inTime {i : U32} (pass : i.toNat ≤ 1) {trial : SamplePointSplit}
    (proposed : samplePointTrial btc sp tseg i = some trial) (taken : trial.samplePoint ≤ sp) :
    SplitInTime btc sp tseg trial := by
  obtain ⟨trial', proposed', first, second, at_, error⟩ :=
    samplePointTrial_spec regular low high asked i pass
  obtain rfl : trial = trial' := Option.some.inj (proposed.symm.trans proposed')
  have inTime := BitVec.le_def.mp taken
  rw [at_] at inTime
  have splits := firstSegment_splits regular asked low high pass (first ▸ inTime)
  rw [← first] at splits
  have rest : trial.tseg2.toNat = tseg.toNat - trial.tseg1.toNat := by
    rw [second, BitVec.toNat_sub_of_le (BitVec.le_def.mpr (by omega))]
  refine ⟨inTime, ?_, by omega, ?_, by omega⟩
  · rw [error, absU32_sub_of_le taken (by omega), at_]
  · exact first ▸ firstSegment_le btc (tseg.toNat + 1) _ i.toNat

theorem taken_iff {i : U32} (pass : i.toNat ≤ 1) {trial best : SamplePointSplit}
    (proposed : samplePointTrial btc sp tseg i = some trial) (worst : best.error = uintMax) :
    best.better sp trial = if trial.samplePoint ≤ sp then trial else best := by
  unfold SamplePointSplit.better
  by_cases taken : trial.samplePoint ≤ sp
  · have error : trial.error.toNat ≤ sp.toNat := by
      rw [(trial_inTime regular asked low high pass proposed taken).error]
      exact Nat.sub_le _ _
    have less : trial.error < best.error := by
      rw [worst, BitVec.lt_def]
      have top : uintMax.toNat = 4294967295 := rfl
      omega
    simp [taken, less]
  · simp [taken]

theorem pass_taken_iff {i : U32} (pass : i.toNat ≤ 1) {trial : SamplePointSplit}
    (proposed : samplePointTrial btc sp tseg i = some trial) :
    trial.tseg1.toNat =
        firstSegment btc (tseg.toNat + 1) (sp.toNat * (tseg.toNat + 1) / 10000) i.toNat ∧
      (trial.samplePoint ≤ sp ↔ 10000 * (trial.tseg1.toNat + 1) / (tseg.toNat + 1) ≤ sp.toNat) := by
  obtain ⟨trial', proposed', first, -, at_, -⟩ :=
    samplePointTrial_spec regular low high asked i pass
  obtain rfl : trial = trial' := Option.some.inj (proposed.symm.trans proposed')
  exact ⟨first, by rw [BitVec.le_def, at_]⟩

omit asked low in
theorem better_later {best trial : SamplePointSplit} (first : SplitInTime btc sp tseg best)
    (second : SplitInTime btc sp tseg trial) (taken : trial.samplePoint ≤ sp) {least : Nat}
    (either : least ≤ best.tseg1.toNat ∨ least ≤ trial.tseg1.toNat) :
    SplitInTime btc sp tseg (best.better sp trial) ∧ least ≤ (best.better sp trial).tseg1.toNat := by
  have segments := regular.segments
  have order : trial.error < best.error ↔ 10000 * (best.tseg1.toNat + 1) / (tseg.toNat + 1) <
      10000 * (trial.tseg1.toNat + 1) / (tseg.toNat + 1) := by
    have := first.inTime
    have := second.inTime
    rw [BitVec.lt_def, first.error, second.error]
    exact ⟨fun h => by omega, fun h => by omega⟩
  unfold SamplePointSplit.better
  simp only [taken, true_and, order]
  split <;> rename_i later
  · refine ⟨second, either.elim (fun h => ?_) id⟩
    have := Nat.lt_of_div_lt_div later
    omega
  · refine ⟨first, either.elim id (fun h => ?_)⟩
    by_contra none
    -- a first segment of one quantum is later than none, as a bit has at most 10000
    have step : 10000 * (best.tseg1.toNat + 1) / (tseg.toNat + 1) + 1 ≤
        10000 * (trial.tseg1.toNat + 1) / (tseg.toNat + 1) := by
      rw [← Nat.add_div_right _ (Nat.succ_pos tseg.toNat)]
      exact Nat.div_le_div_right (by omega)
    omega

theorem update_eq : ∃ down up, samplePointTrial btc sp tseg 0 = some down ∧
    samplePointTrial btc sp tseg 1 = some up ∧
    ∀ tseg1 tseg2, pcanUpdateSamplePoint btc sp tseg tseg1 tseg2 = some
      (if down.samplePoint ≤ sp then down.better sp up
        else if up.samplePoint ≤ sp then up else ⟨0, uintMax, tseg1, tseg2⟩) := by
  obtain ⟨down, isDown, -⟩ := samplePointTrial_spec regular low high asked 0 (by decide)
  obtain ⟨up, isUp, -⟩ := samplePointTrial_spec regular low high asked 1 (by decide)
  refine ⟨down, up, isDown, isUp, fun tseg1 tseg2 => ?_⟩
  simp only [pcanUpdateSamplePoint, isDown, isUp, Option.bind_eq_bind, Option.bind_some,
    Option.pure_def, Option.some.injEq]
  rw [taken_iff regular asked low high (by decide) isDown rfl]
  split
  · rfl
  · exact taken_iff regular asked low high (by decide) isUp rfl

theorem found_iff {down up : SamplePointSplit} (isDown : samplePointTrial btc sp tseg 0 = some down)
    (isUp : samplePointTrial btc sp tseg 1 = some up) {first : Nat} (small : first ≤ 1) :
    (down.samplePoint ≤ sp ∧ first ≤ down.tseg1.toNat) ∨
        (up.samplePoint ≤ sp ∧ first ≤ up.tseg1.toNat) ↔
      earliestSamplePoint btc tseg.toNat first ≤ sp.toNat := by
  obtain ⟨downFirst, downTaken⟩ := pass_taken_iff regular asked low high (by decide) isDown
  obtain ⟨upFirst, upTaken⟩ := pass_taken_iff regular asked low high (by decide) isUp
  rw [← passes_find_iff regular asked low high small, downTaken, upTaken]
  constructor
  · rintro (⟨taken, least⟩ | ⟨taken, least⟩)
    · exact ⟨0, by omega, downFirst ▸ least, by rw [downFirst] at taken; exact taken⟩
    · exact ⟨1, by omega, upFirst ▸ least, by rw [upFirst] at taken; exact taken⟩
  · rintro ⟨i, pass, least, taken⟩
    obtain rfl | rfl : i = 0 ∨ i = 1 := by omega
    · exact Or.inl ⟨by rw [downFirst]; exact taken, by rw [downFirst]; exact least⟩
    · exact Or.inr ⟨by rw [upFirst]; exact taken, by rw [upFirst]; exact least⟩

theorem update_not_placed (late : sp.toNat < earliestSamplePoint btc tseg.toNat 0) (tseg1 tseg2 : U32) :
    pcanUpdateSamplePoint btc sp tseg tseg1 tseg2 = some ⟨0, uintMax, tseg1, tseg2⟩ := by
  obtain ⟨down, up, isDown, isUp, eq⟩ := update_eq regular asked low high
  have none := (found_iff regular asked low high isDown isUp (Nat.zero_le 1)).not.mpr (by omega)
  simp only [Nat.zero_le, and_true, not_or] at none
  rw [eq, if_neg none.1, if_neg none.2]

theorem update_placed (early : earliestSamplePoint btc tseg.toNat 0 ≤ sp.toNat) :
    ∃ split, (∀ tseg1 tseg2, pcanUpdateSamplePoint btc sp tseg tseg1 tseg2 = some split) ∧
      SplitInTime btc sp tseg split ∧
      (1 ≤ split.tseg1.toNat ↔ earliestSamplePoint btc tseg.toNat 1 ≤ sp.toNat) := by
  obtain ⟨down, up, isDown, isUp, eq⟩ := update_eq regular asked low high
  have found := (found_iff regular asked low high isDown isUp (Nat.zero_le 1)).mpr early
  have downInTime := trial_inTime regular asked low high (by decide) isDown
  have upInTime := trial_inTime regular asked low high (by decide) isUp
  rw [← found_iff regular asked low high isDown isUp (Nat.le_refl 1)]
  simp only [Nat.zero_le, and_true] at found
  by_cases first : down.samplePoint ≤ sp
  · refine ⟨down.better sp up, fun tseg1 tseg2 => by rw [eq, if_pos first], ?_⟩
    by_cases second : up.samplePoint ≤ sp
    · have later := fun least : Nat => @better_later btc sp tseg regular high down up
        (downInTime first) (upInTime second) second least
      refine ⟨(later 0 (Or.inl (Nat.zero_le _))).1, fun nonempty => ?_, fun either => ?_⟩
      · unfold SamplePointSplit.better at nonempty
        split at nonempty
        · exact Or.inr ⟨second, nonempty⟩
        · exact Or.inl ⟨first, nonempty⟩
      · exact (later 1 (either.imp And.right And.right)).2
    · have same : down.better sp up = down := by simp [SamplePointSplit.better, second]
      rw [same]
      exact ⟨downInTime first, by simp [first, second]⟩
  · have second := found.resolve_left first
    refine ⟨up, fun tseg1 tseg2 => by rw [eq, if_neg first, if_pos second], upInTime second, ?_⟩
    simp [first, second]

end Update

end PcanDriver

import Mathlib.Algebra.Order.Floor.Div
import PcanDriver.Lib.StepSystem
import PcanDriver.Timestamps

/-!
Runs of `pcan_sync_times` (`pcan_main.c`): what is kept in `time_sync` of two clocks, the last
point at which both were read and how far each has gone since the totals were restarted.
-/
namespace PcanDriver
open StepSystem

section Statement

structure SyncCall where
  host : Host
  tsLow : U32
  tsHigh : U32
  tvOff : Int
deriving Repr, DecidableEq

def SyncCall.hwTime (c : SyncCall) : Nat := PcanDriver.hwTime c.tsLow c.tsHigh

def TimeSync.step (sync : TimeSync) (c : SyncCall) : TimeSync × Bool :=
  sync.next c.host c.tsLow c.tsHigh c.tvOff

/-- Host time with its offset: what `time_sync.tv` gets. -/
def SyncCall.tv (c : SyncCall) : Timeval :=
  if c.tvOff < 0 then timevalAddUs c.host.now c.tvOff else c.host.now

/-- Times that are not too far apart; the offset is an `int`. -/
def SyncCall.Allowed (sync : TimeSync) (c : SyncCall) : Prop :=
  HostTime c.host.now ∧ c.hwTime < 2 ^ 46 ∧ -2 ^ 31 ≤ c.tvOff ∧ c.tvOff < 2 ^ 31 ∧
    (sync.tsUs ≠ 0 → timevalToUs c.host.now - timevalToUs sync.tv < 2 ^ 32)

/-- The totals of `after` are those of the last interval alone. -/
structure TotalsRestarted (before after : TimeSync) : Prop where
  long : 2 ^ 32 ≤ before.ttvUs + (timevalToUs after.tv - timevalToUs before.tv)
  ttv : (after.ttvUs : Int) = timevalToUs after.tv - timevalToUs before.tv
  tts : after.ttsUs + before.tsUs = after.tsUs
  drift : after.clockDrift = before.clockDrift

/-- One call of a run: it changes nothing, begins, or goes on. -/
structure SyncKept (t : Transition TimeSync SyncCall Bool) : Prop where
  refused : t.output = false → t.after = t.before
  begins : t.before.tsUs = 0 →
    t.output = true ∧ t.after = ⟨t.input.tv, t.input.hwTime, 0, 0, 0, 0⟩
  begun : t.before.tsUs ≠ 0 → t.after.tsUs ≠ 0
  later : t.before.tsUs ≠ 0 → t.output = true →
    timevalToUs t.before.tv < timevalToUs t.after.tv ∧ t.before.tsUs ≤ t.after.tsUs
  totals : t.before.tsUs ≠ 0 → t.output = true → 0 < t.after.ttvUs ∧ t.after.ttvUs ≤ 0xffffffff
  drift : t.before.tsUs ≠ 0 → t.output = true →
    t.after.clockDrift = ((t.after.ttsUs * 2 ^ 17 ⌈/⌉ t.after.ttvUs : Nat) : Int) ∨
      TotalsRestarted t.before t.after

end Statement

section Step
variable {sync : TimeSync} {c : SyncCall}

/-- A call that goes on by `dtv` of host time, with its offset, and `dts` of hardware time. -/
structure SyncCall.Interval (c : SyncCall) (sync : TimeSync) (dtv dts : Nat) : Prop where
  begun : sync.tsUs ≠ 0
  second : usecPerSec ≤ timevalDiff c.host.now sync.tv
  host : (dtv : Int) = timevalDiff c.host.now sync.tv + if c.tvOff < 0 then c.tvOff else 0
  hardware : (dts : Int) = Int.bmod ((c.hwTime : Int) - sync.tsUs) (2 ^ 64)
  positive : 0 < dtv

theorem TimeSync.step_cases (sync : TimeSync) (c : SyncCall) :
    (sync.tsUs = 0 ∧ sync.step c = (⟨c.tv, c.hwTime, 0, 0, 0, 0⟩, true)) ∨
      (sync.tsUs ≠ 0 ∧ (∀ dtv dts, ¬c.Interval sync dtv dts) ∧ sync.step c = (sync, false)) ∨
      ∃ dtv dts, c.Interval sync dtv dts ∧
        sync.step c = (sync.advanced c.tv c.hwTime dtv dts, true) := by
  have offset : (if c.tvOff < 0 then timevalDiff c.host.now sync.tv + c.tvOff
      else timevalDiff c.host.now sync.tv) =
      timevalDiff c.host.now sync.tv + if c.tvOff < 0 then c.tvOff else 0 := by
    split
    · rfl
    · rw [Int.add_zero]
  have time : c.tsHigh.toNat * 2 ^ 32 + c.tsLow.toNat = c.hwTime := rfl
  have tv : (if c.tvOff < 0 then timevalAddUs c.host.now c.tvOff else c.host.now) = c.tv := rfl
  unfold TimeSync.step TimeSync.next
  simp only
  rw [offset, time, tv]
  by_cases begins : sync.tsUs = 0
  · rw [if_pos begins]
    exact .inl ⟨begins, rfl⟩
  rw [if_neg begins]
  by_cases soon : timevalDiff c.host.now sync.tv < usecPerSec
  · rw [if_pos soon]
    exact .inr (.inl ⟨begins, fun _ _ goes => Int.not_lt.mpr goes.second soon, rfl⟩)
  rw [if_neg soon]
  by_cases back : Int.bmod ((c.hwTime : Int) - sync.tsUs) (2 ^ 64) < 0
  · rw [if_pos back]
    refine .inr (.inl ⟨begins, fun _ dts goes => ?_, rfl⟩)
    have forward := goes.hardware
    omega
  rw [if_neg back]
  by_cases none_left : timevalDiff c.host.now sync.tv + (if c.tvOff < 0 then c.tvOff else 0) ≤ 0
  · rw [if_pos none_left]
    refine .inr (.inl ⟨begins, fun dtv _ goes => ?_, rfl⟩)
    have left := goes.host
    have positive := goes.positive
    omega
  rw [if_neg none_left]
  obtain ⟨dtv, host⟩ := Int.eq_ofNat_of_zero_le (Int.le_of_lt (Int.not_le.mp none_left))
  obtain ⟨dts, hardware⟩ := Int.eq_ofNat_of_zero_le (Int.not_lt.mp back)
  refine .inr (.inr ⟨dtv, dts, ⟨begins, Int.not_lt.mp soon, host.symm, hardware.symm, ?_⟩, ?_⟩)
  · omega
  · rw [host, hardware]

structure SyncInv (sync : TimeSync) : Prop where
  low : -2 ^ 31 ≤ timevalToUs sync.tv
  high : timevalToUs sync.tv < 2 ^ 54
  hardware : sync.tsUs < 2 ^ 46
  device : sync.ttsUs ≤ sync.tsUs
  word : sync.ttvUs ≤ 0xffffffff

theorem HostTime.range {tv : Timeval} (host : HostTime tv) :
    0 ≤ timevalToUs tv ∧ timevalToUs tv < 2 ^ 54 := by
  obtain ⟨low, high, usecLow, usecHigh⟩ := host
  unfold timevalToUs
  simp only [usecPerSec] at *
  omega

theorem SyncCall.tv_toUs (host : HostTime c.host.now) (low : -2 ^ 31 ≤ c.tvOff) :
    timevalToUs c.tv = timevalToUs c.host.now + if c.tvOff < 0 then c.tvOff else 0 := by
  obtain ⟨-, -, usecLow, usecHigh⟩ := host
  unfold SyncCall.tv
  by_cases negative : c.tvOff < 0
  · rw [if_pos negative, if_pos negative, timevalAddUs_toUs]
    simp only [usecPerSec] at *
    rw [bmod_exact (by omega) (by omega)]
    unfold timevalToUs
    simp only [usecPerSec]
    omega
  · rw [if_neg negative, if_neg negative, Int.add_zero]

theorem timevalDiff_exact {tv tv' : Timeval} (low : -2 ^ 31 ≤ timevalToUs tv)
    (high : timevalToUs tv < 2 ^ 54) (low' : -2 ^ 31 ≤ timevalToUs tv')
    (high' : timevalToUs tv' < 2 ^ 54) :
    timevalDiff tv tv' = timevalToUs tv - timevalToUs tv' :=
  bmod_exact (by omega) (by omega)

theorem TimeSync.advanced_totals {tv : Timeval} {tsUs dtv dts : Nat}
    (word : sync.ttvUs ≤ 0xffffffff)
    (positive : 0 < dtv) (short : dtv < 2 ^ 32) (device : sync.ttsUs + dts < 2 ^ 46) :
    let after := sync.advanced tv tsUs dtv dts
    after.tv = tv ∧ after.tsUs = tsUs ∧ 0 < after.ttvUs ∧ after.ttvUs ≤ 0xffffffff ∧
      after.ttsUs ≤ sync.ttsUs + dts ∧
      (after.clockDrift = ((after.ttsUs * 2 ^ 17 ⌈/⌉ after.ttvUs : Nat) : Int) ∨
        2 ^ 32 ≤ sync.ttvUs + dtv ∧ after.ttvUs = dtv ∧ after.ttsUs = dts ∧
          after.clockDrift = sync.clockDrift) := by
  have host : (sync.ttvUs + dtv) % 2 ^ 64 = sync.ttvUs + dtv := Nat.mod_eq_of_lt (by omega)
  have hardware : (sync.ttsUs + dts) % 2 ^ 64 = sync.ttsUs + dts := Nat.mod_eq_of_lt (by omega)
  have scaled : (sync.ttsUs + dts) * 2 ^ 17 % 2 ^ 64 = (sync.ttsUs + dts) * 2 ^ 17 :=
    Nat.mod_eq_of_lt (by omega)
  unfold TimeSync.advanced
  simp only [Int.toNat_natCast, host, hardware]
  rw [if_neg (by omega)]
  by_cases fits : sync.ttvUs + dtv ≤ 0xffffffff
  · rw [if_pos fits]
    refine ⟨rfl, rfl, by dsimp only; omega, fits, Nat.le_refl _, .inl ?_⟩
    have rounded : ((sync.ttsUs + dts) * 2 ^ 17 + (sync.ttvUs + dtv) - 1) % 2 ^ 64 =
        (sync.ttsUs + dts) * 2 ^ 17 + (sync.ttvUs + dtv) - 1 := Nat.mod_eq_of_lt (by omega)
    dsimp only [pcanClockDriftScaleShift]
    rw [scaled, rounded, Nat.ceilDiv_eq_add_pred_div]
  · rw [if_neg fits]
    refine ⟨rfl, rfl, positive, by dsimp only; omega, Nat.le_add_left _ _, .inr ⟨?_, rfl, rfl, rfl⟩⟩
    omega

theorem TimeSync.advanced_kept {dtv dts : Nat} (inv : SyncInv sync) (allowed : c.Allowed sync)
    (goes : c.Interval sync dtv dts) :
    SyncInv (sync.advanced c.tv c.hwTime dtv dts) ∧
      SyncKept ⟨sync, c, true, sync.advanced c.tv c.hwTime dtv dts⟩ := by
  obtain ⟨now, time, offLow, offHigh, near⟩ := allowed
  obtain ⟨begun, -, host, hardware, positive⟩ := goes
  obtain ⟨nowLow, nowHigh⟩ := now.range
  have short := near begun
  have kept := inv.hardware
  have totals := inv.device
  rw [timevalDiff_exact (by omega) nowHigh inv.low inv.high] at host
  rw [bmod_exact (by omega) (by omega)] at hardware
  have tv := SyncCall.tv_toUs now offLow
  have offset : (if c.tvOff < 0 then c.tvOff else 0) ≤ 0 ∧
      -2 ^ 31 ≤ (if c.tvOff < 0 then c.tvOff else 0) := by
    split <;> omega
  obtain ⟨sameTv, sameTs, least, most, device, drift⟩ :=
    @advanced_totals sync c.tv c.hwTime dtv dts inv.word positive (by omega) (by omega)
  constructor
  · constructor
    case low =>
      rw [sameTv, tv]
      omega
    case high =>
      rw [sameTv, tv]
      omega
    case hardware =>
      rw [sameTs]
      exact time
    case device =>
      rw [sameTs]
      omega
    case word => exact most
  · constructor
    case refused => exact fun never => absurd never Bool.true_eq_false.mp
    case begins => exact fun fresh => absurd fresh begun
    case begun =>
      intro _
      dsimp only
      rw [sameTs]
      omega
    case later =>
      intro _ _
      dsimp only
      rw [sameTv, sameTs, tv]
      omega
    case totals => exact fun _ _ => ⟨least, most⟩
    case drift =>
      intro _ _
      rcases drift with scaled | ⟨long, ttv, tts, same⟩
      · exact .inl scaled
      · refine .inr ⟨?_, ?_, ?_, same⟩
        · dsimp only
          rw [sameTv, tv]
          omega
        · dsimp only
          rw [sameTv, tv, ttv]
          omega
        · dsimp only
          rw [sameTs, tts]
          omega

theorem TimeSync.step_kept (inv : sync.tsUs ≠ 0 → SyncInv sync) (allowed : c.Allowed sync) :
    ((sync.step c).1.tsUs ≠ 0 → SyncInv (sync.step c).1) ∧
      SyncKept ⟨sync, c, (sync.step c).2, (sync.step c).1⟩ := by
  rcases sync.step_cases c with ⟨fresh, result⟩ | ⟨begun, _, result⟩ | ⟨dtv, dts, goes, result⟩
  · rw [result]
    obtain ⟨now, time, offLow, offHigh, near⟩ := allowed
    obtain ⟨nowLow, nowHigh⟩ := now.range
    have tv := SyncCall.tv_toUs now offLow
    constructor
    · intro _
      constructor
      case low =>
        dsimp only
        rw [tv]
        split <;> omega
      case high =>
        dsimp only
        rw [tv]
        split <;> omega
      case hardware => exact time
      case device => exact Nat.zero_le _
      case word => exact Nat.zero_le _
    · constructor
      case begins => exact fun _ => ⟨rfl, rfl⟩
      case refused => exact fun never => absurd never Bool.true_eq_false.mp
      all_goals exact fun begun => absurd fresh begun
  · rw [result]
    refine ⟨inv, ?_⟩
    constructor
    case refused => exact fun _ => rfl
    case begins => exact fun fresh => absurd fresh begun
    case begun => exact id
    all_goals exact fun _ accepted => absurd accepted Bool.false_ne_true
  · rw [result]
    have kept := TimeSync.advanced_kept (inv goes.begun) allowed goes
    exact ⟨fun _ => kept.1, kept.2⟩

/-- Along every run of calls, whatever was synchronised before it was reset. -/
theorem sync_times_kept (sync : TimeSync) (fresh : sync.tsUs = 0) (calls : List SyncCall)
    (allowed : Admitted (fun sync c => c.Allowed sync) TimeSync.step sync calls) :
    ∀ t ∈ transitions TimeSync.step sync calls, SyncKept t :=
  @transitions_invariant _ _ _ TimeSync.step _ (fun sync => sync.tsUs ≠ 0 → SyncInv sync) SyncKept
    (fun _ _ inv allowed => (TimeSync.step_kept inv allowed).1)
    (fun _ _ inv allowed => (TimeSync.step_kept inv allowed).2) sync calls
    (fun begun => absurd fresh begun) allowed

end Step

section Samples

instance decidableAllowed (sync : TimeSync) (c : SyncCall) : Decidable (c.Allowed sync) :=
  inferInstanceAs (Decidable (_ ∧ _))

def syncCallAt (seconds : Int) (tsLow : U32) : SyncCall := ⟨⟨⟨seconds, 0⟩, ⟨0, 0⟩⟩, tsLow, 0, -50⟩

theorem three_calls_kept :
    Admitted (fun sync c => c.Allowed sync) TimeSync.step default
        [syncCallAt 1 1, syncCallAt 2 1000001, syncCallAt 3 2000003] ∧
      ∀ t ∈ transitions TimeSync.step default
        [syncCallAt 1 1, syncCallAt 2 1000001, syncCallAt 3 2000003], SyncKept t := by
  have allowed : Admitted (fun sync c => c.Allowed sync) TimeSync.step default
      [syncCallAt 1 1, syncCallAt 2 1000001, syncCallAt 3 2000003] := by decide
  exact ⟨allowed, sync_times_kept default rfl _ allowed⟩

/-- While the hardware time kept is zero, no synchronisation has begun: the second call of this
    run is accepted as a first one. -/
theorem zero_time_begins_again : ∃ first second,
    transitions TimeSync.step default [syncCallAt 1 0, syncCallAt 2 1000000] = [first, second] ∧
      first.input.Allowed first.before ∧ second.input.Allowed second.before ∧
      timevalToUs first.input.host.now - timevalToUs first.before.tv < 2 ^ 32 ∧
      timevalToUs second.input.host.now - timevalToUs second.before.tv < 2 ^ 32 ∧
      first.output = true ∧ second.output = true ∧ ¬0 < second.after.ttvUs :=
  ⟨_, _, rfl, by decide⟩

end Samples

end PcanDriver

import PcanDriver.SyncTimes

/-!
The division by `clock_drift` in `pcan_sync_timestamps` (`pcan_main.c`). The guard looks at all
bits of the drift, `do_div` at the lower 32.
-/
namespace PcanDriver
open StepSystem
variable {P : Type}

section Statement

/-- The guard in front of `do_div`. -/
def PcanTimeval.Scaled (hwtv : PcanTimeval) : Prop :=
  hwtv.tsMode = .cooked ∧ hwtv.clockDrift ≠ 0 ∧ hwtv.clockDrift ≠ 2 ^ pcanClockDriftScaleShift

def PcanTimeval.dus (hwtv : PcanTimeval) : Nat :=
  if hwtv.tsUs < hwtv.tvUs then hwtv.tvUs - hwtv.tsUs else hwtv.tsUs - hwtv.tvUs

/-- The divisor as `do_div` takes it. -/
def doDivBase (clockDrift : Int) : Nat := (clockDrift % 2 ^ 32).toNat

/-- Nothing is divided by zero, and no bit of the dividend is shifted out. -/
def PcanTimeval.ScalesSafely (hwtv : PcanTimeval) : Prop :=
  hwtv.Scaled → doDivBase hwtv.clockDrift ≠ 0 ∧ hwtv.dus * 2 ^ pcanClockDriftScaleShift < 2 ^ 64

def DecodedSafely (dev : Pcandev P) (sync : TimeSync) (tsLow tsHigh : U32) : Prop :=
  ∀ hwtv, pcanSyncDecode { dev with timeSync := sync, tsMode := .cooked } tsLow tsHigh = some hwtv →
    hwtv.ScalesSafely

/-- Less than 2⁴⁷ µs from the time of the synchronisation. -/
def NearSync (sync : TimeSync) (tsLow tsHigh : U32) : Prop :=
  sync.tsUs < hwTime tsLow tsHigh + 2 ^ 47 ∧ hwTime tsLow tsHigh < sync.tsUs + 2 ^ 47

def TimeSync.Drifts (sync : TimeSync) : Prop :=
  sync.tsUs ≠ 0 ∧ sync.clockDrift ≠ 0 ∧ sync.clockDrift ≠ 2 ^ pcanClockDriftScaleShift

/-- With this call, the hardware has gone so much further than the host that the quotient of the
    totals, rounded up, is a multiple of 2³². -/
def DriftWraps (sync : TimeSync) (c : SyncCall) : Prop :=
  ∃ dtv dts, c.Interval sync dtv dts ∧ c.hwTime ≠ 0 ∧
    let ttvUs := (sync.ttvUs + dtv) % 2 ^ 64
    let d := (sync.ttsUs + dts) % 2 ^ 64 * 2 ^ pcanClockDriftScaleShift % 2 ^ 64
    0 < ttvUs ∧ ttvUs ≤ 0xffffffff ∧ ∃ k, 1 ≤ k ∧
      k * 2 ^ 32 * ttvUs ≤ (d + ttvUs - 1) % 2 ^ 64 ∧
        (d + ttvUs - 1) % 2 ^ 64 < k * 2 ^ 32 * ttvUs + ttvUs

end Statement

section Division
variable {sync : TimeSync} {c : SyncCall}

/-- The drift never has a divisor of zero, as long as a synchronisation is there. -/
def DivisorKept (sync : TimeSync) : Prop :=
  sync.tsUs ≠ 0 → sync.clockDrift ≠ 0 → doDivBase sync.clockDrift ≠ 0

theorem doDivBase_zero_iff (q : Nat) :
    ((q : Int) ≠ 0 → doDivBase q ≠ 0) ↔ ¬∃ k, 1 ≤ k ∧ q = k * 2 ^ 32 := by
  unfold doDivBase
  constructor
  · rintro divisor ⟨k, positive, rfl⟩
    apply divisor <;> omega
  · intro absent some_drift zero
    exact absent ⟨q / 2 ^ 32, by omega, by omega⟩

theorem quotient_multiple_iff {e ttvUs : Nat} (positive : 0 < ttvUs) :
    (∃ k, 1 ≤ k ∧ e / ttvUs = k * 2 ^ 32) ↔
      ∃ k, 1 ≤ k ∧ k * 2 ^ 32 * ttvUs ≤ e ∧ e < k * 2 ^ 32 * ttvUs + ttvUs := by
  constructor
  · rintro ⟨k, least, quotient⟩
    have bounds := (Nat.div_eq_iff positive).mp quotient
    exact ⟨k, least, bounds.1, by omega⟩
  · rintro ⟨k, least, low, high⟩
    exact ⟨k, least, (Nat.div_eq_iff positive).mpr ⟨low, by omega⟩⟩

theorem advanced_divisor_iff {dtv dts : Nat} (kept : DivisorKept sync)
    (goes : c.Interval sync dtv dts) :
    DivisorKept (sync.advanced c.tv c.hwTime dtv dts) ↔ ¬DriftWraps sync c := by
  have unique : ∀ dtv' dts', c.Interval sync dtv' dts' → dtv' = dtv ∧ dts' = dts := by
    intro dtv' dts' other
    have host := other.host.trans goes.host.symm
    have hardware := other.hardware.trans goes.hardware.symm
    omega
  have wraps : DriftWraps sync c ↔ c.hwTime ≠ 0 ∧
      0 < (sync.ttvUs + dtv) % 2 ^ 64 ∧ (sync.ttvUs + dtv) % 2 ^ 64 ≤ 0xffffffff ∧
      ∃ k, 1 ≤ k ∧ ((sync.ttsUs + dts) % 2 ^ 64 * 2 ^ pcanClockDriftScaleShift % 2 ^ 64 +
        (sync.ttvUs + dtv) % 2 ^ 64 - 1) % 2 ^ 64 / ((sync.ttvUs + dtv) % 2 ^ 64) = k * 2 ^ 32 := by
    constructor
    · rintro ⟨dtv', dts', other, nonzero, positive, small, wrapped⟩
      obtain ⟨rfl, rfl⟩ := unique dtv' dts' other
      exact ⟨nonzero, positive, small, (quotient_multiple_iff positive).mpr wrapped⟩
    · rintro ⟨nonzero, positive, small, wrapped⟩
      exact ⟨dtv, dts, goes, nonzero, positive, small, (quotient_multiple_iff positive).mp wrapped⟩
  have same : ∀ tv tsUs ttvUs ttsUs tsFixed,
      DivisorKept ⟨tv, tsUs, ttvUs, ttsUs, sync.clockDrift, tsFixed⟩ := fun _ _ _ _ _ _ =>
    kept goes.begun
  rw [wraps]
  unfold TimeSync.advanced
  simp only [Int.toNat_natCast]
  by_cases zero : (sync.ttvUs + dtv) % 2 ^ 64 = 0
  · rw [if_pos zero]
    exact iff_of_true (same _ _ _ _ _) fun both => by omega
  rw [if_neg zero]
  by_cases small : (sync.ttvUs + dtv) % 2 ^ 64 ≤ 0xffffffff
  · rw [if_pos small]
    unfold DivisorKept
    simp only
    rw [doDivBase_zero_iff]
    constructor
    · rintro divides ⟨nonzero, -, -, wrapped⟩
      exact divides nonzero wrapped
    · exact fun absent nonzero wrapped => absent ⟨nonzero, Nat.pos_of_ne_zero zero, small, wrapped⟩
  · rw [if_neg small]
    exact iff_of_true (same _ _ _ _ _) fun both => small both.2.2.1

theorem divisor_step_iff (kept : DivisorKept sync) :
    DivisorKept (sync.step c).1 ↔ ¬DriftWraps sync c := by
  rcases sync.step_cases c with ⟨fresh, result⟩ | ⟨begun, stays, result⟩ | ⟨dtv, dts, goes, result⟩
  · rw [result]
    exact iff_of_true (fun _ none_yet => absurd rfl none_yet)
      fun ⟨_, _, goes, _⟩ => goes.begun fresh
  · rw [result]
    exact iff_of_true kept fun ⟨dtv, dts, goes, _⟩ => stays dtv dts goes
  · rw [result]
    exact advanced_divisor_iff kept goes

end Division

section Events
variable {sync : TimeSync}

theorem decodedSafely_iff (dev : Pcandev P) (sync : TimeSync) (tsLow tsHigh : U32) :
    DecodedSafely dev sync tsLow tsHigh ↔
      (sync.Drifts → doDivBase sync.clockDrift ≠ 0 ∧ NearSync sync tsLow tsHigh) := by
  have time : tsHigh.toNat * 2 ^ 32 + tsLow.toNat = hwTime tsLow tsHigh := rfl
  have decoded : pcanSyncDecode { dev with timeSync := sync, tsMode := .cooked } tsLow tsHigh =
      if sync.tsUs ≠ 0 then
        some ⟨sync.tv, sync.tsUs, hwTime tsLow tsHigh, .cooked, sync.clockDrift⟩ else none := by
    unfold pcanSyncDecode
    rw [← time]
    by_cases begun : sync.tsUs ≠ 0
    · rw [if_pos begun, if_pos ⟨begun, (by decide : HwTimestamp.cooked ≠ .off)⟩]
    · rw [if_neg begun, if_neg fun both => begun both.1]
  have near : ∀ tsUs : Nat,
      (if tsUs < sync.tsUs then sync.tsUs - tsUs else tsUs - sync.tsUs) * 2 ^ 17 < 2 ^ 64 ↔
        sync.tsUs < tsUs + 2 ^ 47 ∧ tsUs < sync.tsUs + 2 ^ 47 := by
    intro tsUs
    split <;> omega
  unfold DecodedSafely
  rw [decoded]
  by_cases begun : sync.tsUs ≠ 0
  · rw [if_pos begun]
    constructor
    · rintro safe ⟨-, some_drift, not_one⟩
      have scales := safe _ rfl ⟨rfl, some_drift, not_one⟩
      exact ⟨scales.1, (near _).mp scales.2⟩
    · rintro safe hwtv decoded ⟨-, some_drift, not_one⟩
      cases decoded
      have both := safe ⟨begun, some_drift, not_one⟩
      exact ⟨both.1, (near _).mpr both.2⟩
  · rw [if_neg begun]
    exact iff_of_true (fun _ absent => by cases absent) fun drifts => absurd drifts.1 begun

theorem own_time_near (word : sync.tsUs < 2 ^ 64) :
    ∃ tsLow tsHigh, NearSync sync tsLow tsHigh := by
  refine ⟨BitVec.ofNat 32 sync.tsUs, BitVec.ofNat 32 (sync.tsUs / 2 ^ 32), ?_⟩
  have own : hwTime (BitVec.ofNat 32 sync.tsUs) (BitVec.ofNat 32 (sync.tsUs / 2 ^ 32)) =
      sync.tsUs := by
    unfold hwTime
    rw [BitVec.toNat_ofNat, BitVec.toNat_ofNat]
    omega
  unfold NearSync
  rw [own]
  omega

theorem hwTime_word (tsLow tsHigh : U32) : hwTime tsLow tsHigh < 2 ^ 64 := by
  have low := tsLow.isLt
  have high := tsHigh.isLt
  unfold hwTime
  omega

theorem step_word (word : sync.tsUs < 2 ^ 64) (c : SyncCall) : (sync.step c).1.tsUs < 2 ^ 64 := by
  have time : c.hwTime < 2 ^ 64 := hwTime_word c.tsLow c.tsHigh
  rcases sync.step_cases c with ⟨-, result⟩ | ⟨-, -, result⟩ | ⟨dtv, dts, -, result⟩
  · rw [result]
    exact time
  · rw [result]
    exact word
  · rw [result, TimeSync.advanced_tsUs]
    exact time

/-- Near events are divided for safely in every state of a run exactly if no call of it wraps the
    quotient; of far ones the dividend does not fit. -/
theorem cooked_division_iff (dev : Pcandev P) (sync : TimeSync) (fresh : sync.tsUs = 0)
    (calls : List SyncCall) :
    ((∀ s ∈ states TimeSync.step sync calls, ∀ tsLow tsHigh, NearSync s tsLow tsHigh →
        DecodedSafely dev s tsLow tsHigh) ↔
      Admitted (fun s c => ¬DriftWraps s c) TimeSync.step sync calls) ∧
    ∀ s ∈ states TimeSync.step sync calls, ∀ tsLow tsHigh, s.Drifts →
      DecodedSafely dev s tsLow tsHigh → NearSync s tsLow tsHigh := by
  have words := @states_invariant _ _ _ TimeSync.step (fun _ _ => True) (fun s => s.tsUs < 2 ^ 64)
    (fun _ c word _ => step_word word c) sync calls (by rw [fresh]; decide) (admitted_true _ _ _)
  have divisors : (∀ s ∈ states TimeSync.step sync calls, DivisorKept s) ↔
      Admitted (fun s c => ¬DriftWraps s c) TimeSync.step sync calls :=
    @states_iff_admitted _ _ _ TimeSync.step (fun _ _ => True) _ DivisorKept
      (fun _ _ kept _ => divisor_step_iff kept) sync calls (fun begun => absurd fresh begun)
      (admitted_true _ _ _)
  refine ⟨Iff.trans ?_ divisors, fun s member tsLow tsHigh drifts safe =>
    ((decodedSafely_iff dev s tsLow tsHigh).mp safe drifts).2⟩
  constructor
  · intro safe s member begun some_drift
    by_cases one : s.clockDrift = 2 ^ pcanClockDriftScaleShift
    · rw [one]
      decide
    · obtain ⟨tsLow, tsHigh, near⟩ := own_time_near (words s member)
      exact ((decodedSafely_iff dev s tsLow tsHigh).mp (safe s member tsLow tsHigh near)
        ⟨begun, some_drift, one⟩).1
  · intro kept s member tsLow tsHigh near
    exact (decodedSafely_iff dev s tsLow tsHigh).mpr
      fun drifts => ⟨kept s member drifts.1 drifts.2.1, near⟩

end Events

section Samples

def runawayCalls : List SyncCall :=
  [⟨⟨⟨1, 0⟩, ⟨0, 0⟩⟩, 1, 0, 0⟩, ⟨⟨⟨2, 0⟩, ⟨0, 0⟩⟩, 0xa1200001, 7, 0⟩]

/-- An event at the time of the last synchronisation is divided for by zero. -/
theorem runaway_divides_by_zero :
    ∃ s ∈ states TimeSync.step default runawayCalls, NearSync s 0xa1200001 7 ∧
      ∃ hwtv, pcanSyncDecode { driftingChannel with timeSync := s, tsMode := .cooked }
          0xa1200001 7 = some hwtv ∧
        hwtv.Scaled ∧ doDivBase hwtv.clockDrift = 0 ∧
        ¬DecodedSafely driftingChannel s 0xa1200001 7 := by
  have time : (run TimeSync.step default runawayCalls).1 =
      ⟨⟨2, 0⟩, 32768000001, 1000000, 32768000000, 2 ^ 32, 0⟩ := by decide
  refine ⟨_, final_state_mem _ _ _, ?_⟩
  rw [time]
  have decoded : pcanSyncDecode { driftingChannel with
      timeSync := ⟨⟨2, 0⟩, 32768000001, 1000000, 32768000000, 2 ^ 32, 0⟩, tsMode := .cooked }
      0xa1200001 7 = some ⟨⟨2, 0⟩, 32768000001, 32768000001, .cooked, 2 ^ 32⟩ := rfl
  have scaled : PcanTimeval.Scaled ⟨⟨2, 0⟩, 32768000001, 32768000001, .cooked, 2 ^ 32⟩ :=
    ⟨rfl, by decide, by decide⟩
  exact ⟨by unfold NearSync; decide, _, decoded, scaled, by decide,
    fun safe => (safe _ decoded scaled).1 (by decide)⟩

theorem steady_run_divides :
    Admitted (fun s c => ¬DriftWraps s c) TimeSync.step default
        [syncCallAt 1 1, syncCallAt 2 1000101] ∧
      ∀ s ∈ states TimeSync.step default [syncCallAt 1 1, syncCallAt 2 1000101],
        ∀ tsLow tsHigh, NearSync s tsLow tsHigh → DecodedSafely driftingChannel s tsLow tsHigh := by
  have first : (TimeSync.step default (syncCallAt 1 1)).1.clockDrift = 0 := by decide
  have second : doDivBase (TimeSync.step (TimeSync.step default (syncCallAt 1 1)).1
      (syncCallAt 2 1000101)).1.clockDrift ≠ 0 := by decide
  have kept : DivisorKept (TimeSync.step default (syncCallAt 1 1)).1 :=
    fun _ some_drift => absurd first some_drift
  have steady : Admitted (fun s c => ¬DriftWraps s c) TimeSync.step default
      [syncCallAt 1 1, syncCallAt 2 1000101] :=
    ⟨(divisor_step_iff fun begun => absurd rfl begun).mp kept,
      (divisor_step_iff kept).mp fun _ _ => second, trivial⟩
  exact ⟨steady, (cooked_division_iff driftingChannel default rfl _).1.mpr steady⟩

end Samples

end PcanDriver

import PcanDriver.RxEffects
import PcanDriver.TimeSync

/-!
Timestamps from the decoder to the application (`pcan_main.c`). `pcan_chardev_rx` makes
the host time of the last synchronisation relative, `pcan_sync_timestamps` adds the
distance of the event from it when the message is read.
-/
namespace PcanDriver
variable {P : Type}

section Sums

def Timeval.Normal (tv : Timeval) : Prop := 0 ≤ tv.tvUsec ∧ tv.tvUsec < usecPerSec

instance (tv : Timeval) : Decidable tv.Normal := inferInstanceAs (Decidable (_ ∧ _))

theorem timevalAddUs_toUs (tv : Timeval) (us : Int) : timevalToUs (timevalAddUs tv us) =
    tv.tvSec * usecPerSec + Int.bmod (tv.tvUsec + us) (2 ^ 64) := by
  unfold timevalToUs timevalAddUs
  simp only
  rw [Int.add_mul, Int.add_assoc, Int.fdiv_mul_add_fmod]

theorem timevalAddUs_normal (tv : Timeval) (us : Int) : (timevalAddUs tv us).Normal := by
  unfold timevalAddUs Timeval.Normal
  exact ⟨Int.fmod_nonneg_of_pos _ (by decide), Int.fmod_lt_of_pos _ (by decide)⟩

/-- Sums and differences of host times are exact as long as they stay below 2⁶³ µs. -/
theorem bmod_exact {x : Int} (low : -2 ^ 63 ≤ x) (high : x < 2 ^ 63) :
    Int.bmod x (2 ^ 64) = x := by
  apply Int.bmod_eq_of_le_mul_two
  · push_cast
    omega
  · push_cast
    omega

theorem bmod_bounds (x : Int) :
    -2 ^ 63 ≤ Int.bmod x (2 ^ 64) ∧ Int.bmod x (2 ^ 64) < 2 ^ 63 := by
  have low := @Int.le_bmod x (2 ^ 64) (by decide)
  have high := @Int.bmod_lt x (2 ^ 64) (by decide)
  have size : ((2 ^ 64 : Nat) : Int) = 2 * 2 ^ 63 := by decide
  rw [size] at low high
  omega

theorem toRelTime_cases {base tv : Timeval} (baseNormal : base.Normal) (positive : 0 ≤ base.tvSec)
    (normal : tv.Normal) :
    (timevalToUs base ≤ timevalToUs tv ∧
      (toRelTime base tv).tvUsec = (tv.tvUsec - base.tvUsec) % usecPerSec ∧
      timevalToUs (toRelTime base tv) = timevalToUs tv - timevalToUs base) ∨
    (timevalToUs tv < timevalToUs base ∧ toRelTime base tv = ⟨0, 0⟩) := by
  obtain ⟨baseLow, baseHigh⟩ := baseNormal
  obtain ⟨low, high⟩ := normal
  unfold toRelTime subtractTimeval timevalToUs
  simp only [usecPerSec] at *
  split
  · split
    · left
      simp only [Option.getD_some]
      omega
    · right
      refine ⟨by omega, rfl⟩
  · split
    · split
      · left
        simp only [Option.getD_some]
        omega
      · right
        refine ⟨by omega, rfl⟩
    · right
      refine ⟨by omega, rfl⟩

end Sums

section Reception

theorem pcanStatusRx_hwtv (dev : Pcandev P) (pf : PcanfdRxmsg) :
    (pcanStatusRx dev pf).2.1.hwtv = pf.hwtv := by
  unfold pcanStatusRx
  split
  · rfl
  · simp only
    split <;> rfl

theorem pcanStatusNormalizeRx_hwtv (rx : PcanfdRxmsg) :
    (pcanStatusNormalizeRx rx).hwtv = rx.hwtv := by
  unfold pcanStatusNormalizeRx PcanfdRxmsg.withId
  split
  · rfl
  · simp only
    split
    · split
      · rfl
      · split <;> rfl
    · split
      · split <;> rfl
      · rfl

theorem limitRx_hwtv (dev : Pcandev P) (rx : PcanfdRxmsg) :
    (limitRx dev rx).2.1.hwtv = rx.hwtv := by
  unfold limitRx
  split
  case h_3 =>
    have kept : (filterStatusRx dev rx).2.1.hwtv = rx.hwtv := by
      unfold filterStatusRx
      split
      · rw [pcanStatusRx_hwtv, pcanStatusNormalizeRx_hwtv]
      · split
        · exact pcanStatusRx_hwtv dev rx
        · rfl
    unfold limitStatusRx patchStatusRx
    simp only
    split <;> exact kept
  all_goals rfl

theorem putRx_hwtv (dev : Pcandev P) (rx : PcanfdRxmsg) : (putRx dev rx).2.1.hwtv = rx.hwtv := by
  unfold putRx
  simp only
  split <;> rfl

/-- The message has passed every test that makes `pcan_chardev_rx` return early. -/
structure Taken (dev : Pcandev P) (rx : PcanfdRxmsg) : Prop where
  admitted : (admitRx dev rx).2 = true
  paths : 0 < dev.nOpenPaths
  clear : dev.overrun = false

/-- Whether a message is admitted does not depend on its time. -/
theorem admitRx_msg (dev : Pcandev P) {rx rx' : PcanfdRxmsg} (same : rx.msg = rx'.msg) :
    admitRx dev rx = admitRx dev rx' := by
  unfold admitRx
  rw [same]

theorem admitRx_settings (dev : Pcandev P) (rx : PcanfdRxmsg) :
    (admitRx dev rx).1.initSettings = dev.initSettings ∧
      (admitRx dev rx).1.initTimestamp = dev.initTimestamp := by
  unfold admitRx
  split
  · exact ⟨rfl, rfl⟩
  · split <;> exact ⟨rfl, rfl⟩
  all_goals exact ⟨rfl, rfl⟩

theorem pcanChardevRx_hwtv (host : Host) {dev : Pcandev P} {rx : PcanfdRxmsg}
    (taken : Taken dev rx) : (pcanChardevRx host dev rx).2.1.hwtv = stampTime host dev rx := by
  have same := admitRx_same dev rx
  obtain ⟨settings, timestamp⟩ := admitRx_settings dev rx
  have stamp : stampTime host (admitRx dev rx).1 rx = stampTime host dev rx := by
    unfold stampTime
    rw [settings, timestamp]
  have paths : ¬(admitRx dev rx).1.nOpenPaths ≤ 0 := by
    rw [same.paths]
    exact Int.not_le.mpr taken.paths
  have clear : ¬(admitRx dev rx).1.overrun = true := by
    rw [same.overrun, taken.clear]
    exact Bool.false_ne_true
  unfold pcanChardevRx queueRx
  simp only [taken.admitted, if_true, if_neg paths, if_neg clear]
  rw [← stamp]
  split
  · exact limitRx_hwtv _ _
  · rw [putRx_hwtv, limitRx_hwtv]
    rfl

/-- What the timestamps of a channel are relative to; nothing for absolute ones. -/
def relBase (host : Host) (dev : Pcandev P) : Option Timeval :=
  let format := dev.initSettings.flags &&& pcanfdInitTsFmtMask
  if format = pcanfdInitTsDrvRel then some host.sInitTime
  else if format = pcanfdInitTsDevRel then some dev.initTimestamp
  else none

theorem stampTime_flagged (host : Host) (dev : Pcandev P) {rx : PcanfdRxmsg}
    (flagged : rx.msg.flags &&& pcanfdTimestamp ≠ 0) (cooked : rx.hwtv.tsMode ≠ .raw) :
    stampTime host dev rx = { rx.hwtv with
      tv := (relBase host dev).elim rx.hwtv.tv (toRelTime · rx.hwtv.tv) } := by
  unfold stampTime relBase
  simp only [if_neg flagged, if_neg cooked]
  split
  · rfl
  · split <;> rfl

/-- A message that carries the hardware time its decoder has given to it. -/
structure HwStamped (decoder dev : Pcandev P) (rx : PcanfdRxmsg) (tsLow tsHigh : U32) : Prop where
  taken : Taken dev rx
  flagged : rx.msg.flags &&& pcanfdTimestamp ≠ 0
  hwtv : pcanSyncDecode decoder tsLow tsHigh = some rx.hwtv

def hwTime (tsLow tsHigh : U32) : Nat := tsHigh.toNat * 2 ^ 32 + tsLow.toNat

theorem HwStamped.fields {decoder dev : Pcandev P} {rx : PcanfdRxmsg} {tsLow tsHigh : U32}
    (stamped : HwStamped decoder dev rx tsLow tsHigh) :
    rx.hwtv = ⟨decoder.timeSync.tv, decoder.timeSync.tsUs, hwTime tsLow tsHigh, decoder.tsMode,
      decoder.timeSync.clockDrift⟩ := by
  have hwtv := stamped.hwtv
  unfold pcanSyncDecode at hwtv
  split at hwtv
  · exact (Option.some.inj hwtv).symm
  · cases hwtv

end Reception

section Delivery

/-- The time the application gets for a message received at `host` and read at `later`. -/
def deliveredTime (host later : Host) (dev reader : Pcandev P) (rx : PcanfdRxmsg) : Timeval :=
  (pcanSyncTimestamps later reader (pcanChardevRx host dev rx).2.1).2.msg.timestamp

/-- The time of the sum, unless it is later than the reading. -/
theorem pcanSyncTimestamps_timestamp (host : Host) (dev : Pcandev P) {pqm : PcanfdRxmsg}
    (mode : pqm.hwtv.tsMode = .on ∨ pqm.hwtv.tsMode = .cooked) :
    (pcanSyncTimestamps host dev pqm).2.msg.timestamp =
      let sum := timevalAddUs pqm.hwtv.tv (hwDelayUs pqm.hwtv)
      if 0 < timevalDiff sum host.now then host.now else sum := by
  obtain ⟨low, high⟩ := timevalAddUs_normal pqm.hwtv.tv (hwDelayUs pqm.hwtv)
  have second : usecPerSec = 1000000 := rfl
  have valid : ¬((timevalAddUs pqm.hwtv.tv (hwDelayUs pqm.hwtv)).tvUsec ≥ 1000000 ∨
      (timevalAddUs pqm.hwtv.tv (hwDelayUs pqm.hwtv)).tvUsec < 0) := by omega
  unfold pcanSyncTimestamps
  rcases mode with mode | mode
  all_goals
    simp only [mode, ← or_assoc, valid, false_or]
    split
    · rw [if_pos (by omega)]
    · split
      · rfl
      · rfl

theorem hwDelayUs_on {hwtv : PcanTimeval} (mode : hwtv.tsMode = .on) :
    hwDelayUs hwtv = (hwtv.tsUs : Int) - hwtv.tvUs := by
  have unscaled : ¬(HwTimestamp.on = .cooked ∧ hwtv.clockDrift ≠ 0 ∧
      hwtv.clockDrift ≠ 2 ^ 17) := fun scaled => by cases scaled.1
  unfold hwDelayUs
  simp only [mode, if_neg unscaled]
  split <;> omega

theorem HwStamped.delivered {decoder dev : Pcandev P} {rx : PcanfdRxmsg} {tsLow tsHigh : U32}
    (stamped : HwStamped decoder dev rx tsLow tsHigh)
    (mode : decoder.tsMode = .on ∨ decoder.tsMode = .cooked) (host later : Host)
    (reader : Pcandev P) : deliveredTime host later dev reader rx =
      let tv := (relBase host dev).elim rx.hwtv.tv (toRelTime · rx.hwtv.tv)
      let sum := timevalAddUs tv (hwDelayUs rx.hwtv)
      if 0 < timevalDiff sum later.now then later.now else sum := by
  have kept : rx.hwtv.tsMode = decoder.tsMode := by rw [stamped.fields]
  have cooked : rx.hwtv.tsMode ≠ .raw := by
    rcases mode with mode | mode <;> rw [kept, mode] <;> decide
  have queued : (pcanChardevRx host dev rx).2.1.hwtv = { rx.hwtv with
      tv := (relBase host dev).elim rx.hwtv.tv (toRelTime · rx.hwtv.tv) } :=
    (pcanChardevRx_hwtv host stamped.taken).trans
      (stampTime_flagged host dev stamped.flagged cooked)
  unfold deliveredTime
  rw [pcanSyncTimestamps_timestamp later reader (by rw [queued, kept]; exact mode), queued]
  rfl

end Delivery

section SinceInit

/-- The host time of the synchronisation, moved by the distance of the event from it. -/
def eventTime (sync : TimeSync) (tsUs : Nat) : Int :=
  timevalToUs sync.tv + Int.bmod ((tsUs : Int) - sync.tsUs) (2 ^ 64)

/-- The time shown when the sum of the relative base and the distance is not fixed. -/
def Unfixed (base : Timeval) (sync : TimeSync) (tsUs : Nat) (now : Timeval) : Prop :=
  timevalDiff (timevalAddUs (toRelTime base sync.tv) ((tsUs : Int) - sync.tsUs)) now ≤ 0

instance decidableUnfixed (base : Timeval) (sync : TimeSync) (tsUs : Nat) (now : Timeval) :
    Decidable (Unfixed base sync tsUs now) := inferInstanceAs (Decidable (_ ≤ _))

/-- The base is subtracted from the time of the synchronisation before the distance of the
    event is added, so a synchronisation older than the base counts as the base itself. -/
theorem relative_sum_iff {base : Timeval} {sync : TimeSync} {tsUs : Nat}
    (baseNormal : base.Normal) (positive : 0 ≤ base.tvSec) (syncNormal : sync.tv.Normal) :
    timevalToUs (timevalAddUs (toRelTime base sync.tv) ((tsUs : Int) - sync.tsUs)) =
        eventTime sync tsUs - timevalToUs base ↔
      timevalToUs base ≤ timevalToUs sync.tv ∧
        (sync.tv.tvUsec - base.tvUsec) % usecPerSec +
          Int.bmod ((tsUs : Int) - sync.tsUs) (2 ^ 64) < 2 ^ 63 := by
  obtain ⟨low, high⟩ := bmod_bounds ((tsUs : Int) - sync.tsUs)
  have usec : 0 ≤ (sync.tv.tvUsec - base.tvUsec) % usecPerSec :=
    Int.emod_nonneg _ (by decide)
  rw [timevalAddUs_toUs]
  unfold eventTime
  rw [← Int.add_bmod_bmod]
  generalize Int.bmod ((tsUs : Int) - sync.tsUs) (2 ^ 64) = distance at low high
  rcases toRelTime_cases baseNormal positive syncNormal with ⟨after, relUsec, rel⟩ | ⟨before, zero⟩
  · rw [relUsec]
    have split : timevalToUs (toRelTime base sync.tv) =
        (toRelTime base sync.tv).tvSec * usecPerSec +
          (sync.tv.tvUsec - base.tvUsec) % usecPerSec := by rw [← relUsec]; rfl
    obtain ⟨-, sumHigh⟩ := bmod_bounds ((sync.tv.tvUsec - base.tvUsec) % usecPerSec + distance)
    constructor
    · intro exact_sum
      omega
    · rintro ⟨-, small⟩
      rw [bmod_exact (by omega) small]
      omega
  · rw [zero]
    have alone : Int.bmod (0 + distance) (2 ^ 64) = distance := by
      rw [Int.zero_add, bmod_exact low high]
    simp only [alone]
    omega

/-- A message of a channel with relative timestamps shows the time since the base exactly
    when its synchronisation is not older than the base. -/
theorem delivered_since_init_iff {decoder dev : Pcandev P} {rx : PcanfdRxmsg} {tsLow tsHigh : U32}
    {base : Timeval} (host later : Host) (reader : Pcandev P)
    (stamped : HwStamped decoder dev rx tsLow tsHigh) (mode : decoder.tsMode = .on)
    (relative : relBase host dev = some base)
    (baseNormal : base.Normal) (positive : 0 ≤ base.tvSec)
    (syncNormal : decoder.timeSync.tv.Normal)
    (unfixed : Unfixed base decoder.timeSync (hwTime tsLow tsHigh) later.now) :
    timevalToUs (deliveredTime host later dev reader rx) =
        eventTime decoder.timeSync (hwTime tsLow tsHigh) - timevalToUs base ↔
      timevalToUs base ≤ timevalToUs decoder.timeSync.tv ∧
        (decoder.timeSync.tv.tvUsec - base.tvUsec) % usecPerSec +
          Int.bmod ((hwTime tsLow tsHigh : Int) - decoder.timeSync.tsUs) (2 ^ 64) < 2 ^ 63 := by
  have delay : hwDelayUs rx.hwtv =
      (hwTime tsLow tsHigh : Int) - decoder.timeSync.tsUs := by
    rw [hwDelayUs_on (by rw [stamped.fields]; exact mode), stamped.fields]
  have tv : rx.hwtv.tv = decoder.timeSync.tv := by rw [stamped.fields]
  have shown : deliveredTime host later dev reader rx =
      timevalAddUs (toRelTime base decoder.timeSync.tv)
        ((hwTime tsLow tsHigh : Int) - decoder.timeSync.tsUs) := by
    rw [stamped.delivered (.inl mode)]
    simp only [relative, Option.elim_some, delay, tv]
    exact if_neg (Int.not_lt.mpr unfixed)
  rw [shown]
  exact relative_sum_iff baseNormal positive syncNormal

end SinceInit

section Order

/-- What `pcan_gettimeofday` returns: a signed 64-bit count of nanoseconds since 1970. -/
def HostTime (tv : Timeval) : Prop := 0 ≤ tv.tvSec ∧ tv.tvSec ≤ 9223372036 ∧ tv.Normal

instance decidableHostTime (tv : Timeval) : Decidable (HostTime tv) :=
  inferInstanceAs (Decidable (_ ∧ _))

theorem HostTime.apart {tv now : Timeval} (host : HostTime tv) (read : HostTime now) :
    timevalToUs tv - timevalToUs now < 2 ^ 54 ∧ timevalToUs now - timevalToUs tv < 2 ^ 54 := by
  obtain ⟨low, high, usecLow, usecHigh⟩ := host
  obtain ⟨low', high', usecLow', usecHigh'⟩ := read
  unfold timevalToUs
  simp only [usecPerSec] at *
  omega

/-- The distance in host microseconds, without its sign. -/
def driftScaled (mode : HwTimestamp) (clockDrift : Int) (dus : Nat) : Nat :=
  if mode = .cooked ∧ clockDrift ≠ 0 ∧ clockDrift ≠ 2 ^ 17 then
    dus * 2 ^ 17 % 2 ^ 64 / (clockDrift % 2 ^ 32).toNat
  else dus

theorem hwDelayUs_eq (hwtv : PcanTimeval) : hwDelayUs hwtv =
    if hwtv.tsUs < hwtv.tvUs then
      -(driftScaled hwtv.tsMode hwtv.clockDrift (hwtv.tvUs - hwtv.tsUs) : Int)
    else driftScaled hwtv.tsMode hwtv.clockDrift (hwtv.tsUs - hwtv.tvUs) := by
  unfold hwDelayUs driftScaled
  simp only
  split <;> rfl

/-- How far from its synchronisation an event may be: the quotient of a distance and a
    drift of 1 needs one bit more than the others. -/
def maxDistance (mode : HwTimestamp) (clockDrift : Int) : Nat :=
  if mode = .cooked ∧ clockDrift % 2 ^ 32 = 1 then 2 ^ 46 - 2 ^ 37 else 2 ^ 46

theorem maxDistance_le (mode : HwTimestamp) (clockDrift : Int) :
    maxDistance mode clockDrift ≤ 2 ^ 46 := by
  unfold maxDistance
  split <;> omega

theorem driftScaled_mono {mode : HwTimestamp} {clockDrift : Int} {dus dus' : Nat}
    (ordered : dus ≤ dus') (near : dus' ≤ 2 ^ 46) :
    driftScaled mode clockDrift dus ≤ driftScaled mode clockDrift dus' := by
  unfold driftScaled
  split
  · rw [Nat.mod_eq_of_lt (by omega), Nat.mod_eq_of_lt (by omega)]
    exact Nat.div_le_div_right (Nat.mul_le_mul_right _ ordered)
  · exact ordered

theorem driftScaled_le {mode : HwTimestamp} {clockDrift : Int} {dus : Nat}
    (divisor : clockDrift % 2 ^ 32 = 0 → clockDrift = 0)
    (near : dus ≤ maxDistance mode clockDrift) :
    driftScaled mode clockDrift dus ≤ 2 ^ 63 - 2 ^ 54 := by
  have far := Nat.le_trans near (maxDistance_le mode clockDrift)
  unfold driftScaled
  split
  case isTrue scaled =>
    have nonzero : clockDrift % 2 ^ 32 ≠ 0 := fun zero => scaled.2.1 (divisor zero)
    have nonneg := Int.emod_nonneg clockDrift (by decide : (2 : Int) ^ 32 ≠ 0)
    rw [Nat.mod_eq_of_lt (by omega)]
    by_cases one : clockDrift % 2 ^ 32 = 1
    · rw [maxDistance, if_pos ⟨scaled.1, one⟩] at near
      rw [one, Int.toNat_one, Nat.div_one]
      omega
    · have two : 2 ≤ (clockDrift % 2 ^ 32).toNat := by omega
      calc dus * 2 ^ 17 / (clockDrift % 2 ^ 32).toNat
          ≤ dus * 2 ^ 17 / 2 := Nat.div_le_div_left two (by decide)
        _ ≤ 2 ^ 63 - 2 ^ 54 := by omega
  case isFalse => omega

/-- An event is not too far from the synchronisation it is decoded against. -/
def Near (decoder : Pcandev P) (tsUs : Nat) : Prop :=
  (decoder.timeSync.tsUs : Int) - tsUs ≤
      maxDistance decoder.tsMode decoder.timeSync.clockDrift ∧
    (tsUs : Int) - decoder.timeSync.tsUs ≤
      maxDistance decoder.tsMode decoder.timeSync.clockDrift

instance decidableNear (decoder : Pcandev P) (tsUs : Nat) : Decidable (Near decoder tsUs) :=
  inferInstanceAs (Decidable (_ ∧ _))

theorem hwDelayUs_bounds {hwtv : PcanTimeval}
    (divisor : hwtv.clockDrift % 2 ^ 32 = 0 → hwtv.clockDrift = 0)
    (before : (hwtv.tvUs : Int) - hwtv.tsUs ≤ maxDistance hwtv.tsMode hwtv.clockDrift)
    (after : (hwtv.tsUs : Int) - hwtv.tvUs ≤ maxDistance hwtv.tsMode hwtv.clockDrift) :
    -(2 ^ 63 - 2 ^ 54) ≤ hwDelayUs hwtv ∧ hwDelayUs hwtv ≤ 2 ^ 63 - 2 ^ 54 := by
  rw [hwDelayUs_eq]
  split
  · have bound := @driftScaled_le hwtv.tsMode _ (hwtv.tvUs - hwtv.tsUs) divisor (by omega)
    omega
  · have bound := @driftScaled_le hwtv.tsMode _ (hwtv.tsUs - hwtv.tvUs) divisor (by omega)
    omega

theorem hwDelayUs_mono {hwtv hwtv' : PcanTimeval} (mode : hwtv'.tsMode = hwtv.tsMode)
    (drift : hwtv'.clockDrift = hwtv.clockDrift) (sync : hwtv'.tvUs = hwtv.tvUs)
    (ordered : hwtv.tsUs ≤ hwtv'.tsUs) (before : (hwtv.tvUs : Int) - hwtv.tsUs ≤ 2 ^ 46)
    (after : (hwtv'.tsUs : Int) - hwtv'.tvUs ≤ 2 ^ 46) : hwDelayUs hwtv ≤ hwDelayUs hwtv' := by
  rw [hwDelayUs_eq, hwDelayUs_eq, mode, drift, sync]
  rw [sync] at after
  split <;> split
  · have shorter := @driftScaled_mono hwtv.tsMode hwtv.clockDrift (hwtv.tvUs - hwtv'.tsUs)
      (hwtv.tvUs - hwtv.tsUs) (by omega) (by omega)
    omega
  · omega
  · omega
  · have longer := @driftScaled_mono hwtv.tsMode hwtv.clockDrift (hwtv.tsUs - hwtv.tvUs)
      (hwtv'.tsUs - hwtv.tvUs) (by omega) (by omega)
    omega

theorem HwStamped.capped {decoder dev : Pcandev P} {rx : PcanfdRxmsg} {tsLow tsHigh : U32}
    (stamped : HwStamped decoder dev rx tsLow tsHigh)
    (mode : decoder.tsMode = .on ∨ decoder.tsMode = .cooked)
    (divisor : decoder.timeSync.clockDrift % 2 ^ 32 = 0 → decoder.timeSync.clockDrift = 0)
    {host later : Host} (absolute : relBase host dev = none)
    (near : Near decoder (hwTime tsLow tsHigh)) (sync : HostTime decoder.timeSync.tv)
    (read : HostTime later.now) (reader : Pcandev P) :
    timevalToUs (deliveredTime host later dev reader rx) =
        min (timevalToUs decoder.timeSync.tv + hwDelayUs rx.hwtv) (timevalToUs later.now) ∧
      (deliveredTime host later dev reader rx).Normal := by
  have fields := stamped.fields
  have tv : rx.hwtv.tv = decoder.timeSync.tv := by rw [fields]
  obtain ⟨low, high⟩ := @hwDelayUs_bounds rx.hwtv (by rw [fields]; exact divisor)
    (by rw [fields]; exact near.1) (by rw [fields]; exact near.2)
  obtain ⟨apart, apart'⟩ := HostTime.apart sync read
  obtain ⟨-, -, usecLow, usecHigh⟩ := sync
  have usec : decoder.timeSync.tv.tvUsec < 1000000 := usecHigh
  rw [stamped.delivered mode]
  simp only [absolute, Option.elim_none, tv]
  generalize hwDelayUs rx.hwtv = delay at low high
  have sum : timevalToUs (timevalAddUs decoder.timeSync.tv delay) =
      timevalToUs decoder.timeSync.tv + delay := by
    rw [timevalAddUs_toUs, bmod_exact (by omega) (by omega)]
    unfold timevalToUs
    omega
  have ahead : timevalDiff (timevalAddUs decoder.timeSync.tv delay) later.now =
      timevalToUs decoder.timeSync.tv + delay - timevalToUs later.now := by
    unfold timevalDiff
    rw [sum, bmod_exact (by omega) (by omega)]
  rw [ahead]
  split
  · exact ⟨by omega, read.2.2⟩
  · exact ⟨by omega, timevalAddUs_normal _ _⟩

/-- Messages of one synchronisation that are read one after the other show their events in
    order, and never a time later than the reading. -/
theorem delivered_in_order {decoder dev dev' : Pcandev P} {rx rx' : PcanfdRxmsg}
    {tsLow tsHigh tsLow' tsHigh' : U32} (host host' later later' : Host)
    (reader reader' : Pcandev P) (stamped : HwStamped decoder dev rx tsLow tsHigh)
    (stamped' : HwStamped decoder dev' rx' tsLow' tsHigh')
    (mode : decoder.tsMode = .on ∨ decoder.tsMode = .cooked)
    (divisor : decoder.timeSync.clockDrift % 2 ^ 32 = 0 → decoder.timeSync.clockDrift = 0)
    (absolute : relBase host dev = none) (absolute' : relBase host' dev' = none)
    (near : Near decoder (hwTime tsLow tsHigh)) (near' : Near decoder (hwTime tsLow' tsHigh'))
    (ordered : hwTime tsLow tsHigh ≤ hwTime tsLow' tsHigh')
    (sync : HostTime decoder.timeSync.tv) (read : HostTime later.now) (read' : HostTime later'.now)
    (reads : timevalToUs later.now ≤ timevalToUs later'.now) :
    timevalToUs (deliveredTime host later dev reader rx) ≤
        timevalToUs (deliveredTime host' later' dev' reader' rx') ∧
      timevalToUs (deliveredTime host later dev reader rx) ≤ timevalToUs later.now ∧
      timevalToUs (deliveredTime host' later' dev' reader' rx') ≤ timevalToUs later'.now ∧
      (deliveredTime host later dev reader rx).Normal ∧
      (deliveredTime host' later' dev' reader' rx').Normal := by
  obtain ⟨shown, normal⟩ := stamped.capped mode divisor absolute near sync read reader
  obtain ⟨shown', normal'⟩ := stamped'.capped mode divisor absolute' near' sync read' reader'
  have far := maxDistance_le decoder.tsMode decoder.timeSync.clockDrift
  have delays : hwDelayUs rx.hwtv ≤ hwDelayUs rx'.hwtv := by
    obtain ⟨before, -⟩ := near
    obtain ⟨-, after⟩ := near'
    rw [stamped.fields, stamped'.fields]
    refine hwDelayUs_mono rfl rfl rfl ordered ?_ ?_
    · simp only
      omega
    · simp only
      omega
  rw [shown, shown']
  refine ⟨by omega, Int.min_le_right _ _, Int.min_le_right _ _, normal, normal'⟩

end Order

section Samples

/-- A channel with timestamps relative to its opening at 100 s. -/
def relativeChannel : Pcandev Unit :=
  { openedChannel () 4 4 0 with
    initTimestamp := ⟨100, 0⟩
    initSettings :=
      { flags := pcanfdInitTsDevRel, clockHz := 0, nominal := default, data := default }
    tsMode := .on }

/-- The same channel when its device was synchronised at `tv`, with 1 s on its counter. -/
def syncedChannel (tv : Timeval) : Pcandev Unit :=
  { relativeChannel with timeSync := ⟨tv, 1000000, 0, 0, 0, 0⟩ }

def stampedFrame (tv : Timeval) : PcanfdRxmsg :=
  { msg := { PcanfdMsg.zero with type := .can20Msg, flags := pcanfdTimestamp }
    hwtv := ⟨tv, 1000000, 2000000, .on, 0⟩ }

def sampleReading : Host := ⟨⟨102, 0⟩, ⟨1, 0⟩⟩

theorem syncedChannel_stamped (tv : Timeval) :
    HwStamped (syncedChannel tv) (syncedChannel tv) (stampedFrame tv) 2000000 0 :=
  ⟨⟨(by decide : (admitRx relativeChannel (stampedFrame ⟨0, 0⟩)).2 = true), Int.one_pos,
      (overrun_false_iff _).mpr BitVec.zero_and⟩,
    (by decide : pcanfdTimestamp &&& pcanfdTimestamp ≠ 0), rfl⟩

/-- Synchronised half a second after the opening, the event shows its time since then. -/
theorem delivered_since_init_synced_after :
    timevalToUs (deliveredTime sampleReading sampleReading (syncedChannel ⟨100, 500000⟩)
        relativeChannel (stampedFrame ⟨100, 500000⟩)) =
      eventTime (syncedChannel ⟨100, 500000⟩).timeSync (hwTime 2000000 0) -
        timevalToUs ⟨100, 0⟩ :=
  (delivered_since_init_iff sampleReading sampleReading relativeChannel
    (syncedChannel_stamped ⟨100, 500000⟩) rfl rfl (by decide) (by decide) (by decide)
    (by decide)).mpr ⟨by decide, by decide⟩

/-- Synchronised half a second before the opening, an event half a second after it shows
    a whole second. -/
theorem older_sync_shows_distance :
    HwStamped (syncedChannel ⟨99, 500000⟩) (syncedChannel ⟨99, 500000⟩)
        (stampedFrame ⟨99, 500000⟩) 2000000 0 ∧
      relBase sampleReading (syncedChannel ⟨99, 500000⟩) = some ⟨100, 0⟩ ∧
      eventTime (syncedChannel ⟨99, 500000⟩).timeSync (hwTime 2000000 0) -
        timevalToUs ⟨100, 0⟩ = 500000 ∧
      Unfixed ⟨100, 0⟩ (syncedChannel ⟨99, 500000⟩).timeSync (hwTime 2000000 0)
        sampleReading.now ∧
      timevalToUs (deliveredTime sampleReading sampleReading (syncedChannel ⟨99, 500000⟩)
        relativeChannel (stampedFrame ⟨99, 500000⟩)) = 1000000 :=
  ⟨syncedChannel_stamped ⟨99, 500000⟩, rfl, by decide, by decide, by decide⟩

/-- A channel whose clock drift is 1, synchronised at 10 s with 2⁴⁶ µs on its counter. -/
def driftingChannel : Pcandev Unit :=
  { openedChannel () 4 4 0 with timeSync := ⟨⟨10, 0⟩, 2 ^ 46, 0, 0, 1, 0⟩ }

def driftingFrame (tsLow tsHigh : U32) : PcanfdRxmsg :=
  { msg := { PcanfdMsg.zero with type := .can20Msg, flags := pcanfdTimestamp }
    hwtv := ⟨⟨10, 0⟩, 2 ^ 46, hwTime tsLow tsHigh, .cooked, 1⟩ }

theorem driftingFrame_stamped (tsLow tsHigh : U32) :
    HwStamped driftingChannel driftingChannel (driftingFrame tsLow tsHigh) tsLow tsHigh := by
  have admitted : (admitRx driftingChannel (driftingFrame tsLow tsHigh)).2 = true := by
    have same : (driftingFrame tsLow tsHigh).msg = (stampedFrame ⟨0, 0⟩).msg := rfl
    rw [admitRx_msg driftingChannel same]
    decide
  exact ⟨⟨admitted, Int.one_pos, (overrun_false_iff _).mpr BitVec.zero_and⟩,
    (by decide : pcanfdTimestamp &&& pcanfdTimestamp ≠ 0), if_pos (by decide)⟩

theorem delivered_in_order_near :
    timevalToUs (deliveredTime sampleReading sampleReading driftingChannel driftingChannel
        (driftingFrame 0xffffffff 0x3fff)) ≤
      timevalToUs (deliveredTime sampleReading sampleReading driftingChannel driftingChannel
        (driftingFrame 0 0x4000)) :=
  (delivered_in_order sampleReading sampleReading sampleReading sampleReading driftingChannel
    driftingChannel (driftingFrame_stamped 0xffffffff 0x3fff) (driftingFrame_stamped 0 0x4000)
    (.inr rfl) (by decide) rfl rfl (by decide) (by decide) (by decide) (by decide) (by decide)
    (by decide) (by decide)).1

/-- A distance of almost 2⁴⁶ µs divided by a drift of 1 makes the test for a time in the
    future wrap: the older of two frames gets the time of reading. -/
theorem drifting_frames_out_of_order :
    HwStamped driftingChannel driftingChannel (driftingFrame 1 0) 1 0 ∧
      HwStamped driftingChannel driftingChannel (driftingFrame 0 0x4000) 0 0x4000 ∧
      (2 ^ 46 : Int) - hwTime 1 0 ≤ 2 ^ 46 ∧ hwTime 1 0 ≤ hwTime 0 0x4000 ∧
      hwTime 0 0x4000 = 2 ^ 46 ∧ relBase sampleReading driftingChannel = none ∧
      HostTime driftingChannel.timeSync.tv ∧ HostTime sampleReading.now ∧
      ¬timevalToUs (deliveredTime sampleReading sampleReading driftingChannel driftingChannel
          (driftingFrame 1 0)) ≤
        timevalToUs (deliveredTime sampleReading sampleReading driftingChannel driftingChannel
          (driftingFrame 0 0x4000)) :=
  ⟨driftingFrame_stamped 1 0, driftingFrame_stamped 0 0x4000, by decide, by decide, by decide, rfl,
    by decide, by decide, by decide⟩

end Samples

end PcanDriver

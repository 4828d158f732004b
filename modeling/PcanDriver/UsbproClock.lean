import PcanDriver.Lib.CounterExtension
import PcanDriver.UcanBounds

/-!
The time of USB-Pro and USB FD interfaces (`pcan_usbpro.c`). A device reports 32 bits of
its µs counter in calibration messages and in the records of its channels; the driver
counts the wraps in `ts_high`, which all channels of the interface share.
-/
namespace PcanDriver
open CounterExtension StepSystem
variable {n : Nat}

theorem TimeSync.next_cases (host : Host) (sync : TimeSync) (tsLow tsHigh : U32) (tvOff : Int) :
    (sync.next host tsLow tsHigh tvOff = (sync, false) ∧ sync.tsUs ≠ 0) ∨
      ((sync.next host tsLow tsHigh tvOff).2 = true ∧
        (sync.next host tsLow tsHigh tvOff).1.tsUs = tsHigh.toNat * 2 ^ 32 + tsLow.toNat) := by
  unfold TimeSync.next
  simp only
  generalize (if tvOff < 0 then timevalDiff host.now sync.tv + tvOff
    else timevalDiff host.now sync.tv) = offUs
  split
  · exact .inr ⟨rfl, rfl⟩
  next started =>
    split
    · exact .inl ⟨rfl, started⟩
    · split
      · exact .inl ⟨rfl, started⟩
      · split
        · exact .inl ⟨rfl, started⟩
        · exact .inr ⟨rfl, sync.advanced_tsUs _ _ _ _⟩

section Records

inductive DeviceRecord where
  | ucan (msg : Nat → U8)
  | usbpro (pr : Nat → U8)

def DeviceRecord.handle (record : DeviceRecord) (env : DecodeEnv) (usbIf : UsbInterface n) :
    UsbInterface n :=
  match record with
  | .ucan msg => (ucanHandleMsg usbIf (env, msg)).1
  | .usbpro pr => (usbproHandleRec usbIf (env, pr)).1

/-- What a record has to do with the time of the interface: an event of a channel gets
    its timestamp decoded. -/
inductive ClockUse (n : Nat) where
  | calibration (tsLow devFrameIndex : U32)
  | event (ci : Fin (n + 1)) (tsLow : U32)
  | none
deriving DecidableEq

def ClockUse.eventOf (n : Nat) (channel : Nat) (tsLow : U32) : ClockUse n :=
  if h : channel < n + 1 then .event ⟨channel, h⟩ tsLow else .none

def ucanClockUse (n : Nat) (msg : Nat → U8) : ClockUse n :=
  match ucanCalls n msg with
  | some .calibration => .calibration (u32At msg 4) ((u16At msg 12).setWidth 32)
  | some .busLoad => .none
  | some kind => .eventOf n (ucanMsgChannel kind msg) (u32At msg 4)
  | none => .none

/-- A status without a message does not get its timestamp decoded. -/
def usbproClockUse (env : DecodeEnv) (usbIf : UsbInterface n) (pr : Nat → U8) : ClockUse n :=
  let dataType := pr 0
  if dataType = dataTypeCanmsgRx8 ∨ dataType = dataTypeCanmsgRx4 ∨ dataType = dataTypeCanmsgRx0 ∨
      dataType = dataTypeCanmsgRtrRx then .eventOf n (pr 3 >>> 4).toNat (u32At pr 4)
  else if dataType = dataTypeCanmsgStatusErrorRx then
    if h : (pr 1 >>> 4).toNat < n + 1 then
      if (usbproStatus (pcanUsbWrite .usbPro env.submit env.host) (usbIf.devs ⟨_, h⟩).dev
          ((u16At pr 2).setWidth 32) (u32At pr 8)).2.msg.type = .nop then .none
      else .event ⟨_, h⟩ (u32At pr 4)
    else .none
  else if dataType = dataTypeCalibrationTimestampRx then .calibration (u32At pr 8) (u32At pr 4)
  else .none

def DeviceRecord.clockUse (record : DeviceRecord) (env : DecodeEnv) (usbIf : UsbInterface n) :
    ClockUse n :=
  match record with
  | .ucan msg => ucanClockUse n msg
  | .usbpro pr => usbproClockUse env usbIf pr

structure SameClock (s t : UsbInterface n) : Prop where
  time : t.time = s.time
  devFrameIndex : t.devFrameIndex = s.devFrameIndex
  sync : ∀ d, (t.devs d).dev.timeSync = (s.devs d).dev.timeSync

theorem SameClock.refl (s : UsbInterface n) : SameClock s s := ⟨rfl, rfl, fun _ => rfl⟩

theorem SameClock.withDev {s : UsbInterface n} {ci : Fin (n + 1)} {c : UsbChannel}
    (kept : c.dev.timeSync = (s.devs ci).dev.timeSync) : SameClock s (s.withDev ci c) := by
  refine ⟨rfl, rfl, fun d => ?_⟩
  by_cases here : d = ci
  · subst here
    simp only [UsbInterface.withDev, Function.update_self]
    exact kept
  · simp only [UsbInterface.withDev, Function.update_of_ne here]

theorem decodedSync_counting {time : UsbTime} (counting : time.cmIgnoreCount = 0) (host : Host)
    (sync : TimeSync) (tsLow : U32) : time.decodedSync host sync tsLow = sync := by
  unfold UsbTime.decodedSync
  rw [if_neg]
  intro ignoring
  rw [counting] at ignoring
  exact absurd ignoring.1 (by decide)

theorem onController_sameClock (usbIf : UsbInterface n) (channel : U8)
    {handle : UsbChannel → UsbChannel × Int}
    (result : Int → RecResult) (kept : ∀ c, (handle c).1.dev.timeSync = c.dev.timeSync) :
    SameClock usbIf (onController usbIf channel handle result).1 := by
  unfold onController
  split
  · exact .withDev (kept _)
  · exact .refl _

theorem ucanHandleMsg_uncalled (env : DecodeEnv) (usbIf : UsbInterface n) {msg : Nat → U8}
    (uncalled : ucanCalls n msg = none) : (ucanHandleMsg usbIf (env, msg)).1 = usbIf := by
  unfold ucanHandleMsg
  simp only
  split
  · rfl
  next some_ =>
    split
    · rfl
    · cases handled : pcanUsbfdUcanHandlers (u16At msg 2) with
      | none => rfl
      | some kind =>
        have size : u16At msg 0 ≠ 0 := fun zero => some_ (.inl zero)
        have nowhere : ¬(kind = .calibration ∨ ucanMsgChannel kind msg < n + 1) := fun channel =>
          nomatch uncalled.symm.trans (ucanCalls_of size handled channel)
        simp only [ucanDispatch, if_neg fun same => nowhere (.inl same),
          dif_neg fun inside => nowhere (.inr inside)]

section Counting
variable {usbIf : UsbInterface n} (counting : usbIf.time.cmIgnoreCount = 0) (env : DecodeEnv)
include counting

theorem pcanUsbfdDecode_timeSync (kind : UcanMsg) (msg : Nat → U8) (c : UsbChannel) :
    (pcanUsbfdDecode env usbIf.time kind msg c).1.dev.timeSync = c.dev.timeSync := by
  have shared := congrArg Prod.fst (pcanUsbfdDecode_shared env usbIf.time kind msg c)
  simp only [decodedSync_counting counting] at shared
  cases kind <;> exact shared

theorem pcanUsbproHandleCanmsgRx_timeSync (rx : Nat → U8) (c : UsbChannel) :
    (pcanUsbproHandleCanmsgRx env usbIf.time rx c).1.dev.timeSync = c.dev.timeSync := by
  have shared := congrArg Prod.fst (pcanUsbproHandleCanmsgRx_shared env usbIf.time rx c)
  simp only [decodedSync_counting counting] at shared
  exact shared

theorem handleStatusErrRx_timeSync (er : Nat → U8) (c : UsbChannel) :
    (handleStatusErrRx env usbIf.time er c).1.dev.timeSync = c.dev.timeSync := by
  have shared := congrArg Prod.fst (handleStatusErrRx_shared env usbIf.time er c)
  simp only [decodedSync_counting counting, ite_self] at shared
  exact shared

theorem ucan_sameClock {msg : Nat → U8}
    (event : ∀ tsLow index, ucanClockUse n msg ≠ .calibration tsLow index) :
    SameClock usbIf (ucanHandleMsg usbIf (env, msg)).1 := by
  cases calls : ucanCalls n msg with
  | none =>
    rw [ucanHandleMsg_uncalled env usbIf calls]
    exact .refl _
  | some kind =>
    obtain ⟨size, handled, channel⟩ := ucanCalls_some calls
    have other : kind ≠ .calibration := by
      intro same
      rw [same] at calls
      exact event _ _ (by unfold ucanClockUse; rw [calls])
    rw [ucanHandleMsg_handled usbIf env handled size]
    unfold ucanDispatch
    simp only [if_neg other, dif_pos (channel.resolve_left other)]
    exact .withDev (pcanUsbfdDecode_timeSync counting env kind msg _)

theorem usbpro_sameClock {pr : Nat → U8}
    (event : ∀ tsLow index, usbproClockUse env usbIf pr ≠ .calibration tsLow index) :
    SameClock usbIf (usbproHandleRec usbIf (env, pr)).1 := by
  unfold usbproClockUse at event
  unfold usbproHandleRec
  simp only at event ⊢
  split
  next =>
    exact onController_sameClock usbIf _ _ fun c =>
      pcanUsbproHandleCanmsgRx_timeSync counting env pr c
  next frame =>
    split
    next =>
      exact onController_sameClock usbIf _ _ fun c => handleStatusErrRx_timeSync counting env pr c
    next status =>
      split
      next calibration =>
        rw [if_neg frame, if_neg status, if_pos calibration] at event
        exact absurd rfl (event _ _)
      next =>
        split
        · exact onController_sameClock usbIf _ _ fun c =>
            congrArg Prod.fst (pcanUsbproHandleBuslastRx_shared env pr c)
        · exact .refl _

theorem DeviceRecord.sameClock (record : DeviceRecord)
    (event : ∀ tsLow index, record.clockUse env usbIf ≠ .calibration tsLow index) :
    SameClock usbIf (record.handle env usbIf) := by
  cases record with
  | ucan msg => exact ucan_sameClock counting env event
  | usbpro pr => exact usbpro_sameClock counting env event

end Counting

theorem ClockUse.eventOf_ne_calibration (channel : Nat) (stamp tsLow index : U32) :
    ClockUse.eventOf n channel stamp ≠ .calibration tsLow index := by
  unfold ClockUse.eventOf
  split <;> exact nofun

theorem DeviceRecord.handle_calibration {record : DeviceRecord} {env : DecodeEnv}
    {usbIf : UsbInterface n} {tsLow index : U32}
    (use : record.clockUse env usbIf = .calibration tsLow index) :
    record.handle env usbIf = (pcanUsbproHandleCalibration env usbIf tsLow index).1 := by
  cases record with
  | ucan msg =>
    simp only [DeviceRecord.clockUse, ucanClockUse] at use
    cases calls : ucanCalls n msg with
    | none =>
      rw [calls] at use
      cases use
    | some kind =>
      rw [calls] at use
      obtain ⟨size, handled, _⟩ := ucanCalls_some calls
      cases kind with
      | calibration =>
        cases use
        simp only [DeviceRecord.handle, ucanHandleMsg_handled usbIf env handled size]
        rfl
      | busLoad => cases use
      | canRx | error | status | overrun =>
        exact absurd use (ClockUse.eventOf_ne_calibration _ _ _ _)
  | usbpro pr =>
    simp only [DeviceRecord.clockUse, usbproClockUse] at use
    simp only [DeviceRecord.handle, usbproHandleRec]
    split at use
    next => exact absurd use (ClockUse.eventOf_ne_calibration _ _ _ _)
    next frame =>
      rw [if_neg frame]
      split at use
      next =>
        split at use
        · split at use <;> cases use
        · cases use
      next status =>
        rw [if_neg status]
        split at use
        next calibration =>
          cases use
          rw [if_pos calibration]
        next => cases use

end Records

section Calibrations

/-- Whether a calibration message is used for the time: the number of the USB frame could
    be read, and the message is not the first one. -/
def UsbInterface.Processes (usbIf : UsbInterface n) (env : DecodeEnv) : Prop :=
  0 ≤ env.frameNumber ∧ 0 ≤ usbIf.devFrameIndex

instance (usbIf : UsbInterface n) (env : DecodeEnv) : Decidable (usbIf.Processes env) :=
  inferInstanceAs (Decidable (_ ∧ _))

/-- What a channel takes of the time: whether it has a time base at all. -/
def UsbInterface.synced (usbIf : UsbInterface n) (d : Fin (n + 1)) : Prop :=
  (usbIf.devs d).dev.timeSync.tsUs ≠ 0

variable {usbIf : UsbInterface n} {env : DecodeEnv} {tsLow index : U32}

theorem calibration_unprocessed (counting : usbIf.time.cmIgnoreCount = 0)
    (unprocessed : ¬usbIf.Processes env) :
    let next := (pcanUsbproHandleCalibration env usbIf tsLow index).1
    next.devs = usbIf.devs ∧ next.time.cmIgnoreCount = 0 ∧
      (0 ≤ usbIf.devFrameIndex →
        next.time = usbIf.time ∧ next.devFrameIndex = usbIf.devFrameIndex) := by
  unfold pcanUsbproHandleCalibration
  simp only
  split
  · exact ⟨rfl, counting, fun _ => ⟨rfl, rfl⟩⟩
  next counted =>
    rw [if_neg (by rw [counting]; decide)]
    split
    next first => exact ⟨rfl, counting, fun later => absurd first (by omega)⟩
    next later => exact absurd ⟨by omega, by omega⟩ unprocessed

theorem calibration_processed (counting : usbIf.time.cmIgnoreCount = 0)
    (processed : usbIf.Processes env) :
    let next := (pcanUsbproHandleCalibration env usbIf tsLow index).1
    next.time = usbIf.time.calibrated tsLow ∧ next.devFrameIndex = index.toInt ∧
      ((∀ d, (next.devs d).dev.timeSync.tsUs =
          next.time.tsHigh.toNat * 2 ^ 32 + next.time.tsLow.toNat) ∨
        (next.devs = usbIf.devs ∧ usbIf.synced 0)) := by
  unfold pcanUsbproHandleCalibration
  simp only
  rw [if_neg (by have := processed.1; omega), if_neg (by rw [counting]; decide),
    if_neg (by have := processed.2; omega)]
  refine ⟨rfl, rfl, ?_⟩
  unfold syncChannels UsbInterface.synced
  simp only
  rcases TimeSync.next_cases env.host (usbIf.devs 0).dev.timeSync
    (usbIf.time.calibrated tsLow).tsLow (usbIf.time.calibrated tsLow).tsHigh
    (frameIndexOffset index env.frameNumber) with ⟨unchanged, synced⟩ | ⟨changed, value⟩
  · rw [unchanged]
    exact .inr ⟨rfl, synced⟩
  · rw [changed]
    exact .inl fun _ => value

end Calibrations

section Runs

structure TimedRecord where
  env : DecodeEnv
  record : DeviceRecord
  time : Nat

/-- `sync` is the time of the last calibration message that has been used. -/
structure ClockRun (n : Nat) where
  usbIf : UsbInterface n
  sync : Option Nat

def ClockRun.use (r : ClockRun n) (i : TimedRecord) : ClockUse n := i.record.clockUse i.env r.usbIf

/-- The output is the time of an event with the 64 bits that are handed on for it. -/
def ClockRun.step (r : ClockRun n) (i : TimedRecord) : ClockRun n × Option (Nat × Nat) :=
  (⟨i.record.handle i.env r.usbIf, match r.use i with
      | .calibration _ _ => if r.usbIf.Processes i.env then some i.time else r.sync
      | _ => r.sync⟩,
    match r.use i with
      | .event ci tsLow => some (i.time,
          (r.usbIf.time.handedHigh (r.usbIf.devs ci).dev.timeSync tsLow).toNat * 2 ^ 32 +
            tsLow.toNat)
      | _ => none)

/-- Used calibration messages come in order, an event at most 10 ms before the last one
    and a period behind it. `base` is the window that the first one is taken for. -/
def ClockRun.Timely (base : Nat) (r : ClockRun n) (i : TimedRecord) : Prop :=
  match r.use i with
  | .calibration tsLow index => r.usbIf.Processes i.env →
      tsLow.toNat = i.time % 2 ^ 32 ∧ 0 ≤ index.toInt ∧
      (r.sync = none → CounterExtension.Tracks (2 ^ 32) (2 ^ 64) base
        ((r.usbIf.time.calibrated tsLow).tsHigh.toNat * 2 ^ 32) i.time) ∧
      ∀ s ∈ r.sync, s ≤ i.time ∧ i.time < s + 2 ^ 32
  | .event _ tsLow => tsLow.toNat = i.time % 2 ^ 32 ∧
      ∃ s ∈ r.sync, s ≤ i.time + 10000 ∧ i.time ≤ s + pcanUsbFdSyncPeriod.toNat
  | .none => True

/-- An event does not lie before a wrap that the last used calibration message lies
    behind. -/
def ClockRun.InWindow (r : ClockRun n) (i : TimedRecord) : Prop :=
  match r.use i with
  | .event _ _ => ∀ s ∈ r.sync, s / 2 ^ 32 ≤ i.time / 2 ^ 32
  | _ => True

structure ClockInv (base : Nat) (r : ClockRun n) : Prop where
  counting : r.usbIf.time.cmIgnoreCount = 0
  later : ∀ s ∈ r.sync, 0 ≤ r.usbIf.devFrameIndex
  low : ∀ s ∈ r.sync, r.usbIf.time.tsLow.toNat = s % 2 ^ 32
  tracks : ∀ s ∈ r.sync,
    CounterExtension.Tracks (2 ^ 32) (2 ^ 64) base (r.usbIf.time.tsHigh.toNat * 2 ^ 32) s
  based : r.usbIf.synced 0 → ∀ d, r.usbIf.synced d
  zero : ∀ s ∈ r.sync, ¬r.usbIf.synced 0 → r.usbIf.time.tsHigh = 0 ∧ r.usbIf.time.tsLow = 0

/-- Without a time base the high word is 0, so it makes no difference which is taken. -/
theorem ClockInv.handedHigh_eq {base s : Nat} {r : ClockRun n} (inv : ClockInv base r)
    (sync : s ∈ r.sync) (ci : Fin (n + 1)) (tsLow : U32) :
    r.usbIf.time.handedHigh (r.usbIf.devs ci).dev.timeSync tsLow = r.usbIf.time.highOf tsLow := by
  unfold UsbTime.handedHigh
  split
  · rfl
  next unsynced =>
    obtain ⟨high, low⟩ := inv.zero s sync fun synced => unsynced (inv.based synced ci)
    unfold UsbTime.highOf
    rw [low, high, if_neg]
    exact fun below => absurd below.1 (by simp [BitVec.lt_def])

theorem highOf_modEq (time : UsbTime) (tsLow : U32) :
    (time.highOf tsLow).toNat * 2 ^ 32 ≡ time.tsHigh.toNat * 2 ^ 32 +
      (if Crossing (2 ^ 32) pcanUsbFdSyncPeriod.toNat time.tsLow.toNat tsLow.toNat
        then 2 ^ 32 else 0) [MOD 2 ^ 64] := by
  unfold UsbTime.highOf
  simp only [crossing_bitVec]
  split
  · rw [BitVec.toNat_add, show (1 : U32).toNat = 1 from rfl]
    unfold Nat.ModEq
    omega
  · rw [Nat.add_zero]

theorem calibrated_modEq {time : UsbTime} (counting : time.cmIgnoreCount = 0) (tsLow : U32) :
    (time.calibrated tsLow).tsLow = tsLow ∧
      (time.calibrated tsLow).tsHigh.toNat * 2 ^ 32 ≡ time.tsHigh.toNat * 2 ^ 32 +
        (if tsLow.toNat < time.tsLow.toNat then 2 ^ 32 else 0) [MOD 2 ^ 64] := by
  have used : (if time.cmIgnoreCount < 0 then 0 else tsLow) = tsLow :=
    if_neg (by rw [counting]; decide)
  unfold UsbTime.calibrated
  simp only [used, BitVec.lt_def]
  refine ⟨trivial, ?_⟩
  split
  · rw [BitVec.toNat_add, show (1 : U32).toNat = 1 from rfl]
    unfold Nat.ModEq
    omega
  · rw [Nat.add_zero]

section Step
variable {base : Nat} {r : ClockRun n} {i : TimedRecord}

theorem ClockRun.step_right_iff (inv : ClockInv base r) (timely : r.Timely base i) :
    (∀ value ∈ (r.step i).2, value.2 + base * 2 ^ 32 ≡ value.1 [MOD 2 ^ 64]) ↔ r.InWindow i := by
  unfold ClockRun.Timely at timely
  unfold ClockRun.InWindow ClockRun.step
  cases use : r.use i with
  | calibration tsLow index => exact ⟨fun _ => trivial, fun _ => nofun⟩
  | none => exact ⟨fun _ => trivial, fun _ => nofun⟩
  | event ci tsLow =>
    simp only [use] at timely
    obtain ⟨low, s, sync, late, ahead⟩ := timely
    have period : pcanUsbFdSyncPeriod.toNat = 1000000 := by decide
    rw [period] at ahead
    have extended := (inv.tracks s sync).extended_iff (by decide) late (by omega)
      (by decide : 2 * 1000000 + 10000 ≤ 2 ^ 32) (by decide)
    rw [placed_iff_of_period (by decide) (by omega) ahead] at extended
    have high := highOf_modEq r.usbIf.time tsLow
    rw [inv.low s sync, low, period] at high
    have handed := (high.add_right (i.time % 2 ^ 32)).add_right (base * 2 ^ 32)
    simp only [Option.mem_some_iff, forall_eq', inv.handedHigh_eq sync, low]
    constructor
    · intro right s' sync'
      cases sync.symm.trans sync'
      exact extended.mp (handed.symm.trans right)
    · intro window
      exact handed.trans (extended.mpr (window s sync))

theorem ClockInv.sameClock {next : UsbInterface n} (inv : ClockInv base r)
    (same : SameClock r.usbIf next) : ClockInv base ⟨next, r.sync⟩ := by
  have synced : ∀ d, next.synced d ↔ r.usbIf.synced d := by
    intro d
    unfold UsbInterface.synced
    rw [same.sync d]
  constructor
  case counting => exact same.time ▸ inv.counting
  case later => exact same.devFrameIndex ▸ inv.later
  case low => exact same.time ▸ inv.low
  case tracks => exact same.time ▸ inv.tracks
  case based => exact fun first d => (synced d).mpr (inv.based ((synced 0).mp first) d)
  case zero => exact fun s sync first => same.time ▸ inv.zero s sync (mt (synced 0).mpr first)

theorem ClockInv.unprocessed {tsLow index : U32} (inv : ClockInv base r)
    (unprocessed : ¬r.usbIf.Processes i.env) :
    ClockInv base ⟨(pcanUsbproHandleCalibration i.env r.usbIf tsLow index).1, r.sync⟩ := by
  obtain ⟨devs, counting, kept⟩ :=
    @calibration_unprocessed _ r.usbIf i.env tsLow index inv.counting unprocessed
  generalize (pcanUsbproHandleCalibration i.env r.usbIf tsLow index).1 = next at *
  have clock : ∀ s ∈ r.sync, SameClock r.usbIf next := fun s sync =>
    ⟨(kept (inv.later s sync)).1, (kept (inv.later s sync)).2, fun d => by rw [devs]⟩
  constructor
  case counting => exact counting
  case later => exact fun s sync => (inv.sameClock (clock s sync)).later s sync
  case low => exact fun s sync => (inv.sameClock (clock s sync)).low s sync
  case tracks => exact fun s sync => (inv.sameClock (clock s sync)).tracks s sync
  case based =>
    unfold UsbInterface.synced
    rw [devs]
    exact inv.based
  case zero => exact fun s sync => (inv.sameClock (clock s sync)).zero s sync

theorem ClockInv.processed {tsLow index : U32} (inv : ClockInv base r)
    (processed : r.usbIf.Processes i.env) (low : tsLow.toNat = i.time % 2 ^ 32)
    (counter : 0 ≤ index.toInt)
    (first : r.sync = none → CounterExtension.Tracks (2 ^ 32) (2 ^ 64) base
      ((r.usbIf.time.calibrated tsLow).tsHigh.toNat * 2 ^ 32) i.time)
    (order : ∀ s ∈ r.sync, s ≤ i.time ∧ i.time < s + 2 ^ 32) :
    ClockInv base ⟨(pcanUsbproHandleCalibration i.env r.usbIf tsLow index).1, some i.time⟩ := by
  obtain ⟨time, later, bases⟩ :=
    @calibration_processed _ r.usbIf i.env tsLow index inv.counting processed
  obtain ⟨lowWord, highWord⟩ := calibrated_modEq inv.counting tsLow
  generalize (pcanUsbproHandleCalibration i.env r.usbIf tsLow index).1 = next at *
  constructor
  case counting => exact time ▸ inv.counting
  case later => exact fun _ _ => later ▸ counter
  case low =>
    rintro _ ⟨⟩
    simp only [time, lowWord]
    exact low
  case tracks =>
    rintro _ ⟨⟩
    simp only [time]
    cases before : r.sync with
    | none => exact first before
    | some s =>
      have tracks := (inv.tracks s before).next (by decide) (order s before).1 (order s before).2
      rw [low, inv.low s before] at highWord
      exact tracks.congr highWord
  case based =>
    rcases bases with value | ⟨devs, synced⟩
    · intro zero d
      unfold UsbInterface.synced at zero ⊢
      rwa [value d, ← value 0]
    · unfold UsbInterface.synced
      rw [devs]
      exact inv.based
  case zero =>
    rintro _ ⟨⟩ unsynced
    rcases bases with value | ⟨devs, synced⟩
    · have none_ := not_not.mp unsynced
      rw [value 0] at none_
      constructor
      · exact BitVec.eq_of_toNat_eq (by simp; omega)
      · exact BitVec.eq_of_toNat_eq (by simp; omega)
    · unfold UsbInterface.synced at unsynced
      rw [devs] at unsynced
      exact absurd synced unsynced

theorem ClockRun.step_inv (inv : ClockInv base r) (timely : r.Timely base i) :
    ClockInv base (r.step i).1 := by
  unfold ClockRun.Timely at timely
  unfold ClockRun.step
  cases use : r.use i with
  | calibration tsLow index =>
    simp only [use] at timely ⊢
    rw [DeviceRecord.handle_calibration use]
    by_cases processed : r.usbIf.Processes i.env
    · obtain ⟨low, counter, first, order⟩ := timely processed
      rw [if_pos processed]
      exact inv.processed processed low counter first order
    · rw [if_neg processed]
      exact inv.unprocessed processed
  | event | none =>
    exact inv.sameClock (DeviceRecord.sameClock inv.counting i.env i.record fun _ _ other =>
      nomatch use.symm.trans other)

end Step

/-- Over every run of records the 64 bits handed on for an event are its time exactly if
    no event lies before a wrap that the last used calibration message lies behind. -/
theorem usbpro_clock_iff {base : Nat} {usbIf : UsbInterface n} {inputs : List TimedRecord}
    (counting : usbIf.time.cmIgnoreCount = 0)
    (based : usbIf.synced 0 → ∀ d, usbIf.synced d)
    (timely : Admitted (ClockRun.Timely base) ClockRun.step ⟨usbIf, none⟩ inputs) :
    (∀ output ∈ (run ClockRun.step ⟨usbIf, none⟩ inputs).2, ∀ value ∈ output,
        value.2 + base * 2 ^ 32 ≡ value.1 [MOD 2 ^ 64]) ↔
      Admitted ClockRun.InWindow ClockRun.step ⟨usbIf, none⟩ inputs :=
  outputs_iff_admitted (fun _ _ inv timely _ => ClockRun.step_inv inv timely)
    (fun _ _ => ClockRun.step_right_iff)
    ⟨counting, nofun, nofun, nofun, based, nofun⟩ timely

section Samples

/-- A USB-Pro record with the byte `low k` of its timestamp at `offset + k`. -/
def usbproRecordAt (dataType : U8) (offset : Nat) (low : List U8) (time : Nat) : TimedRecord :=
  ⟨sampleEnv, .usbpro fun k => if k = 0 then dataType else
    if k < offset then 0 else low.getD (k - offset) 0, time⟩

def calibrationAt (low : List U8) (time : Nat) : TimedRecord :=
  usbproRecordAt dataTypeCalibrationTimestampRx 8 low time

def frameStampedAt (low : List U8) (time : Nat) : TimedRecord :=
  usbproRecordAt dataTypeCanmsgRx0 4 low time

/-- 2³² - 900000, 2³² - 500000, 2³² + 5000 and so on. -/
def wrapCalibrations : List TimedRecord :=
  [calibrationAt [0, 0, 0, 0] 0, calibrationAt [0x60, 0x44, 0xf2, 0xff] (2 ^ 32 - 900000)]

def crossingFrame : List TimedRecord :=
  wrapCalibrations ++ [frameStampedAt [0xa0, 0x86, 0x01, 0x00] (2 ^ 32 + 100000)]

/-- The second frame has come 6 ms before the calibration message that it is decoded
    behind, and before the wrap. -/
def lateAcrossCalibration : List TimedRecord :=
  wrapCalibrations ++ [frameStampedAt [0x00, 0xcb, 0xf3, 0xff] (2 ^ 32 - 800000),
    calibrationAt [0x88, 0x13, 0x00, 0x00] (2 ^ 32 + 5000),
    frameStampedAt [0x18, 0xfc, 0xff, 0xff] (2 ^ 32 - 1000)]

theorem sampleInterface_unsynced : ¬sampleInterface.synced 0 := fun synced => synced rfl

theorem crossingFrame_timely : Admitted (ClockRun.Timely 0) ClockRun.step
    (⟨sampleInterface, none⟩ : ClockRun 1) crossingFrame := by
  refine ⟨fun first => absurd first.2 (by decide), fun _ => ⟨?_, ?_, fun _ => ?_, nofun⟩,
    ⟨?_, 2 ^ 32 - 900000, ?_, ?_, ?_⟩, trivial⟩
  all_goals decide +kernel

theorem crossingFrame_inWindow : Admitted ClockRun.InWindow ClockRun.step
    (⟨sampleInterface, none⟩ : ClockRun 1) crossingFrame := by
  refine ⟨trivial, trivial, ?_, trivial⟩
  rintro _ ⟨⟩
  decide +kernel

theorem lateAcrossCalibration_timely : Admitted (ClockRun.Timely 0) ClockRun.step
    (⟨sampleInterface, none⟩ : ClockRun 1) lateAcrossCalibration := by
  refine ⟨fun first => absurd first.2 (by decide), fun _ => ⟨?_, ?_, fun _ => ?_, nofun⟩,
    ⟨?_, 2 ^ 32 - 900000, ?_, ?_, ?_⟩, fun _ => ⟨?_, ?_, nofun, ?_⟩,
    ⟨?_, 2 ^ 32 + 5000, ?_, ?_, ?_⟩, trivial⟩
  case refine_10 =>
    rintro _ ⟨⟩
    decide +kernel
  all_goals decide +kernel

theorem lateAcrossCalibration_outputs :
    (run ClockRun.step (⟨sampleInterface, none⟩ : ClockRun 1) lateAcrossCalibration).2 =
      [none, none, some (4294167296, 4294167296), none, some (4294966296, 8589933592)] := by
  decide +kernel

theorem usbpro_clock_across_wrap :
    Admitted ClockRun.InWindow ClockRun.step (⟨sampleInterface, none⟩ : ClockRun 1) crossingFrame ∧
      ∀ output ∈ (run ClockRun.step (⟨sampleInterface, none⟩ : ClockRun 1) crossingFrame).2,
        ∀ value ∈ output, value.2 + 0 * 2 ^ 32 ≡ value.1 [MOD 2 ^ 64] :=
  ⟨crossingFrame_inWindow, (usbpro_clock_iff rfl
    (fun synced => absurd synced sampleInterface_unsynced)
    crossingFrame_timely).mpr crossingFrame_inWindow⟩

/-- No number of whole wraps makes both frames right. -/
theorem late_event_has_no_constant :
    ¬∀ (base : Nat) (usbIf : UsbInterface 1) (inputs : List TimedRecord),
      usbIf.time.cmIgnoreCount = 0 → (usbIf.synced 0 → ∀ d, usbIf.synced d) →
      Admitted (ClockRun.Timely base) ClockRun.step ⟨usbIf, none⟩ inputs →
      ∃ k, ∀ output ∈ (run ClockRun.step ⟨usbIf, none⟩ inputs).2, ∀ value ∈ output,
        value.2 + k * 2 ^ 32 ≡ value.1 [MOD 2 ^ 64] := by
  intro claim
  obtain ⟨k, right⟩ := claim 0 sampleInterface lateAcrossCalibration rfl
    (fun synced => absurd synced sampleInterface_unsynced) lateAcrossCalibration_timely
  rw [lateAcrossCalibration_outputs] at right
  have before := right (some (4294167296, 4294167296)) (by simp) _ rfl
  have late := right (some (4294966296, 8589933592)) (by simp) _ rfl
  simp only [Nat.ModEq] at before late
  omega

end Samples

end Runs

section Offsets

/-- The offset that a calibration message passes to `pcan_sync_times`, when it comes so far. -/
def calibrationOffset (env : DecodeEnv) (usbIf : UsbInterface n) (devFrameIndex : U32) :
    Option Int :=
  if env.frameNumber < 0 then none
  else if usbIf.time.cmIgnoreCount > 0 then none
  else if usbIf.devFrameIndex < 0 then none
  else some (frameIndexOffset devFrameIndex env.frameNumber)

variable {env : DecodeEnv} {usbIf : UsbInterface n} {tsLow index : U32} {dfi : Int}

theorem calibration_passes (passed : calibrationOffset env usbIf index = some dfi) :
    (pcanUsbproHandleCalibration env usbIf tsLow index).1.devs =
      syncChannels env { usbIf with time := usbIf.time.calibrated tsLow } dfi := by
  unfold calibrationOffset at passed
  unfold pcanUsbproHandleCalibration
  split at passed
  · cases passed
  next counted =>
    split at passed
    · cases passed
    next kept =>
      split at passed
      · cases passed
      next later =>
        rw [if_neg counted]
        simp only
        rw [if_neg kept, if_neg later, ← Option.some.inj passed]
        rfl

theorem calibration_keeps (passed : calibrationOffset env usbIf index = none) :
    (pcanUsbproHandleCalibration env usbIf tsLow index).1.devs = usbIf.devs := by
  unfold calibrationOffset at passed
  unfold pcanUsbproHandleCalibration
  split at passed
  next uncounted => rw [if_pos uncounted]
  next counted =>
    rw [if_neg counted]
    simp only
    split at passed
    next ignored => rw [if_pos ignored]
    next kept =>
      rw [if_neg kept]
      split at passed
      next first => rw [if_pos first]
      next later => cases passed

/-- Of the frames of device and bus the offset knows the place within their 1024 only. -/
theorem calibrationOffset_eq (passed : calibrationOffset env usbIf index = some dfi) {D B : Nat}
    (dev : index.toNat % 1024 = D % 1024) (bus : env.frameNumber % 1024 = B % 1024) :
    dfi = ((D : Int) - B) * 1000 + ((B / 1024 : Nat) - (D / 1024 : Nat) : Int) * 1024000 := by
  have computed : dfi = frameIndexOffset index env.frameNumber := by
    unfold calibrationOffset at passed
    split at passed
    · cases passed
    · split at passed
      · cases passed
      · split at passed
        · cases passed
        · exact (Option.some.inj passed).symm
  have places : frameIndexOffset index env.frameNumber =
      (((D % 1024 : Nat) : Int) - (B : Int) % 1024) * 1000 := by
    rw [← dev, ← bus]
    rfl
  rw [computed, places]
  omega

/-- Device and bus, counted without wraps, give the offset just when no wrap lies between them. -/
theorem frame_offset_iff (env : DecodeEnv) (usbIf : UsbInterface n) (index : U32) (dfi : Int)
    (D B : Nat) (dev : index.toNat % 1024 = D % 1024) (bus : env.frameNumber % 1024 = B % 1024)
    (passed : calibrationOffset env usbIf index = some dfi) :
    dfi = ((D : Int) - B) * 1000 ↔ D / 1024 = B / 1024 := by
  rw [calibrationOffset_eq passed dev bus]
  omega

/-- A message that has been stamped before a wrap and is handled soon behind it: the time base
    gets no correction at all. -/
theorem straddling_uncorrected (passed : calibrationOffset env usbIf index = some dfi) {D B : Nat}
    (dev : index.toNat % 1024 = D % 1024) (bus : env.frameNumber % 1024 = B % 1024)
    (soon : B < D + 512) (wrapped : D / 1024 < B / 1024) :
    (pcanUsbproHandleCalibration env usbIf tsLow index).1.devs =
      syncChannels env { usbIf with time := usbIf.time.calibrated tsLow } 0 := by
  have offset := calibrationOffset_eq passed dev bus
  have unused : ¬dfi < 0 := by omega
  rw [calibration_passes passed]
  unfold syncChannels
  simp only [TimeSync.next, unused, Int.lt_irrefl, if_false]

/-- The third calibration message of an interface, at frame 1030 of the bus. -/
def frame1030 : DecodeEnv := { sampleEnv with frameNumber := 1030 }

def countingInterface : UsbInterface 1 := { sampleInterface with devFrameIndex := 1 }

theorem same_thousand : (1028#32).toNat % 1024 = 1028 % 1024 ∧
    ((-2000 : Int) = ((1028 : Nat) - (1030 : Nat) : Int) * 1000 ↔ 1028 / 1024 = 1030 / 1024) :=
  ⟨by decide, frame_offset_iff frame1030 countingInterface 1028 (-2000) 1028 1030 (by decide)
    (by decide) (by decide)⟩

/-- Stamped seven frames before, the message is taken as one of 1017 frames behind. -/
theorem stamped_before_wrap : ¬∀ (env : DecodeEnv) (usbIf : UsbInterface 1) (index : U32)
    (dfi : Int) (D B : Nat), index.toNat % 1024 = D % 1024 → env.frameNumber % 1024 = B % 1024 →
    D ≤ B → B < D + 512 → calibrationOffset env usbIf index = some dfi →
    dfi = ((D : Int) - B) * 1000 := by
  intro every
  have same := every frame1030 countingInterface 1023 1017000 1023 1030 (by decide) (by decide)
    (by decide) (by decide) (by decide)
  exact absurd same (by decide)

end Offsets

end PcanDriver

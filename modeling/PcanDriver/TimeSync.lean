import PcanDriver.Device

/-!
Hardware clocks. `pcan_sync_times` (`pcan_main.c`) relates a counter of the device
to host time and follows its drift; a record's timestamp is kept together with that
relation until it is read. USB Pro and USB FD devices count in 32 bits and share one
high word per interface (`pcan_usbpro.c`).
-/
namespace PcanDriver
variable {P : Type}

def pcanClockDriftScaleShift : Nat := 17

/-- Host and device time since the synchronisation has started, and the quotient of
    both. It starts again when host time needs more than 32 bits. -/
def TimeSync.advanced (sync : TimeSync) (tv : Timeval) (tsUs : Nat) (dtvUs dtsUs : Int) :
    TimeSync :=
  let ttvUs := (sync.ttvUs + dtvUs.toNat) % 2 ^ 64
  let ttsUs := (sync.ttsUs + dtsUs.toNat) % 2 ^ 64
  if ttvUs = 0 then ⟨tv, tsUs, ttvUs, ttsUs, sync.clockDrift, sync.tsFixed⟩
  else if ttvUs ≤ 0xffffffff then
    let d := ttsUs * 2 ^ pcanClockDriftScaleShift % 2 ^ 64
    ⟨tv, tsUs, ttvUs, ttsUs, ((d + ttvUs - 1) % 2 ^ 64 / ttvUs : Nat), sync.tsFixed⟩
  else ⟨tv, tsUs, dtvUs.toNat, dtsUs.toNat, sync.clockDrift, sync.tsFixed⟩

theorem TimeSync.advanced_tsUs (sync : TimeSync) (tv : Timeval) (tsUs : Nat) (dtvUs dtsUs : Int) :
    (sync.advanced tv tsUs dtvUs dtsUs).tsUs = tsUs := by
  unfold TimeSync.advanced
  simp only
  split
  · rfl
  · split <;> rfl

/-- `tvOff` is subtracted from host time when it is negative. The result tells
    whether the time base has changed. -/
def TimeSync.next (host : Host) (sync : TimeSync) (tsLow tsHigh : U32) (tvOff : Int) :
    TimeSync × Bool :=
  let tsUs := tsHigh.toNat * 2 ^ 32 + tsLow.toNat
  let tv := if tvOff < 0 then timevalAddUs host.now tvOff else host.now
  if sync.tsUs = 0 then (⟨tv, tsUs, 0, 0, 0, 0⟩, true)
  else
    let dtvUs := timevalDiff host.now sync.tv
    let dtsUs := Int.bmod ((tsUs : Int) - sync.tsUs) (2 ^ 64)
    let offUs := if tvOff < 0 then dtvUs + tvOff else dtvUs
    if dtvUs < usecPerSec then (sync, false)
    else if dtsUs < 0 then (sync, false)
    else if offUs ≤ 0 then (sync, false)
    else (sync.advanced tv tsUs offUs dtsUs, true)

def pcanSyncTimes (host : Host) (dev : Pcandev P) (tsLow tsHigh : U32) (tvOff : Int) :
    Pcandev P × Bool :=
  let next := dev.timeSync.next host tsLow tsHigh tvOff
  ({ dev with timeSync := next.1 }, next.2)

/-- Without a time base a message gets host time when it is posted. -/
def pcanSyncDecode (dev : Pcandev P) (tsLow tsHigh : U32) : Option PcanTimeval :=
  if dev.timeSync.tsUs ≠ 0 ∧ dev.tsMode ≠ .off then
    some ⟨dev.timeSync.tv, dev.timeSync.tsUs, tsHigh.toNat * 2 ^ 32 + tsLow.toNat, dev.tsMode,
      dev.timeSync.clockDrift⟩
  else none

/-- What the channels of one USB interface share of the time: the words of the last
    calibration message, and whether such messages are ignored. -/
structure UsbTime where
  tsLow : U32
  tsHigh : U32
  cmIgnoreCount : Int
deriving Repr, DecidableEq, Inhabited

def pcanUsbFdSyncPeriod : U32 := 1000000

/-- A small counter below the one of the last calibration has wrapped, if the next
    calibration would wrap too. -/
def UsbTime.highOf (time : UsbTime) (tsLow : U32) : U32 :=
  if tsLow < time.tsLow ∧ tsLow < pcanUsbFdSyncPeriod ∧
      time.tsLow + pcanUsbFdSyncPeriod < time.tsLow then time.tsHigh + 1
  else time.tsHigh

/-- The `ts_high` that is handed to `pcan_sync_decode`. -/
def UsbTime.handedHigh (time : UsbTime) (sync : TimeSync) (tsLow : U32) : U32 :=
  if sync.tsUs ≠ 0 then time.highOf tsLow else 0

def pcanUsbproTimestampDecode (host : Host) (time : UsbTime) (dev : Pcandev P) (tsLow : U32) :
    Pcandev P × Option PcanTimeval :=
  let tsHigh := time.handedHigh dev.timeSync tsLow
  let dev :=
    if time.cmIgnoreCount < 0 ∧ dev.timeSync.tsUs = 0 then
      (pcanSyncTimes host dev tsLow tsHigh 0).1
    else dev
  (dev, pcanSyncDecode dev tsLow tsHigh)

/-- Decoding a timestamp can only start the synchronisation. -/
def UsbTime.decodedSync (host : Host) (time : UsbTime) (sync : TimeSync) (tsLow : U32) : TimeSync :=
  if time.cmIgnoreCount < 0 ∧ sync.tsUs = 0 then (sync.next host tsLow 0 0).1 else sync

theorem pcanUsbproTimestampDecode_sync (host : Host) (time : UsbTime) (dev : Pcandev P)
    (tsLow : U32) : (pcanUsbproTimestampDecode host time dev tsLow).1 =
      { dev with timeSync := time.decodedSync host dev.timeSync tsLow } := by
  unfold pcanUsbproTimestampDecode UsbTime.handedHigh UsbTime.decodedSync
  simp only
  split
  next starts =>
    rw [if_neg (not_not.mpr starts.2)]
    rfl
  next => rfl

end PcanDriver

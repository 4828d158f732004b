import PcanDriver.Lib.CounterExtension
import PcanDriver.Lib.Masks
import PcanDriver.Lib.StepSystem
import PcanDriver.PcanUsbDecode
import PcanDriver.TxSide

/-!
The time of a PCAN-USB adapter (`pcan_usb.c`). The adapter counts ticks of 42.667 µs
and reports 16 bits of them, or 8 bits behind the first stamp of a packet; the driver
counts the wraps, which it sees at the synchronisation records. Here an unbounded
counter stands behind the reported bits.
-/
namespace PcanDriver
open CounterExtension StepSystem

section Counts

def UsbRecord.ticks : UsbRecord → Option UsbTicks
  | .canMsg _ _ _ ticks _ => some ticks
  | .internal _ ticks _ => ticks

def UsbRecord.syncTicks : UsbRecord → Option U16
  | .internal _ _ (.onlyTimestamp ticks) => some ticks
  | _ => none

def PcanUsbTime.wordOf (t : PcanUsbTime) : UsbTicks → U16
  | .word ticks => ticks
  | .byte ticks8 =>
    let hsb : U8 := (t.ticks16 >>> 8).setWidth 8
    (if ticks8 < t.ticks16.setWidth 8 then hsb + 1 else hsb) ++ ticks8

def PcanUsbTime.ticksCount (t : PcanUsbTime) (ticks : U16) : U32 :=
  (if t.wrapped ticks then t.syncTicksHigh + 0x10000 else t.syncTicksHigh) + ticks.setWidth 32

/-- The count that a stamp is converted from, if it is converted. -/
def PcanUsbTime.converted (t : PcanUsbTime) (ticks : UsbTicks) : Option U32 :=
  if t.syncTicksInit = 0 then none else some (t.ticksCount (t.wordOf ticks))

def PcanUsbTime.stamped (t : PcanUsbTime) (ticks : UsbTicks) : PcanUsbTime :=
  if t.syncTicksInit = 0 then t else { t with ticks16 := t.wordOf ticks }

def PcanUsbTime.synced (t : PcanUsbTime) (ticks : U16) : PcanUsbTime :=
  if t.syncTicksInit = 0 then
    { t with syncTicksInit := ticks, ticks16 := ticks, syncTicksLow := ticks }
  else
    { t with
      syncTicksLow := ticks
      syncTicksHigh := t.syncTicksHigh + if ticks < t.syncTicksLow then 0x10000 else 0 }

/-- What a record does to the time of the adapter. -/
def PcanUsbTime.after (t : PcanUsbTime) (record : UsbRecord) : PcanUsbTime :=
  let t := record.ticks.elim t t.stamped
  record.syncTicks.elim t t.synced

theorem PcanUsb.stamp_eq (usb : PcanUsb) (host : Host) (ticks : UsbTicks) (hwtv : PcanTimeval) :
    usb.stamp host ticks hwtv = ({ usb with time := usb.time.stamped ticks },
      (usb.time.converted ticks).elim hwtv fun count =>
        syncDecodeInto host usb.channel.dev (pcanTicksToTs count) hwtv) := by
  unfold PcanUsb.stamp PcanUsbTime.stamped PcanUsbTime.converted
  cases ticks with
  | word ticks =>
    simp only [pcanUpdateTimeStampFromWord]
    split <;> rfl
  | byte ticks8 =>
    simp only [pcanUpdateTimeStampFromByte, pcanUpdateTimeStampFromWord]
    split <;> rfl

theorem PcanUsb.stampIf_time (usb : PcanUsb) (host : Host) (ticks : Option UsbTicks)
    (hwtv : PcanTimeval) :
    (usb.stampIf host ticks hwtv).1.time = ticks.elim usb.time usb.time.stamped := by
  cases ticks with
  | none => rfl
  | some ticks =>
    rw [PcanUsb.stampIf, usb.stamp_eq]
    rfl

theorem pcanUsbSyncTimes_time {P : Type} (host : Host) (dev : Pcandev P) (t : PcanUsbTime)
    (ticks : U16) : (pcanUsbSyncTimes host dev t ticks).2 = t.synced ticks := by
  unfold pcanUsbSyncTimes PcanUsbTime.synced
  simp only
  by_cases uninitialised : t.syncTicksInit = 0
  · rw [if_neg (not_not.mpr uninitialised), if_pos uninitialised]
  · rw [if_pos uninitialised, if_neg uninitialised]
    by_cases wraps : ticks < t.syncTicksLow
    · rw [if_pos wraps, if_pos wraps]
    · simp only [if_neg wraps]
      rw [show (0 : U32) = 0#32 from rfl, BitVec.add_zero]

theorem handleInternal_time (env : DecodeEnv) (usb : PcanUsb) (rx : PcanfdRxmsg)
    (ucStatusLen : U8) (ticks : Option UsbTicks) (function : UsbFunction) :
    (handleInternal env usb rx function).usb.time =
      (UsbRecord.internal ucStatusLen ticks function).syncTicks.elim usb.time usb.time.synced := by
  unfold handleInternal
  cases function with
  | onlyTimestamp sync =>
    have handled : (handleFunction env usb rx (.onlyTimestamp sync)).1.time =
        usb.time.synced sync := by
      simp only [handleFunction]
      split <;> exact pcanUsbSyncTimes_time env.host usb.channel.dev usb.time sync
    simp only [reduceCtorEq, if_false]
    split <;> exact handled
  | unexpected => rfl
  | status | analogValue | busLoad | errorFrame | prepared =>
    simp only [reduceCtorEq, if_false]
    split <;> rfl

theorem handleRecord_time (env : DecodeEnv) (usb : PcanUsb) (record : UsbRecord) :
    (handleRecord env usb record).usb.time = usb.time.after record := by
  cases record with
  | canMsg ucStatusLen slf id ticks data =>
    simp only [handleRecord]
    rw [usb.stamp_eq]
    rfl
  | internal ucStatusLen ticks function =>
    simp only [handleRecord]
    rw [handleInternal_time env _ _ ucStatusLen ticks, usb.stampIf_time]
    rfl

theorem decodeRecords_time (ucRevision : Nat) (env : Nat → DecodeEnv) (mem : Nat → U8)
    (lCurrentLength count i ptr : Nat) (ts8 : Bool) (usb : PcanUsb) :
    let packet := decodeRecords ucRevision env mem lCurrentLength count i ptr ts8 usb
    packet.usb.time = (packet.records.map fun place =>
      (parseRecord ucRevision mem place.1 place.2).record).foldl PcanUsbTime.after usb.time := by
  induction count generalizing i ptr ts8 usb with
  | zero => rfl
  | succ count ih =>
    simp only [decodeRecords]
    split
    · exact handleRecord_time _ _ _
    · split
      · exact handleRecord_time _ _ _
      · simp only [List.map_cons, List.foldl_cons]
        rw [← handleRecord_time (env i)]
        exact ih _ _ _ _

end Counts

section Ticks

/-- The counter of the adapter: the last stamp and whether the packet has had one, the
    value that `ticks16` goes back to, and the last synchronisation. -/
structure TrueTicks where
  ts8 : Bool
  lastStamp : Nat
  base : Nat
  sync : Option Nat
deriving Repr, DecidableEq

/-- `ts8` tells that the packet has had a stamp. -/
def ReportsTick (ts8 : Bool) (tick : Nat) : UsbTicks → Prop
  | .word ticks => ts8 = false ∧ ticks.toNat = tick % 2 ^ 16
  | .byte ticks8 => ts8 = true ∧ ticks8.toNat = tick % 2 ^ 8

/-- About 1.050 s. -/
def syncSpacing : Nat := 24610

/-- An event comes at most 1000 ticks before the last synchronisation, and less than 256
    behind the event before it in the packet. -/
def TimelyStamp (g : TrueTicks) (tick : Nat) (ticks : UsbTicks) : Prop :=
  ReportsTick g.ts8 tick ticks ∧
    (g.ts8 = true → g.lastStamp ≤ tick ∧ tick < g.lastStamp + 256) ∧
    ∃ s ∈ g.sync, s ≤ tick + 1000 ∧ tick ≤ s + syncSpacing

def TimelySync (first : Nat) (g : TrueTicks) (tick : Nat) (ticks : U16) : Prop :=
  ticks.toNat = tick % 2 ^ 16 ∧ (g.sync = none → tick = first) ∧
    ∀ s ∈ g.sync, s ≤ tick ∧ tick ≤ s + syncSpacing

def TrueTicks.stamp (g : TrueTicks) (t : PcanUsbTime) (tick : Nat) : TrueTicks :=
  { g with
    ts8 := true
    lastStamp := tick
    base := if t.syncTicksInit = 0 then g.base else tick }

def TrueTicks.synchronise (g : TrueTicks) (t : PcanUsbTime) (tick : Nat) : TrueTicks :=
  { g with
    base := if t.syncTicksInit = 0 then tick else g.base
    sync := some tick }

/-- The count is the tick, counted from the window of the first synchronisation on. -/
def RightCount (first tick : Nat) (count : Option U32) : Prop :=
  ∃ c ∈ count, c.toNat + first / 2 ^ 16 * 2 ^ 16 ≡ tick [MOD 2 ^ 32]

/-- The driver has a base, the last stamp is the one before or close to it, and the
    event is in the window of the last synchronisation or visibly in the next one. -/
def ConvertibleStamp (t : PcanUsbTime) (g : TrueTicks) (tick : Nat) : Prop :=
  t.syncTicksInit ≠ 0 ∧ (g.ts8 = true → g.base ≤ tick ∧ tick < g.base + 256) ∧
    ∃ s ∈ g.sync, Placed (2 ^ 16) pcanUsbSyncPeriodTick.toNat s tick

structure TickInv (first : Nat) (t : PcanUsbTime) (g : TrueTicks) : Prop where
  unsynced : g.sync = none → t.syncTicksInit = 0 ∧ g.ts8 = false
  uninitialised : t.syncTicksInit = 0 → t.syncTicksHigh = 0 ∧ ∀ s ∈ g.sync, s % 2 ^ 16 = 0
  low : ∀ s ∈ g.sync, t.syncTicksLow.toNat = s % 2 ^ 16
  tracks : ∀ s ∈ g.sync,
    CounterExtension.Tracks (2 ^ 16) (2 ^ 32) (first / 2 ^ 16) t.syncTicksHigh.toNat s
  base : t.syncTicksInit ≠ 0 → t.ticks16.toNat = g.base % 2 ^ 16
  reach : g.ts8 = true → ∀ s ∈ g.sync, g.lastStamp ≤ s + syncSpacing
  between : g.ts8 = true → t.syncTicksInit ≠ 0 → g.base = g.lastStamp ∨
    (g.lastStamp ≤ g.base + syncSpacing ∧ ∀ s ∈ g.sync, g.base ≤ s)

theorem wordOf_byte_toNat (t : PcanUsbTime) (ticks8 : U8) :
    (t.wordOf (.byte ticks8)).toNat =
      (t.ticks16.toNat / 256 + if ticks8.toNat < t.ticks16.toNat % 256 then 1 else 0) % 256 * 256 +
        ticks8.toNat := by
  have high : (t.ticks16 >>> 8).toNat = t.ticks16.toNat / 256 := by
    rw [BitVec.toNat_ushiftRight, Nat.shiftRight_eq_div_pow]
  have low : (t.ticks16.setWidth 8).toNat = t.ticks16.toNat % 256 := BitVec.toNat_setWidth ..
  have bound := t.ticks16.isLt
  have bound8 := ticks8.isLt
  have carried : (if ticks8.toNat < t.ticks16.toNat % 256 then (t.ticks16 >>> 8).setWidth 8 + 1
      else (t.ticks16 >>> 8).setWidth 8 : U8).toNat =
      (t.ticks16.toNat / 256 + if ticks8.toNat < t.ticks16.toNat % 256 then 1 else 0) % 256 := by
    split
    · rw [BitVec.toNat_add, BitVec.toNat_setWidth, high]
      simp
    · rw [BitVec.toNat_setWidth, high, Nat.add_zero]
  simp only [PcanUsbTime.wordOf, BitVec.lt_def, low]
  rw [Masks.toNat_append, ← carried]
  rfl

theorem wrapped_iff (t : PcanUsbTime) (ticks : U16) : t.wrapped ticks = true ↔
    Crossing (2 ^ 16) pcanUsbSyncPeriodTick.toNat t.syncTicksLow.toNat ticks.toNat := by
  rw [← crossing_bitVec]
  unfold PcanUsbTime.wrapped
  simp only [Bool.and_eq_true, decide_eq_true_eq, and_assoc]

/-- The addition in `ticks_count` may wrap, which the modulus allows for. -/
theorem ticksCount_modEq (t : PcanUsbTime) (ticks : U16) :
    (t.ticksCount ticks).toNat ≡ t.syncTicksHigh.toNat +
      (if Crossing (2 ^ 16) pcanUsbSyncPeriodTick.toNat t.syncTicksLow.toNat ticks.toNat
        then 2 ^ 16 else 0) + ticks.toNat [MOD 2 ^ 32] := by
  have word : (ticks.setWidth 32).toNat = ticks.toNat :=
    BitVec.toNat_setWidth_of_le (by decide)
  unfold PcanUsbTime.ticksCount
  by_cases wraps : t.wrapped ticks = true
  · rw [if_pos wraps, if_pos ((wrapped_iff t ticks).mp wraps), BitVec.toNat_add,
      BitVec.toNat_add, word, show (0x10000 : U32).toNat = 2 ^ 16 from rfl]
    exact (Nat.mod_modEq _ _).trans ((Nat.mod_modEq _ _).add_right _)
  · rw [if_neg wraps, if_neg (mt (wrapped_iff t ticks).mpr wraps), BitVec.toNat_add, word,
      Nat.add_zero]
    exact Nat.mod_modEq _ _

/-- The high part counts windows only, so the low bits of a right count are right. -/
theorem ticksCount_low {first s tick : Nat} {t : PcanUsbTime} {ticks : U16}
    (tracks : CounterExtension.Tracks (2 ^ 16) (2 ^ 32) (first / 2 ^ 16) t.syncTicksHigh.toNat s)
    (same : (t.ticksCount ticks).toNat + first / 2 ^ 16 * 2 ^ 16 ≡ tick [MOD 2 ^ 32]) :
    ticks.toNat = tick % 2 ^ 16 := by
  have count := ticksCount_modEq t ticks
  have bound := ticks.isLt
  unfold CounterExtension.Tracks Nat.ModEq at *
  split at count <;> omega

section Inv
variable {first tick : Nat} {t : PcanUsbTime} {g : TrueTicks}

/-- The bits that are not reported are the ones of `ticks16`, or follow them. -/
theorem TickInv.word_iff {ticks : UsbTicks} (inv : TickInv first t g)
    (initialised : t.syncTicksInit ≠ 0) (timely : TimelyStamp g tick ticks) :
    (t.wordOf ticks).toNat = tick % 2 ^ 16 ↔
      (g.ts8 = true → g.base ≤ tick ∧ tick < g.base + 256) := by
  obtain ⟨reported, gap, s, sync, late, ahead⟩ := timely
  cases ticks with
  | word ticks =>
    obtain ⟨starts, word⟩ := reported
    rw [starts]
    exact ⟨fun _ another => absurd another Bool.false_ne_true, fun _ => word⟩
  | byte ticks8 =>
    obtain ⟨follows, byte⟩ := reported
    have base := inv.base initialised
    have close : g.base ≤ tick + 1000 ∧ tick < g.base + syncSpacing + 256 := by
      have step := gap follows
      rcases inv.between follows initialised with same | ⟨reach, behind⟩
      · omega
      · have := behind s sync
        omega
    rw [wordOf_byte_toNat, byte, base]
    simp only [follows, true_implies]
    unfold syncSpacing at close
    split <;> omega

theorem TickInv.rightCount_iff {ticks : UsbTicks} (inv : TickInv first t g)
    (timely : TimelyStamp g tick ticks) :
    RightCount first tick (t.converted ticks) ↔ ConvertibleStamp t g tick := by
  unfold RightCount PcanUsbTime.converted ConvertibleStamp
  by_cases initialised : t.syncTicksInit = 0
  · rw [if_pos initialised]
    exact ⟨fun ⟨_, none_, _⟩ => (nomatch none_), fun ⟨some_, _⟩ => absurd initialised some_⟩
  · have word := inv.word_iff initialised timely
    obtain ⟨_, _, s, sync, late, ahead⟩ := timely
    have tracks := inv.tracks s sync
    have low := inv.low s sync
    have count := ticksCount_modEq t (t.wordOf ticks)
    have extended := tracks.extended_iff (by decide) late (by unfold syncSpacing at ahead; omega)
      (by decide : 2 * pcanUsbSyncPeriodTick.toNat + 1000 ≤ 2 ^ 16) (by decide)
    rw [if_neg initialised]
    constructor
    · rintro ⟨_, converted, same⟩
      cases converted
      have right := ticksCount_low tracks same
      rw [low, right] at count
      exact ⟨initialised, word.mp right, s, sync,
        extended.mp ((count.add_right _).symm.trans same)⟩
    · rintro ⟨_, gap, s', sync', placed⟩
      have last : s = s' := Option.some.inj (sync.symm.trans sync')
      rw [low, word.mpr gap] at count
      exact ⟨_, rfl, (count.add_right _).trans (extended.mpr (last ▸ placed))⟩

theorem TickInv.stamp {ticks : UsbTicks} (inv : TickInv first t g)
    (timely : TimelyStamp g tick ticks) (convertible : ConvertibleStamp t g tick) :
    TickInv first (t.stamped ticks) (g.stamp t tick) := by
  have initialised := convertible.1
  have word := (inv.word_iff initialised timely).mpr convertible.2.1
  obtain ⟨_, _, s, sync, _, ahead⟩ := timely
  have stamped : t.stamped ticks = { t with ticks16 := t.wordOf ticks } := if_neg initialised
  rw [stamped]
  constructor
  case unsynced => exact fun none_ => nomatch none_.symm.trans sync
  case uninitialised => exact fun none_ => absurd none_ initialised
  case low => exact inv.low
  case tracks => exact inv.tracks
  case base =>
    intro _
    simp only [TrueTicks.stamp, if_neg initialised]
    exact word
  case reach =>
    intro _ s' sync'
    have last : s = s' := Option.some.inj (sync.symm.trans sync')
    exact last ▸ ahead
  case between =>
    intro _ _
    simp only [TrueTicks.stamp, if_neg initialised, true_or]

theorem TickInv.synchronise_first {ticks : U16} (inv : TickInv first t g)
    (timely : TimelySync first g tick ticks) (uninitialised : t.syncTicksInit = 0) :
    TickInv first (t.synced ticks) (g.synchronise t tick) := by
  obtain ⟨low, start, order⟩ := timely
  have synced : t.synced ticks =
      { t with syncTicksInit := ticks, ticks16 := ticks, syncTicksLow := ticks } :=
    if_pos uninitialised
  have high := (inv.uninitialised uninitialised).1
  rw [synced]
  constructor
  case unsynced => exact nofun
  case uninitialised =>
    intro zero
    have none_ : ticks = 0 := zero
    refine ⟨high, fun s sync => ?_⟩
    cases sync
    rw [← low, none_]
    rfl
  case low =>
    intro s sync
    cases sync
    exact low
  case tracks =>
    intro s sync
    cases sync
    rw [show t.syncTicksHigh.toNat = 0 from congrArg BitVec.toNat high]
    cases before : g.sync with
    | none =>
      rw [start before]
      exact CounterExtension.Tracks.start _ _ _
    | some s =>
      obtain ⟨later, near⟩ := order s before
      have zero := (inv.uninitialised uninitialised).2 s before
      have tracks := inv.tracks s before
      rw [show t.syncTicksHigh.toNat = 0 from congrArg BitVec.toNat high] at tracks
      have next := tracks.next (by decide) later (by unfold syncSpacing at near; omega)
      rwa [zero, if_neg (Nat.not_lt_zero _)] at next
  case base =>
    intro _
    simp only [TrueTicks.synchronise, if_pos uninitialised]
    exact low
  all_goals
    have reach : g.ts8 = true → g.lastStamp ≤ tick + syncSpacing := by
      intro follows
      cases before : g.sync with
      | none => exact absurd follows (by rw [(inv.unsynced before).2]; decide)
      | some s =>
        exact Nat.le_trans (inv.reach follows s before)
          (Nat.add_le_add_right (order s before).1 _)
  case reach =>
    intro follows s sync
    cases sync
    exact reach follows
  case between =>
    intro follows _
    simp only [TrueTicks.synchronise, if_pos uninitialised]
    refine .inr ⟨reach follows, fun s sync => ?_⟩
    cases sync
    exact Nat.le_refl _

theorem TickInv.synchronise_next {ticks : U16} (inv : TickInv first t g)
    (timely : TimelySync first g tick ticks) (initialised : t.syncTicksInit ≠ 0) :
    TickInv first (t.synced ticks) (g.synchronise t tick) := by
  obtain ⟨low, _, order⟩ := timely
  cases before : g.sync with
  | none => exact absurd (inv.unsynced before).1 initialised
  | some s =>
    obtain ⟨later, near⟩ := order s before
    unfold PcanUsbTime.synced
    rw [if_neg initialised]
    constructor
    case unsynced => exact nofun
    case uninitialised => exact fun none_ => absurd none_ initialised
    case low =>
      intro s' sync
      cases sync
      exact low
    case tracks =>
      intro s' sync
      cases sync
      have next := (inv.tracks s before).next (by decide) later
        (by unfold syncSpacing at near; omega)
      refine next.congr ?_
      rw [BitVec.toNat_add]
      refine (Nat.mod_modEq _ _).trans ?_
      simp only [BitVec.lt_def, low, inv.low s before]
      split <;> exact Nat.ModEq.refl _
    case base =>
      intro _
      simp only [TrueTicks.synchronise, if_neg initialised]
      exact inv.base initialised
    case reach =>
      intro follows s' sync
      cases sync
      exact Nat.le_trans (inv.reach follows s before) (Nat.add_le_add_right later _)
    case between =>
      intro follows _
      simp only [TrueTicks.synchronise, if_neg initialised]
      rcases inv.between follows initialised with same | ⟨reach, behind⟩
      · exact .inl same
      · refine .inr ⟨reach, fun s' sync => ?_⟩
        cases sync
        exact Nat.le_trans (behind s before) later

theorem PcanUsbTime.stamped_init (t : PcanUsbTime) (ticks : UsbTicks) :
    (t.stamped ticks).syncTicksInit = t.syncTicksInit := by
  unfold PcanUsbTime.stamped
  split <;> rfl

theorem TickInv.synchronise {ticks : U16} (inv : TickInv first t g)
    (timely : TimelySync first g tick ticks) :
    TickInv first (t.synced ticks) (g.synchronise t tick) := by
  by_cases uninitialised : t.syncTicksInit = 0
  · exact inv.synchronise_first timely uninitialised
  · exact inv.synchronise_next timely uninitialised

end Inv

end Ticks

section Runs

/-- A record as the adapter sends it: with the ticks of its stamp and of the
    synchronisation that it reports, where it has them. -/
structure TickedRecord where
  record : UsbRecord
  stampTick : Nat
  syncTick : Nat

inductive TickInput where
  | packet
  | record (env : DecodeEnv) (sent : TickedRecord)

structure TickRun where
  usb : PcanUsb
  ticks : TrueTicks

def TrueTicks.after (g : TrueTicks) (t : PcanUsbTime) (sent : TickedRecord) : TrueTicks :=
  let g := if sent.record.ticks.isSome then g.stamp t sent.stampTick else g
  if sent.record.syncTicks.isSome then g.synchronise t sent.syncTick else g

/-- The output is the tick of a stamp with the count that it is converted from. -/
def TickRun.step (r : TickRun) : TickInput → TickRun × Option (Nat × Option U32)
  | .packet => ({ r with ticks := { r.ticks with ts8 := false } }, none)
  | .record env sent =>
    (⟨(handleRecord env r.usb sent.record).usb, r.ticks.after r.usb.time sent⟩,
      sent.record.ticks.map fun ticks => (sent.stampTick, r.usb.time.converted ticks))

/-- The record reports what the adapter has counted, in time. -/
def TickRun.Timely (first : Nat) (r : TickRun) : TickInput → Prop
  | .packet => True
  | .record _ sent =>
    (∀ ticks ∈ sent.record.ticks, TimelyStamp r.ticks sent.stampTick ticks) ∧
      ∀ ticks ∈ sent.record.syncTicks, TimelySync first r.ticks sent.syncTick ticks

def TickRun.Convertible (r : TickRun) : TickInput → Prop
  | .packet => True
  | .record _ sent =>
    sent.record.ticks.isSome = true → ConvertibleStamp r.usb.time r.ticks sent.stampTick

theorem TickRun.step_right_iff {first : Nat} {r : TickRun} {i : TickInput}
    (inv : TickInv first r.usb.time r.ticks) (timely : r.Timely first i) :
    (∀ stamp ∈ (r.step i).2, RightCount first stamp.1 stamp.2) ↔ r.Convertible i := by
  cases i with
  | packet => exact ⟨fun _ => trivial, fun _ => nofun⟩
  | record env sent =>
    simp only [TickRun.step, TickRun.Convertible]
    cases stamped : sent.record.ticks with
    | none => exact ⟨fun _ => nofun, fun _ => nofun⟩
    | some ticks =>
      have right := inv.rightCount_iff (timely.1 ticks stamped)
      simp only [Option.map_some, Option.mem_some_iff, forall_eq', Option.isSome_some, true_implies]
      exact right

theorem TickRun.step_inv {first : Nat} {r : TickRun} {i : TickInput}
    (inv : TickInv first r.usb.time r.ticks) (timely : r.Timely first i)
    (convertible : r.Convertible i) :
    TickInv first (r.step i).1.usb.time (r.step i).1.ticks := by
  cases i with
  | packet =>
    exact ⟨fun none_ => ⟨(inv.unsynced none_).1, rfl⟩, inv.uninitialised, inv.low, inv.tracks,
      inv.base, nofun, nofun⟩
  | record env sent =>
    simp only [TickRun.step, handleRecord_time, PcanUsbTime.after, TrueTicks.after]
    have stamped : TickInv first (sent.record.ticks.elim r.usb.time r.usb.time.stamped)
        (if sent.record.ticks.isSome then r.ticks.stamp r.usb.time sent.stampTick
          else r.ticks) := by
      cases reported : sent.record.ticks with
      | none => exact inv
      | some ticks =>
        exact inv.stamp (timely.1 ticks reported) (convertible (by rw [reported]; rfl))
    have same : (sent.record.ticks.elim r.usb.time r.usb.time.stamped).syncTicksInit =
        r.usb.time.syncTicksInit := by
      cases sent.record.ticks with
      | none => rfl
      | some ticks => exact r.usb.time.stamped_init ticks
    cases reported : sent.record.syncTicks with
    | none => exact stamped
    | some ticks =>
      have order : TimelySync first
          (if sent.record.ticks.isSome then r.ticks.stamp r.usb.time sent.stampTick else r.ticks)
          sent.syncTick ticks := by
        have before := timely.2 ticks reported
        split <;> exact before
      have synced := stamped.synchronise order
      unfold TrueTicks.synchronise at synced ⊢
      rw [same] at synced
      exact synced

/-- A channel whose adapter has not been synchronised with. -/
def TickRun.start (usb : PcanUsb) : TickRun := ⟨usb, ⟨false, 0, 0, none⟩⟩

theorem TickInv.start (first : Nat) {t : PcanUsbTime} (reset : t = default) :
    TickInv first t ⟨false, 0, 0, none⟩ := by
  subst reset
  exact ⟨fun _ => ⟨rfl, rfl⟩, fun _ => ⟨rfl, nofun⟩, nofun, nofun, fun some_ => absurd rfl some_,
    nofun, nofun⟩

/-- Over every run of records that come in time, all stamps are converted to their
    ticks exactly if none meets a channel without a base or lies where its bits do not
    tell it. -/
theorem ticks_run_iff {first : Nat} {usb : PcanUsb} {inputs : List TickInput}
    (reset : usb.time = default)
    (timely : Admitted (TickRun.Timely first) TickRun.step (.start usb) inputs) :
    (∀ output ∈ (run TickRun.step (.start usb) inputs).2, ∀ stamp ∈ output,
        RightCount first stamp.1 stamp.2) ↔
      Admitted TickRun.Convertible TickRun.step (.start usb) inputs :=
  outputs_iff_admitted (fun _ _ => TickRun.step_inv) (fun _ _ => TickRun.step_right_iff)
    (TickInv.start first reset) timely

section Samples

instance TickRun.decidableConvertible (r : TickRun) (i : TickInput) : Decidable (r.Convertible i) :=
  match i with
  | .packet => isTrue trivial
  | .record _ _ => inferInstanceAs (Decidable (_ = true → _ ∧ (_ → _) ∧ ∃ s ∈ r.ticks.sync, _))

/-- A channel that has just been opened, with its bus active. -/
def freshPcanUsb : PcanUsb :=
  ⟨⟨{ openedChannel ⟨64, 64, 28, 0, false, []⟩ 2 2 0 with busState := .errorActive }, false, 0, 0⟩,
    default⟩

def idleEnv : DecodeEnv := ⟨sampleHost, 0, .zero, 0⟩

def syncAt (tick : Nat) : TickInput :=
  .record idleEnv ⟨.internal 0x40 none (.onlyTimestamp (BitVec.ofNat 16 tick)), 0, tick⟩

def frameAt (ticks : UsbTicks) (tick : Nat) : TickInput :=
  .record idleEnv ⟨.canMsg 0 false 0x100 ticks [], tick, 0⟩

/-- Two frames of one packet, the second one behind the wrap. -/
def acrossWrap : List TickInput := 
  [syncAt 65500, .packet, frameAt (.word 65520) 65520, frameAt (.byte 64) 65600]

/-- The second frame has come before the wrap that the second synchronisation tells of. -/
def lateAcrossWrap : List TickInput :=
  [syncAt 65530, .packet, frameAt (.word 65531) 65531,
    syncAt 65546, .packet, frameAt (.word 65530) 65530]

theorem acrossWrap_timely :
    Admitted (TickRun.Timely 65500) TickRun.step (.start freshPcanUsb) acrossWrap := by
  refine ⟨⟨nofun, ?_⟩, trivial, ⟨?_, nofun⟩, ⟨?_, nofun⟩, trivial⟩
  · rintro _ ⟨⟩
    exact ⟨rfl, fun _ => rfl, nofun⟩
  · rintro _ ⟨⟩
    exact ⟨⟨rfl, rfl⟩, nofun, 65500, rfl, by decide, by decide⟩
  · rintro _ ⟨⟩
    exact ⟨⟨rfl, rfl⟩, fun _ => ⟨by decide, by decide⟩, 65500, rfl, by decide, by decide⟩

theorem acrossWrap_convertible :
    Admitted TickRun.Convertible TickRun.step (.start freshPcanUsb) acrossWrap := by
  decide +kernel

theorem lateAcrossWrap_timely :
    Admitted (TickRun.Timely 65530) TickRun.step (.start freshPcanUsb) lateAcrossWrap := by
  refine ⟨⟨nofun, ?_⟩, trivial, ⟨?_, nofun⟩, ⟨nofun, ?_⟩, trivial, ⟨?_, nofun⟩, trivial⟩
  · rintro _ ⟨⟩
    exact ⟨rfl, fun _ => rfl, nofun⟩
  · rintro _ ⟨⟩
    exact ⟨⟨rfl, rfl⟩, nofun, 65530, rfl, by decide, by decide⟩
  · rintro _ ⟨⟩
    refine ⟨rfl, nofun, ?_⟩
    rintro _ ⟨⟩
    exact ⟨by decide, by decide⟩
  · rintro _ ⟨⟩
    exact ⟨⟨rfl, rfl⟩, nofun, 65546, rfl, by decide, by decide⟩

theorem lateAcrossWrap_outputs : (run TickRun.step (.start freshPcanUsb) lateAcrossWrap).2 =
    [none, none, some (65531, some 65531), none, none, some (65530, some 131066)] := by
  decide +kernel

theorem ticks_run_across_wrap :
    Admitted TickRun.Convertible TickRun.step (.start freshPcanUsb) acrossWrap ∧
      ∀ output ∈ (run TickRun.step (.start freshPcanUsb) acrossWrap).2, ∀ stamp ∈ output,
        RightCount 65500 stamp.1 stamp.2 :=
  ⟨acrossWrap_convertible, (ticks_run_iff rfl acrossWrap_timely).mpr acrossWrap_convertible⟩

/-- A late frame is counted one window too far, whatever the count starts at. -/
theorem late_frame_has_no_constant :
    ¬∀ (first : Nat) (usb : PcanUsb) (inputs : List TickInput), usb.time = default →
      Admitted (TickRun.Timely first) TickRun.step (.start usb) inputs →
      ∃ k, ∀ output ∈ (run TickRun.step (.start usb) inputs).2, ∀ stamp ∈ output,
        ∃ c ∈ stamp.2, c.toNat + k * 2 ^ 16 ≡ stamp.1 [MOD 2 ^ 32] := by
  intro claim
  obtain ⟨k, right⟩ := claim 65530 freshPcanUsb lateAcrossWrap rfl lateAcrossWrap_timely
  rw [lateAcrossWrap_outputs] at right
  obtain ⟨c, before, same⟩ := right (some (65531, some 65531)) (by simp) _ rfl
  obtain ⟨d, after, late⟩ := right (some (65530, some 131066)) (by simp) _ rfl
  cases before
  cases after
  have low : (65531 : U32).toNat = 65531 := rfl
  have high : (131066 : U32).toNat = 131066 := rfl
  simp only [Nat.ModEq, low, high] at same late
  omega

end Samples

end Runs

end PcanDriver

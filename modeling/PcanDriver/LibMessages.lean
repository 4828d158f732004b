import PcanDriver.LegacyRead

/-!
The two conversions of the user's library (`libpcanfd.c`) between messages of the driver and
records of the old interface. A record has its time in milliseconds and a rest in microseconds,
and `pcanmsg_to_fd` takes them for the seconds and the microseconds of a message.
-/
namespace PcanDriver

section Source

/-- `pcanfd_to_msg`: as in the driver, but no more than eight bytes are copied. -/
def pcanfdToMsg (msg : TPCANRdMsg) (pf : PcanfdMsg) : Option TPCANRdMsg :=
  match pf.type with
  | .status => some ((msg.filled pf (msgtypeStatus.setWidth 8) 4).timed pf)
  | .can20Msg =>
    let clamped := { pf with dataLen := if pf.dataLen > 8 then 8 else pf.dataLen }
    some ((msg.filled clamped (pf.flags.setWidth 8) (clamped.dataLen.setWidth 8)).timed pf)
  | _ => none

/-- `pcanmsg_to_fd`. A `LEN` above eight has the bytes copied that lie behind `DATA`. -/
def pcanmsgToFd (behind : Nat → U8) (pf : PcanfdMsg) (msg : TPCANRdMsg) : PcanfdMsg :=
  { pf with
    type := .can20Msg
    id := msg.msg.id
    flags := msg.msg.msgtype.setWidth 32 ||| pcanfdTimestamp
    dataLen := msg.msg.len.setWidth 16
    data := Vector.ofFn fun j =>
      if j.val < msg.msg.len.toNat then (msg.msg.data[j.val]?).getD (behind j)
      else pf.data.get j
    timestamp := ⟨msg.dwTime.toNat, msg.wUsec.toNat⟩ }

end Source

section Statement

/-- A classic frame with a time, and of the flags only those that a record has. -/
structure ClassicTimed (m : PcanfdMsg) : Prop where
  type : m.type = .can20Msg
  short : m.dataLen.toNat ≤ 8
  flags : ∃ low : U8, m.flags = low.setWidth 32 ||| pcanfdTimestamp
  time : m.timestamp.tvSec * 1000 < 2 ^ 32

structure SameCanMsg (m m' : PcanfdMsg) : Prop where
  type : m'.type = m.type
  id : m'.id = m.id
  flags : m'.flags = m.flags
  dataLen : m'.dataLen = m.dataLen
  data : ∀ j, j < m.dataLen.toNat → m'.data[j]? = m.data[j]?
  timestamp : m'.timestamp = m.timestamp

structure SameRdMsg (r r' : TPCANRdMsg) : Prop where
  id : r'.msg.id = r.msg.id
  msgtype : r'.msg.msgtype = r.msg.msgtype
  len : r'.msg.len = r.msg.len
  data : ∀ j, j < r.msg.len.toNat → r'.msg.data[j]? = r.msg.data[j]?
  dwTime : r'.dwTime = r.dwTime
  wUsec : r'.wUsec = r.wUsec

/-- Converted to a record and back, whatever the two structures held before. -/
def MessageReturns (behind : Nat → U8) (m : PcanfdMsg) : Prop :=
  ∀ msg pf, ∃ r, pcanfdToMsg msg m = some r ∧ SameCanMsg m (pcanmsgToFd behind pf r)

def RecordReturns (behind : Nat → U8) (r : TPCANRdMsg) : Prop :=
  ∀ msg pf, ∃ r', pcanfdToMsg msg (pcanmsgToFd behind pf r) = some r' ∧ SameRdMsg r r'

end Statement

section Conversions
variable {m : PcanfdMsg} {behind : Nat → U8}

theorem pcanfdToMsg_short (short : m.dataLen.toNat ≤ 8) (msg : TPCANRdMsg) :
    pcanfdToMsg msg m = pcanFdToMsg msg m := by
  have fits : ¬m.dataLen > 8 := by
    rw [gt_iff_lt, BitVec.lt_def]
    exact Nat.not_lt.mpr short
  unfold pcanfdToMsg
  simp only [if_neg fits]
  rfl

theorem pcanfdToMsg_frame (type : m.type = .can20Msg) (short : m.dataLen.toNat ≤ 8)
    (timed : m.flags &&& pcanfdTimestamp ≠ 0) (msg : TPCANRdMsg) :
    ∃ r, pcanfdToMsg msg m = some r ∧ r.msg.id = m.id ∧
      r.msg.msgtype = m.flags.setWidth 8 ∧ r.msg.len.toNat = m.dataLen.toNat ∧
      (∀ j, j < m.dataLen.toNat → r.msg.data[j]? = m.data[j]?) ∧
      r.dwTime = BitVec.ofInt 32 (m.timestamp.tvSec * 1000 + m.timestamp.tvUsec.tdiv 1000) ∧
      r.wUsec = BitVec.ofInt 16 (m.timestamp.tvUsec.tmod 1000) := by
  obtain ⟨r, converted, len, data⟩ :=
    pcanFdToMsg_frame ((lengthSound_can20 type).mpr short) type msg
  refine ⟨r, (pcanfdToMsg_short short msg).trans converted, ?_⟩
  have bytes : ∀ j, j < m.dataLen.toNat → r.msg.data[j]? = m.data[j]? := by
    intro j low
    have byte := data ⟨j, by omega⟩
    rw [if_pos low] at byte
    rw [← byte, Vector.getElem?_eq_getElem (by omega)]
    rfl
  unfold pcanFdToMsg at converted
  rw [type] at converted
  simp only [timed_fields timed, Option.some.injEq] at converted
  rw [← converted] at len bytes ⊢
  exact ⟨rfl, rfl, len, bytes, rfl, rfl⟩

theorem pcanmsgToFd_data {r : TPCANRdMsg} (short : r.msg.len.toNat ≤ 8) (pf : PcanfdMsg) (j : Nat)
    (low : j < r.msg.len.toNat) : (pcanmsgToFd behind pf r).data[j]? = r.msg.data[j]? := by
  have held : r.msg.data[j]? = some r.msg.data[j] := Vector.getElem?_eq_getElem (by omega)
  unfold pcanmsgToFd
  simp only
  rw [Vector.getElem?_ofFn, dif_pos (by omega), held, Option.getD_some, if_pos low]

theorem low_setWidth (low : U8) : (low.setWidth 32 ||| pcanfdTimestamp).setWidth 8 = low := by
  have none : pcanfdTimestamp.setWidth 8 = 0 := by decide
  rw [BitVec.setWidth_or, none, BitVec.setWidth_setWidth_of_le _ (by decide), BitVec.setWidth_eq]
  exact BitVec.or_zero

theorem timed_of_timestamp (flags : U32) : (flags ||| pcanfdTimestamp) &&& pcanfdTimestamp ≠ 0 := by
  rw [Masks.or_and_self]
  decide

theorem toNat_ofInt_eq (n : Nat) (x : Int) : ((BitVec.ofInt n x).toNat : Int) = x % 2 ^ n := by
  have size : ((2 ^ n : Nat) : Int) ≠ 0 := Int.natCast_ne_zero.mpr (Nat.two_pow_pos n).ne'
  rw [BitVec.toNat_ofInt, Int.toNat_of_nonneg (Int.emod_nonneg x size)]
  push_cast
  rfl

theorem time_returns_iff {sec usec : Int} (small : sec * 1000 < 2 ^ 32) :
    (sec * 1000 + usec.tdiv 1000) % 2 ^ 32 = sec ∧ usec.tmod 1000 % 2 ^ 16 = usec ↔
      sec = 0 ∧ 0 ≤ usec ∧ usec < 1000 := by
  constructor
  · rintro ⟨seconds, rest⟩
    have nonneg : 0 ≤ usec := by
      rw [← rest]
      exact Int.emod_nonneg _ (by decide)
    have positive : 0 ≤ sec := by
      rw [← seconds]
      exact Int.emod_nonneg _ (by decide)
    rw [Int.tmod_eq_emod_of_nonneg nonneg] at rest
    have below : usec < 1000 := by omega
    rw [Int.tdiv_eq_zero_of_lt nonneg below, Int.add_zero,
      Int.emod_eq_of_lt (by omega) small] at seconds
    omega
  · rintro ⟨rfl, nonneg, below⟩
    rw [Int.tdiv_eq_zero_of_lt nonneg below, Int.tmod_eq_of_lt nonneg below]
    exact ⟨rfl, Int.emod_eq_of_lt nonneg (Int.lt_trans below (by decide))⟩

theorem messageReturns_iff (classic : ClassicTimed m) : MessageReturns behind m ↔
    m.timestamp.tvSec = 0 ∧ 0 ≤ m.timestamp.tvUsec ∧ m.timestamp.tvUsec < 1000 := by
  obtain ⟨type, short, ⟨low, flags⟩, time⟩ := classic
  have timed : m.flags &&& pcanfdTimestamp ≠ 0 := flags ▸ timed_of_timestamp _
  rw [← time_returns_iff time, ← toNat_ofInt_eq, ← toNat_ofInt_eq]
  constructor
  · intro returns
    obtain ⟨r, converted, same⟩ := returns ⟨⟨0, 0, 0, Vector.replicate 8 0⟩, 0, 0⟩ .zero
    obtain ⟨r', converted', -, -, -, -, dwTime, wUsec⟩ :=
      pcanfdToMsg_frame type short timed ⟨⟨0, 0, 0, Vector.replicate 8 0⟩, 0, 0⟩
    obtain rfl := Option.some.inj (converted.symm.trans converted')
    rw [← dwTime, ← wUsec]
    have same := same.timestamp
    rw [← same]
    exact ⟨rfl, rfl⟩
  · rintro ⟨seconds, rest⟩ msg pf
    obtain ⟨r, converted, id, msgtype, len, data, dwTime, wUsec⟩ :=
      pcanfdToMsg_frame type short timed msg
    refine ⟨r, converted, ?_⟩
    constructor
    case type => exact type.symm
    case id => exact id
    case flags =>
      show r.msg.msgtype.setWidth 32 ||| pcanfdTimestamp = m.flags
      rw [msgtype, flags, low_setWidth]
    case dataLen =>
      apply BitVec.eq_of_toNat_eq
      show (r.msg.len.setWidth 16).toNat = _
      rw [BitVec.toNat_setWidth, len, Nat.mod_eq_of_lt (by omega)]
    case data =>
      intro j inside
      rw [pcanmsgToFd_data (by omega) pf j (by omega)]
      exact data j inside
    case timestamp =>
      show (⟨r.dwTime.toNat, r.wUsec.toNat⟩ : Timeval) = m.timestamp
      rw [dwTime, wUsec, seconds, rest]

/-- A thousand times a word is the word itself only for zero, as 999 is odd. -/
theorem thousandfold_iff {word : Nat} (size : word < 2 ^ 32) :
    word * 1000 % 2 ^ 32 = word ↔ word = 0 := by
  omega

theorem recordReturns_iff {r : TPCANRdMsg} (short : r.msg.len.toNat ≤ 8)
    (rest : r.wUsec.toNat < 1000) : RecordReturns behind r ↔ r.dwTime = 0 := by
  have back : ∀ msg pf, ∃ r', pcanfdToMsg msg (pcanmsgToFd behind pf r) = some r' ∧
      (r'.dwTime.toNat : Int) = (r.dwTime.toNat * 1000 % 2 ^ 32 : Nat) ∧
      (r'.dwTime = r.dwTime → SameRdMsg r r') := by
    intro msg pf
    have len : (pcanmsgToFd behind pf r).dataLen.toNat = r.msg.len.toNat :=
      (BitVec.toNat_setWidth _ _).trans (Nat.mod_eq_of_lt (by omega))
    obtain ⟨r', converted, id, msgtype, len', data, dwTime, wUsec⟩ :=
      @pcanfdToMsg_frame (pcanmsgToFd behind pf r) rfl (by omega) (timed_of_timestamp _) msg
    have nonneg : (0 : Int) ≤ r.wUsec.toNat := Int.natCast_nonneg _
    have below : (r.wUsec.toNat : Int) < 1000 := by omega
    have time : (pcanmsgToFd behind pf r).timestamp = ⟨r.dwTime.toNat, r.wUsec.toNat⟩ := rfl
    rw [time, Int.tdiv_eq_zero_of_lt nonneg below, Int.add_zero] at dwTime
    rw [time, Int.tmod_eq_of_lt nonneg below] at wUsec
    refine ⟨r', converted, ?_, fun same => ⟨id, ?_, ?_, ?_, same, ?_⟩⟩
    · rw [dwTime, toNat_ofInt_eq]
      push_cast
      rfl
    · exact msgtype.trans (low_setWidth _)
    · exact BitVec.eq_of_toNat_eq (len'.trans len)
    · intro j inside
      rw [data j (by omega)]
      exact pcanmsgToFd_data short pf j inside
    · rw [wUsec, BitVec.ofInt_natCast, BitVec.ofNat_toNat, BitVec.setWidth_eq]
  rw [← BitVec.toNat_inj]
  change _ ↔ r.dwTime.toNat = 0
  rw [← thousandfold_iff r.dwTime.isLt]
  constructor
  · intro returns
    obtain ⟨r', converted, same⟩ := returns ⟨⟨0, 0, 0, Vector.replicate 8 0⟩, 0, 0⟩ .zero
    obtain ⟨r'', converted', dwTime, -⟩ := back ⟨⟨0, 0, 0, Vector.replicate 8 0⟩, 0, 0⟩ .zero
    obtain rfl := Option.some.inj (converted.symm.trans converted')
    rw [same.dwTime] at dwTime
    omega
  · intro thousandfold msg pf
    obtain ⟨r', converted, dwTime, same⟩ := back msg pf
    exact ⟨r', converted, same (BitVec.eq_of_toNat_eq (by omega))⟩

/-- Only a time below one millisecond survives the way to a record and back, and only a record of
    that time the way to a message and back. -/
theorem message_conversions_iff {r : TPCANRdMsg} (behind : Nat → U8) (classic : ClassicTimed m)
    (short : r.msg.len.toNat ≤ 8) (rest : r.wUsec.toNat < 1000) :
    (MessageReturns behind m ↔
      m.timestamp.tvSec = 0 ∧ 0 ≤ m.timestamp.tvUsec ∧ m.timestamp.tvUsec < 1000) ∧
    (RecordReturns behind r ↔ r.dwTime = 0) :=
  ⟨messageReturns_iff classic, recordReturns_iff short rest⟩

end Conversions

section Samples

def timedFrame (sec usec : Int) : PcanfdMsg :=
  { PcanfdMsg.zero with
    type := .can20Msg, id := 0x123, dataLen := 8, flags := pcanfdTimestamp, timestamp := ⟨sec, usec⟩ }

def timedRecord (dwTime : U32) (wUsec : U16) : TPCANRdMsg :=
  ⟨⟨0x123, 0, 8, Vector.replicate 8 0⟩, dwTime, wUsec⟩

theorem timedFrame_classic {sec usec : Int} (small : sec * 1000 < 2 ^ 32) :
    ClassicTimed (timedFrame sec usec) :=
  ⟨rfl, (by decide : (8 : U16).toNat ≤ 8),
    ⟨0, (by decide : pcanfdTimestamp = (0 : U8).setWidth 32 ||| pcanfdTimestamp)⟩, small⟩

/-- A frame of 1.5 s comes back with 1500 s, and a record of one second with 1000 seconds. -/
theorem seconds_do_not_return :
    ¬MessageReturns (fun _ => 0) (timedFrame 1 500000) ∧
      ¬RecordReturns (fun _ => 0) (timedRecord 1000 0) := by
  constructor
  · intro returns
    obtain ⟨r, converted, same⟩ := returns (timedRecord 0 0) .zero
    have time : (pcanfdToMsg (timedRecord 0 0) (timedFrame 1 500000)).map (·.dwTime) =
        some 1500 := by decide
    rw [converted, Option.map_some, Option.some.injEq] at time
    have second : (r.dwTime.toNat : Int) = 1 := congrArg Timeval.tvSec same.timestamp
    rw [time] at second
    exact absurd second (by decide)
  · intro returns
    obtain ⟨r', converted, same⟩ := returns (timedRecord 0 0) .zero
    have time : (pcanfdToMsg (timedRecord 0 0)
        (pcanmsgToFd (fun _ => 0) .zero (timedRecord 1000 0))).map (·.dwTime) = some 1000000 := by
      decide
    rw [converted, Option.map_some, Option.some.injEq, same.dwTime] at time
    exact absurd time (by decide)

theorem first_millisecond_returns :
    MessageReturns (fun _ => 0) (timedFrame 0 999) ∧
      RecordReturns (fun _ => 0) (timedRecord 0 999) := by
  have both := @message_conversions_iff (timedFrame 0 999) (timedRecord 0 999) (fun _ => 0)
    (timedFrame_classic (by decide)) (by decide) (by decide)
  exact ⟨both.1.mpr ⟨rfl, by decide, by decide⟩, both.2.mpr rfl⟩

end Samples

end PcanDriver

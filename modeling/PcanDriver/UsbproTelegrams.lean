import PcanDriver.UsbTelegrams
import PcanDriver.UsbproDecode

/-!
Messages of the USB-Pro (`pcan_usbpro_msg_encode`) walked by the sizes of their records: the
counter, the length and the result of the encoder speak of the same frames.
-/
namespace PcanDriver
open RecordReader

section Statement

/-- The channel and the frame of a record of type `DATA_TYPE_USB2CAN_STRUCT_CANMSG_TX_xxx`. -/
def usbproTxDecode (record : List U8) : Nat × TelegramFrame :=
  let flags := record.getD 2 0
  let len := (record.getD 3 0).toNat
  let rtr : Bool := flags &&& 0x01 ≠ 0
  (len / 16,
    { id := leNat ((record.drop 4).take 4)
      ext := flags &&& 0x02 ≠ 0
      rtr := rtr
      slf := flags &&& 0x04 ≠ 0
      dataLen := len % 16
      data := (record.drop 8).take (if rtr then 0 else len % 16) })

def readUsbproRecord : List U8 → Option ((Nat × TelegramFrame) × List U8) :=
  sized pcanUsbproSizeofRec usbproTxDecode

def usbproFrame (nChannel : Nat) (tx : PcanfdTxmsg) : Nat × TelegramFrame :=
  (nChannel % 16,
    { id := tx.msg.id.toNat
      ext := tx.msg.flags &&& pcanfdMsgExt ≠ 0
      rtr := tx.msg.flags &&& pcanfdMsgRtr ≠ 0
      slf := tx.msg.flags &&& pcanfdMsgSlf ≠ 0
      dataLen := tx.msg.dataLen.toNat
      data := if tx.msg.flags &&& pcanfdMsgRtr ≠ 0 then []
        else tx.msg.data.toList.take tx.msg.dataLen.toNat })

def usbproTxSize (tx : PcanfdTxmsg) : Nat :=
  (pcanUsbproSizeofRec (pcanUsbproDataType tx).1).getD 0

structure UsbproMessage (context : TxContext) (fifo : List PcanfdTxmsg) (bufferSize : Nat)
    (old : List U8) (e : Encoded) : Prop where
  inside : e.bytes.length ≤ bufferSize ∧ e.size ≤ bufferSize
  account : e.taken ++ e.rest = fifo
  counter : e.bytes ≠ [] → leNat ((e.store old).take 4) = e.taken.length
  length : e.taken ≠ [] → e.size = 4 + (e.taken.map usbproTxSize).sum
  records : e.taken ≠ [] → readMany readUsbproRecord e.taken.length ((e.store old).drop 4) =
    some (e.taken.map (usbproFrame context.nChannel), (e.store old).drop e.size)
  empty : e.size = 0 ↔ e.taken = []
  result : e.err = 0 ∨ e.err = -enodata ∨ e.err = -enospc
  drained : e.err = -enodata → e.rest = []
  full : e.err = 0 → bufferSize ≤ e.bytes.length + usbproRecMaxLen
  noSpace : e.err = -enospc → e.taken = []

end Statement

section Records
variable {tx : PcanfdTxmsg}

theorem pcanUsbproTxRecord_size (nChannel : Nat) (tx : PcanfdTxmsg) :
    pcanUsbproSizeofRec (pcanUsbproDataType tx).1 =
      some (pcanUsbproTxRecord nChannel tx).length := by
  have whole : tx.msg.data.toList.length = 64 := Vector.length_toList
  have known : ∀ kind ∈ [(dataTypeCanmsgTx0, 0), (dataTypeCanmsgTx4, 4), (dataTypeCanmsgTx8, 8)],
      pcanUsbproSizeofRec kind.1 = some (8 + kind.2) ∧ kind.2 ≤ 8 := by
    decide
  have kind : pcanUsbproDataType tx ∈
      [(dataTypeCanmsgTx0, 0), (dataTypeCanmsgTx4, 4), (dataTypeCanmsgTx8, 8)] := by
    unfold pcanUsbproDataType
    split
    · decide
    · split <;> decide
  obtain ⟨size, few⟩ := known _ kind
  have data : (tx.msg.data.toList.take (pcanUsbproDataType tx).2).length =
      (pcanUsbproDataType tx).2 :=
    List.length_take_of_le (by omega)
  rw [size]
  simp only [pcanUsbproTxRecord, List.length_append, List.length_cons, List.length_nil, data,
    le32_length]

theorem usbproTx_flags : ∀ ext rtr slf : Bool,
    let flags : U8 := (if ext then 0x02 else 0) ||| (if rtr then 0x01 else 0) |||
      (if slf then 0x04 else 0)
    (flags &&& 0x02 ≠ 0 ↔ ext = true) ∧ (flags &&& 0x01 ≠ 0 ↔ rtr = true) ∧
      (flags &&& 0x04 ≠ 0 ↔ slf = true) := by
  decide

theorem pcanUsbproTxFlags_read (flags : U32) :
    (pcanUsbproTxFlags flags &&& 0x02 ≠ 0 ↔ flags &&& pcanfdMsgExt ≠ 0) ∧
      (pcanUsbproTxFlags flags &&& 0x01 ≠ 0 ↔ flags &&& pcanfdMsgRtr ≠ 0) ∧
      (pcanUsbproTxFlags flags &&& 0x04 ≠ 0 ↔ flags &&& pcanfdMsgSlf ≠ 0) := by
  have read := usbproTx_flags (flags &&& pcanfdMsgExt ≠ 0 : Bool)
    (flags &&& pcanfdMsgRtr ≠ 0 : Bool) (flags &&& pcanfdMsgSlf ≠ 0 : Bool)
  simp only [decide_eq_true_eq] at read
  exact read

theorem usbproTx_len (nChannel : Nat) (short : tx.msg.dataLen.toNat ≤ 8) :
    (BitVec.ofNat 8 (nChannel * 16) ||| (tx.msg.dataLen.setWidth 8 &&& 0x0f)).toNat =
      nChannel % 16 * 16 + tx.msg.dataLen.toNat := by
  have ones : (0x0f : U8).toNat = 2 ^ 4 - 1 := rfl
  have high : 2 ^ 4 ∣ nChannel * 16 % 2 ^ 8 :=
    (Nat.dvd_mod_iff (by decide)).mpr (Nat.dvd_mul_left _ _)
  rw [BitVec.toNat_or, BitVec.toNat_and, ones, Nat.and_two_pow_sub_one_eq_mod, BitVec.toNat_ofNat,
    BitVec.toNat_setWidth, Masks.or_eq_add high (by omega)]
  omega

theorem usbproTx_data (short : tx.msg.dataLen.toNat ≤ 8) :
    (tx.msg.data.toList.take (pcanUsbproDataType tx).2).take
        (if tx.msg.flags &&& pcanfdMsgRtr ≠ 0 then 0 else tx.msg.dataLen.toNat) =
      if tx.msg.flags &&& pcanfdMsgRtr ≠ 0 then []
      else tx.msg.data.toList.take tx.msg.dataLen.toNat := by
  by_cases rtr : tx.msg.flags &&& pcanfdMsgRtr ≠ 0
  · rw [if_pos rtr, if_pos rtr, List.take_zero]
  · rw [if_neg rtr, if_neg rtr, List.take_take]
    congr 1
    apply Nat.min_eq_left
    unfold pcanUsbproDataType
    by_cases none : tx.msg.dataLen = 0
    · rw [none]
      exact Nat.zero_le _
    · rw [if_neg (not_or.mpr ⟨rtr, none⟩)]
      by_cases few : tx.msg.dataLen ≤ 4
      · rw [if_pos few]
        exact BitVec.le_def.mp few
      · rw [if_neg few]
        exact short

theorem pcanUsbproTxRecord_reads (nChannel : Nat) (short : tx.msg.dataLen.toNat ≤ 8) :
    Reads readUsbproRecord (pcanUsbproTxRecord nChannel tx) (usbproFrame nChannel tx) := by
  obtain ⟨ext, rtr, slf⟩ := pcanUsbproTxFlags_read tx.msg.flags
  have len := usbproTx_len nChannel short
  have channel : (nChannel % 16 * 16 + tx.msg.dataLen.toNat) / 16 = nChannel % 16 := by omega
  have dataLen : (nChannel % 16 * 16 + tx.msg.dataLen.toNat) % 16 = tx.msg.dataLen.toNat := by
    omega
  have decoded : usbproTxDecode (pcanUsbproTxRecord nChannel tx) = usbproFrame nChannel tx := by
    unfold pcanUsbproTxRecord usbproTxDecode usbproFrame
    simp only [List.cons_append, List.nil_append, List.getD_cons_succ, List.getD_cons_zero,
      List.drop_succ_cons, List.drop_zero, ext, rtr, slf, len, channel, dataLen,
      decide_eq_true_eq]
    rw [List.take_left' (le32_length _), List.drop_left' (le32_length _), leNat_le32,
      usbproTx_data short]
  rw [← decoded]
  exact sized_reads (pcanUsbproTxRecord_size nChannel tx)

end Records

section Message
variable {context : TxContext} {fifo : List PcanfdTxmsg} {old : List U8} {bufferSize : Nat}

/-- A message that was begun: its records lie behind the counter, the old bytes behind them. -/
theorem message_of_records {packed rest : List PcanfdTxmsg} {err : Int} {later : TxContext}
    {payload : List U8} (bytes : payload = packed.flatMap (pcanUsbproTxRecord context.nChannel))
    (account : packed ++ rest = fifo) (short : ∀ tx ∈ packed, tx.msg.dataLen.toNat ≤ 8)
    (inside : 4 + payload.length ≤ bufferSize) (word : bufferSize < 2 ^ 31)
    (result : err = 0 ∨ err = -enodata) (drained : err = -enodata → rest = [])
    (full : err = 0 → bufferSize ≤ 4 + payload.length + usbproRecMaxLen) :
    UsbproMessage context fifo bufferSize old ⟨packed, packed, rest,
      le32 (BitVec.ofNat 32 packed.length) ++ payload, none,
      if packed = [] then 0 else 4 + payload.length, err, later⟩ := by
  have positive : ∀ tx ∈ packed, 0 < (pcanUsbproTxRecord context.nChannel tx).length := by
    intro tx _
    have long := (pcanUsbproTxRecord_length context.nChannel tx).1
    omega
  have few := length_le_flatMap positive
  rw [← bytes] at few
  have sum : payload.length = (packed.map usbproTxSize).sum := by
    rw [bytes, List.length_flatMap]
    congr 1
    apply List.map_congr_left
    intro tx _
    simp only [usbproTxSize, pcanUsbproTxRecord_size context.nChannel tx, Option.getD_some]
  have whole : (le32 (BitVec.ofNat 32 packed.length) ++ payload).length = 4 + payload.length := by
    rw [List.length_append, le32_length]
  constructor
  case inside =>
    dsimp only
    rw [whole]
    refine ⟨inside, ?_⟩
    split <;> omega
  case account => exact account
  case counter =>
    intro _
    simp only [Encoded.store, List.append_assoc]
    rw [List.take_left' (le32_length _), leNat_le32, BitVec.toNat_ofNat]
    exact Nat.mod_eq_of_lt (by omega)
  case length =>
    intro some_taken
    dsimp only at some_taken ⊢
    rw [if_neg some_taken, sum]
  case records =>
    intro some_taken
    dsimp only at some_taken ⊢
    rw [if_neg some_taken]
    simp only [Encoded.store]
    rw [whole, List.drop_left' whole, List.append_assoc, List.drop_left' (le32_length _), bytes]
    exact readMany_layout packed
      (fun tx member => pcanUsbproTxRecord_reads context.nChannel (short tx member)) _
  case empty =>
    dsimp only
    split <;> simp_all
  case result => exact result.imp_right .inl
  case drained => exact drained
  case full =>
    dsimp only
    rw [whole]
    exact full
  case noSpace =>
    rcases result with rfl | rfl
    · exact fun refused => absurd refused (by decide : (0 : Int) ≠ -enospc)
    · exact fun refused => absurd refused (by decide : -enodata ≠ -enospc)

theorem nothing_sent {rest : List PcanfdTxmsg} {err : Int}
    (result : err = -enodata ∧ rest = [] ∨ err = -enospc) :
    UsbproMessage context rest bufferSize old ⟨[], [], rest, [], none, 0, err, context⟩ where
  inside := ⟨Nat.zero_le _, Nat.zero_le _⟩
  account := rfl
  counter begun := absurd rfl begun
  length taken := absurd rfl taken
  records taken := absurd rfl taken
  empty := iff_of_true rfl rfl
  result := .inr (result.imp_left And.left)
  drained data := by
    rcases result with ⟨_, empty⟩ | space
    · exact empty
    · rw [space] at data
      cases data
  full zero := by
    rcases result with ⟨data, _⟩ | space
    · rw [data] at zero
      cases zero
    · rw [space] at zero
      cases zero
  noSpace _ := rfl

end Message

section Samples

end Samples

end PcanDriver

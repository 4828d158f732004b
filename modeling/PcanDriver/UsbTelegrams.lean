import PcanDriver.Lib.ByteStores
import PcanDriver.Lib.Masks
import PcanDriver.Lib.RecordReader
import PcanDriver.TxEncodeSpec

/-!
Telegrams of the PCAN-USB (`pcan_usb_EncodeMessage`) as the device reads them: the records of a
packet tell by their status byte and their id how long they are.
-/
namespace PcanDriver
open RecordReader

section Statement

def leNat : List U8 → Nat
  | [] => 0
  | b :: bytes => b.toNat + 256 * leNat bytes

structure TelegramFrame where
  id : Nat
  ext : Bool
  rtr : Bool
  slf : Bool
  dataLen : Nat
  data : List U8
deriving DecidableEq

/-- An id in front of its self-receive bit, at a width that the status byte tells. -/
def readUsbRecord : List U8 → Option (TelegramFrame × List U8)
  | [] => none
  | statusLen :: bytes =>
    let ext : Bool := statusLen &&& stlnExtendedId ≠ 0
    let rtr : Bool := statusLen &&& stlnRtr ≠ 0
    let width := if ext then 4 else 2
    let raw := leNat (bytes.take width)
    let slf : Bool := raw % 2 = 1
    let dataLen := (statusLen &&& stlnDataLength).toNat
    let size := if rtr then 0 else dataLen
    let total := width + size + if slf then 1 else 0
    if bytes.length < total then none
    else
      some (⟨raw / (if ext then 8 else 32), ext, rtr, slf, dataLen, (bytes.drop width).take size⟩,
        bytes.drop total)

/-- What is to be sent: only firmware from revision 41 on is told of self-reception. -/
def usbFrame (ucRevision : Nat) (tx : PcanfdTxmsg) : TelegramFrame where
  id := tx.msg.id.toNat % if tx.msg.flags &&& pcanfdMsgExt ≠ 0 then 2 ^ 29 else 2 ^ 11
  ext := tx.msg.flags &&& pcanfdMsgExt ≠ 0
  rtr := tx.msg.flags &&& pcanfdMsgRtr ≠ 0
  slf := 41 ≤ ucRevision ∧ tx.msg.flags &&& pcanfdMsgSlf ≠ 0
  dataLen := tx.msg.dataLen.toNat
  data := if tx.msg.flags &&& pcanfdMsgRtr ≠ 0 then []
    else tx.msg.data.toList.take tx.msg.dataLen.toNat

/-- The buffer behind an encoder, with what it held before. -/
def Encoded.store (e : Encoded) (old : List U8) : List U8 :=
  let buffer := e.bytes ++ old.drop e.bytes.length
  match e.trailer with
  | none => buffer
  | some last => buffer.set (e.size - 1) last

structure UsbTelegram (context : TxContext) (fifo : List PcanfdTxmsg) (old : List U8)
    (e : Encoded) : Prop where
  inside : e.bytes.length ≤ 63
  counter : fifo ≠ [] → e.size = 64 ∧ (e.store old)[63]? = some (context.dwTelegramCount.setWidth 8)
  counted : ((e.store old).getD 1 0).toNat = e.packed.length
  account : e.packed ++ e.rest = fifo
  records : ∃ left, readMany readUsbRecord ((e.store old).getD 1 0).toNat ((e.store old).drop 2) =
    some (e.packed.map (usbFrame context.ucRevision), left)
  empty : fifo = [] → e.size = 0 ∧ e.err = -enodata

end Statement

section LittleEndian

theorem leNat_le32 (x : U32) : leNat (le32 x) = x.toNat := by
  have small := x.isLt
  simp only [leNat, le32, BitVec.toNat_setWidth, BitVec.toNat_ushiftRight,
    Nat.shiftRight_eq_div_pow]
  omega

theorem leNat_take2 (x : U32) : leNat ((le32 x).take 2) = x.toNat % 2 ^ 16 := by
  have small := x.isLt
  simp only [leNat, le32, List.take_succ_cons, List.take_zero, BitVec.toNat_setWidth,
    BitVec.toNat_ushiftRight, Nat.shiftRight_eq_div_pow]
  omega

theorem shifted_id (id : U32) {k : Nat} (positive : 0 < k) (within : k ≤ 32) (bit : Bool) :
    ((id <<< k) ||| (if bit then 1 else 0)).toNat =
      id.toNat * 2 ^ k % 2 ^ 32 + if bit then 1 else 0 := by
  have one : (if bit then (1 : U32) else 0).toNat = if bit then 1 else 0 := by
    cases bit <;> rfl
  have low : (if bit then 1 else 0) < 2 ^ k := by
    have := Nat.one_lt_two_pow (Nat.ne_of_gt positive)
    split <;> omega
  have high : 2 ^ k ∣ id.toNat * 2 ^ k % 2 ^ 32 :=
    (Nat.dvd_mod_iff (Nat.pow_dvd_pow 2 within)).mpr (Nat.dvd_mul_left _ _)
  rw [BitVec.toNat_or, BitVec.toNat_shiftLeft, Nat.shiftLeft_eq, one, Masks.or_eq_add high low]

end LittleEndian

section Records

theorem stored_status : ∀ x : U8, ∀ rtr ext : Bool,
    let statusLen := (x &&& stlnDataLength) ||| (if rtr then stlnRtr else 0) |||
      (if ext then stlnExtendedId else 0)
    (statusLen &&& stlnDataLength = x &&& stlnDataLength) ∧
      (statusLen &&& stlnRtr ≠ 0 ↔ rtr = true) ∧
      (statusLen &&& stlnExtendedId ≠ 0 ↔ ext = true) := by
  decide

variable {ucRevision : Nat} {tx : PcanfdTxmsg}

theorem pcanUsbFlags_other {bit : U32} (other : pcanfdMsgSlf &&& bit = 0) :
    pcanUsbFlags ucRevision tx &&& bit = tx.msg.flags &&& bit := by
  unfold pcanUsbFlags
  split
  · exact Masks.andNot_and_of_disjoint _ other
  · rfl

theorem pcanUsbFlags_slf : pcanUsbFlags ucRevision tx &&& pcanfdMsgSlf ≠ 0 ↔
    41 ≤ ucRevision ∧ tx.msg.flags &&& pcanfdMsgSlf ≠ 0 := by
  unfold pcanUsbFlags
  by_cases old : ucRevision < 41
  · rw [if_pos old, Masks.andNot_and_self]
    exact iff_of_false (not_not.mpr rfl) fun both => by omega
  · rw [if_neg old, and_iff_right (Nat.le_of_not_lt old)]

/-- The id field of a record: the id is cut to the width that its shift leaves. -/
theorem pcanUsbLocalId_read (flags : U32) (tx : PcanfdTxmsg) (ext slf : Bool)
    (extended : flags &&& pcanfdMsgExt ≠ 0 ↔ ext = true)
    (received : flags &&& pcanfdMsgSlf ≠ 0 ↔ slf = true) :
    (pcanUsbLocalId flags tx).length = (if ext then 4 else 2) ∧
      leNat (pcanUsbLocalId flags tx) / (if ext then 8 else 32) =
        tx.msg.id.toNat % (if ext then 2 ^ 29 else 2 ^ 11) ∧
      (leNat (pcanUsbLocalId flags tx) % 2 = 1 ↔ slf = true) := by
  have small := tx.msg.id.isLt
  unfold pcanUsbLocalId
  simp only [extended, received]
  cases ext with
  | true =>
    simp only [if_true]
    rw [leNat_le32, shifted_id _ (by decide) (by decide)]
    cases slf <;> simp only [le32, List.length_cons, List.length_nil, if_true, Bool.false_eq_true,
      if_false, iff_true, iff_false, true_and] <;> omega
  | false =>
    simp only [Bool.false_eq_true, if_false]
    rw [leNat_take2, shifted_id _ (by decide) (by decide)]
    cases slf <;> simp only [le32, List.take_succ_cons, List.take_zero, List.length_cons,
      List.length_nil, if_true, Bool.false_eq_true, if_false, iff_true, iff_false,
      true_and] <;> omega

theorem pcanUsbLen_short (short : tx.msg.dataLen.toNat ≤ 8) :
    (pcanUsbLen tx).toNat = tx.msg.dataLen.toNat := by
  have ones : stlnDataLength.toNat = 2 ^ 4 - 1 := rfl
  unfold pcanUsbLen
  rw [BitVec.toNat_and, ones, Nat.and_two_pow_sub_one_eq_mod, BitVec.toNat_setWidth]
  omega

theorem pcanUsbData_short (flags : U32) (short : tx.msg.dataLen.toNat ≤ 8) :
    pcanUsbData flags tx =
      if flags &&& pcanfdMsgRtr ≠ 0 then [] else tx.msg.data.toList.take tx.msg.dataLen.toNat := by
  have whole : tx.msg.data.toList.length = 64 := Vector.length_toList
  unfold pcanUsbData
  by_cases rtr : flags &&& pcanfdMsgRtr ≠ 0
  · rw [if_pos rtr, if_pos rtr]
  rw [if_neg rtr, if_neg rtr, pcanUsbLen_short short, ← Store.map_getD_range (by omega) 0]
  apply List.map_congr_left
  intro j before
  exact if_pos (by rw [List.mem_range] at before; omega)

theorem readUsbRecord_fields {statusLen : U8} {ext rtr slf : Bool} {id data tail : List U8}
    (extended : statusLen &&& stlnExtendedId ≠ 0 ↔ ext = true)
    (remote : statusLen &&& stlnRtr ≠ 0 ↔ rtr = true)
    (width : id.length = if ext then 4 else 2)
    (size : data.length = if rtr then 0 else (statusLen &&& stlnDataLength).toNat)
    (received : leNat id % 2 = 1 ↔ slf = true) (last : tail.length = if slf then 1 else 0)
    (rest : List U8) :
    readUsbRecord (statusLen :: (id ++ (data ++ (tail ++ rest)))) =
      some (⟨leNat id / (if ext then 8 else 32), ext, rtr, slf,
        (statusLen &&& stlnDataLength).toNat, data⟩, rest) := by
  have all : (id ++ (data ++ (tail ++ rest))).length =
      id.length + data.length + tail.length + rest.length := by
    simp only [List.length_append, Nat.add_assoc]
  have front : (id ++ (data ++ (tail ++ rest))).drop (id.length + data.length + tail.length) =
      rest := by
    rw [← List.drop_drop, ← List.drop_drop, List.drop_left, List.drop_left, List.drop_left]
  unfold readUsbRecord
  simp only [extended, remote, Bool.decide_eq_true, ← width, ← size, List.take_left, received,
    ← last]
  rw [if_neg (by rw [all]; omega), front, List.drop_left, List.take_left]

theorem pcanUsbStatusLen_read (flags : U32) (short : tx.msg.dataLen.toNat ≤ 8) :
    (pcanUsbStatusLen flags tx &&& stlnDataLength).toNat = tx.msg.dataLen.toNat ∧
      (pcanUsbStatusLen flags tx &&& stlnRtr ≠ 0 ↔ flags &&& pcanfdMsgRtr ≠ 0) ∧
      (pcanUsbStatusLen flags tx &&& stlnExtendedId ≠ 0 ↔ flags &&& pcanfdMsgExt ≠ 0) := by
  have read := stored_status (tx.msg.dataLen.setWidth 8) (flags &&& pcanfdMsgRtr ≠ 0 : Bool)
    (flags &&& pcanfdMsgExt ≠ 0 : Bool)
  simp only [decide_eq_true_eq] at read
  refine ⟨?_, read.2.1, read.2.2⟩
  rw [← pcanUsbLen_short short]
  exact congrArg BitVec.toNat read.1

theorem pcanUsbRecord_reads (ucRevision : Nat) (short : tx.msg.dataLen.toNat ≤ 8) :
    Reads readUsbRecord (pcanUsbRecord ucRevision tx) (usbFrame ucRevision tx) := by
  intro rest
  have whole : tx.msg.data.toList.length = 64 := Vector.length_toList
  obtain ⟨slf, received⟩ : ∃ slf : Bool,
      (pcanUsbFlags ucRevision tx &&& pcanfdMsgSlf ≠ 0 ↔ slf = true) :=
    ⟨decide _, decide_eq_true_iff.symm⟩
  obtain ⟨ext, extended⟩ : ∃ ext : Bool,
      (pcanUsbFlags ucRevision tx &&& pcanfdMsgExt ≠ 0 ↔ ext = true) :=
    ⟨decide _, decide_eq_true_iff.symm⟩
  obtain ⟨rtr, remote⟩ : ∃ rtr : Bool,
      (pcanUsbFlags ucRevision tx &&& pcanfdMsgRtr ≠ 0 ↔ rtr = true) :=
    ⟨decide _, decide_eq_true_iff.symm⟩
  obtain ⟨len, status_rtr, status_ext⟩ :=
    pcanUsbStatusLen_read (pcanUsbFlags ucRevision tx) short
  obtain ⟨width, id, low⟩ := pcanUsbLocalId_read _ tx ext slf extended received
  have bytes : pcanUsbRecord ucRevision tx ++ rest =
      pcanUsbStatusLen (pcanUsbFlags ucRevision tx) tx ::
        (pcanUsbLocalId (pcanUsbFlags ucRevision tx) tx ++
          ((if rtr then [] else tx.msg.data.toList.take tx.msg.dataLen.toNat) ++
            ((if slf then [0x80] else []) ++ rest))) := by
    unfold pcanUsbRecord
    simp only [pcanUsbData_short _ short, received, remote, List.append_assoc,
      List.cons_append, List.nil_append]
  have size : (if rtr then [] else tx.msg.data.toList.take tx.msg.dataLen.toNat : List U8).length =
      if rtr then 0
      else (pcanUsbStatusLen (pcanUsbFlags ucRevision tx) tx &&& stlnDataLength).toNat := by
    rw [len]
    cases rtr with
    | true => rfl
    | false => exact List.length_take_of_le (by omega)
  have last : (if slf then [0x80] else [] : List U8).length = if slf then 1 else 0 := by
    cases slf <;> rfl
  rw [bytes, readUsbRecord_fields (status_ext.trans extended) (status_rtr.trans remote) width size
    low last, len, id]
  rw [pcanUsbFlags_other (by decide)] at extended remote
  rw [pcanUsbFlags_slf] at received
  unfold usbFrame
  simp only [extended, remote, received, Bool.decide_eq_true]

end Records

section Telegram

theorem length_le_flatMap {A B : Type} {record : A → List B} {xs : List A}
    (positive : ∀ x ∈ xs, 0 < (record x).length) : xs.length ≤ (xs.flatMap record).length := by
  induction xs with
  | nil => exact Nat.le_refl 0
  | cons x xs ih =>
    have first := positive x List.mem_cons_self
    have others := ih fun y member => positive y (List.mem_cons_of_mem _ member)
    rw [List.flatMap_cons, List.length_append, List.length_cons]
    omega

variable {context : TxContext} {fifo : List PcanfdTxmsg} {old : List U8}

/-- A packet with frames in it: the records lie between the two bytes in front and the counter. -/
theorem telegram_of_records {packed rest : List PcanfdTxmsg} {err : Int} {later : TxContext}
    {taken : List PcanfdTxmsg} (whole : old.length = 64) (account : packed ++ rest = fifo)
    (nonempty : fifo ≠ []) (short : ∀ tx ∈ packed, tx.msg.dataLen.toNat ≤ 8)
    (inside : (packed.flatMap (pcanUsbRecord context.ucRevision)).length ≤ 61) :
    UsbTelegram context fifo old ⟨taken, packed, rest,
      2 :: BitVec.ofNat 8 packed.length :: packed.flatMap (pcanUsbRecord context.ucRevision),
      some (context.dwTelegramCount.setWidth 8), 64, err, later⟩ := by
  have records : ∀ tx ∈ packed, 0 < (pcanUsbRecord context.ucRevision tx).length :=
    fun tx member => (pcanUsbRecord_length (short tx member)).1
  have few := length_le_flatMap records
  have count : (BitVec.ofNat 8 packed.length).toNat = packed.length := by
    rw [BitVec.toNat_ofNat]
    exact Nat.mod_eq_of_lt (by omega)
  generalize bytes : packed.flatMap (pcanUsbRecord context.ucRevision) = payload at inside few
  have stored : ∀ last : U8,
      ((2 :: BitVec.ofNat 8 packed.length :: payload) ++
        old.drop (2 :: BitVec.ofNat 8 packed.length :: payload).length).set 63 last =
      2 :: BitVec.ofNat 8 packed.length :: (payload ++
        (old.drop (payload.length + 2)).set (61 - payload.length) last) := by
    intro last
    rw [List.length_cons, List.length_cons, List.cons_append, List.cons_append,
      List.set_cons_succ, List.set_cons_succ, List.set_append_right _ _ (by omega)]
  constructor
  case inside =>
    simp only [List.length_cons]
    omega
  case counter =>
    refine fun _ => ⟨rfl, ?_⟩
    simp only [Encoded.store, Nat.add_one_sub_one]
    apply List.getElem?_set_self
    simp only [List.length_append, List.length_cons, List.length_drop]
    omega
  case counted =>
    simp only [Encoded.store, Nat.add_one_sub_one, stored]
    exact count
  case account => exact account
  case records =>
    refine ⟨(old.drop (payload.length + 2)).set (61 - payload.length)
      (context.dwTelegramCount.setWidth 8), ?_⟩
    simp only [Encoded.store, Nat.add_one_sub_one, stored, List.getD_cons_succ, List.getD_cons_zero,
      count, List.drop_succ_cons, List.drop_zero]
    rw [← bytes]
    exact readMany_layout packed
      (fun tx member => pcanUsbRecord_reads context.ucRevision (short tx member)) _
  case empty => exact fun empty => absurd empty nonempty

/-- However frames are mixed, a telegram says what it was made of. -/
theorem usb_telegram_read_back (context : TxContext) (fifo : List PcanfdTxmsg)
    (short : ∀ tx ∈ fifo, tx.msg.dataLen.toNat ≤ 8) (old : Vector U8 64) :
    UsbTelegram context fifo old.toList (pcanUsbEncodeMessage context fifo 64) := by
  have whole : old.toList.length = 64 := Vector.length_toList
  have within := pcanUsbPacking_bound context short (by decide : 17 ≤ 64)
  have packs := @pcanUsbPacking_length context fifo 64 short
  have bytes := Packing.pack_bytes (pcanUsbPacking context 64) fifo [2, 0]
  have all := Packing.pack_packed_all (pcanUsbPacking context 64) [2, 0]
    (fun tx (_ : tx ∈ fifo) => rfl)
  have account := Packing.pack_account (pcanUsbPacking context 64) fifo [2, 0]
  have members := Packing.pack_packed_subset (pcanUsbPacking context 64) fifo [2, 0]
  rw [← all] at account
  unfold pcanUsbEncodeMessage
  dsimp only
  by_cases filled : (Packing.pack (pcanUsbPacking context 64) fifo [2, 0]).bytes.length > 2
  · have payload : (Packing.pack (pcanUsbPacking context 64) fifo [2, 0]).bytes.drop 2 =
        (Packing.pack (pcanUsbPacking context 64) fifo [2, 0]).packed.flatMap
          (pcanUsbRecord context.ucRevision) := by
      rw [bytes]
      rfl
    rw [if_pos filled, payload]
    apply telegram_of_records whole account
    · intro empty
      subst empty
      exact packs.mp filled rfl
    · exact fun tx member => short tx (members tx member)
    · rw [← payload, List.length_drop]
      omega
  · have nothing : (Packing.pack (pcanUsbPacking context 64) fifo [2, 0]).packed = [] :=
      not_not.mp (mt packs.mpr filled)
    have empty : fifo = [] := by
      by_contra nonempty
      refine Packing.pack_progress (pcanUsbPacking context 64) ?_ (fun _ _ => rfl) nonempty
        (all ▸ nothing)
      exact pcanUsbPacking_more context (by decide)
    subst empty
    rw [if_neg filled]
    constructor
    case inside => exact (by decide : 2 ≤ 63)
    case counter => exact fun nonempty => absurd rfl nonempty
    case counted => rfl
    case account => rfl
    case records => exact ⟨_, rfl⟩
    case empty => exact fun _ => ⟨rfl, rfl⟩

end Telegram

section Samples

def selfReceivedFrame : PcanfdTxmsg where
  msg := { (default : PcanfdMsg) with
    id := 0x123, flags := pcanfdMsgExt ||| pcanfdMsgSlf, dataLen := 2 }
  tv := ⟨0, 0⟩

theorem self_received_read_back :
    UsbTelegram ⟨0, 0, 41, 7⟩ [selfReceivedFrame] (Vector.replicate 64 0).toList
      (pcanUsbEncodeMessage ⟨0, 0, 41, 7⟩ [selfReceivedFrame] 64) :=
  usb_telegram_read_back _ _ (by decide) _

end Samples

end PcanDriver

import Mathlib.Order.Basic
import PcanDriver.TxEncode

/-!
What the write loop may rely on, whichever encoder is behind it: frames leave the
FIFO in order, a packet with frames in it is never taken for an empty one, and the
bytes of a packet stay inside of it.
-/
namespace PcanDriver

/-- Lengths that `pcanfd_send_msg` lets through; only uCAN channels can be FD. -/
def Sendable (family : UsbFamily) (tx : PcanfdTxmsg) : Prop :=
  tx.msg.dataLen.toNat ≤ if family = .ucan then 64 else 8

def minPacketSize : UsbFamily → Nat
  | .pcanUsb => 17
  | .usbPro => 21
  | .ucan => 92

def txRecord : UsbFamily → TxContext → PcanfdTxmsg → List U8
  | .pcanUsb, context => pcanUsbRecord context.ucRevision
  | .usbPro, context => pcanUsbproTxRecord context.nChannel
  | .ucan, context => ucanTxRecord context

/-- Only the USB-Pro encoder leaves out frames that it takes. -/
def Skipped (family : UsbFamily) (tx : PcanfdTxmsg) : Bool :=
  family = .usbPro && tx.msg.flags &&& msgtypeStatus ≠ 0

structure EncodeSpec (family : UsbFamily) (context : TxContext) (fifo : List PcanfdTxmsg)
    (packetSize : Nat) (e : Encoded) : Prop where
  account : e.taken ++ e.rest = fifo
  packed : e.packed = e.taken.filter (!Skipped family ·)
  result : 0 ≤ e.err ∨ e.err = -enospc ∨ e.err = -enodata
  drained : e.err = -enodata → e.rest = []
  progress : fifo ≠ [] → e.taken ≠ []
  filled : e.err ≠ -enodata → e.packed ≠ []
  layout : ∃ head tail, e.bytes = head ++ e.packed.flatMap (txRecord family context) ++ tail
  inside : e.bytes.length ≤ packetSize
  trailer : e.trailer.isSome → e.bytes.length < packetSize
  size_le : e.size ≤ packetSize
  covers : e.packed ≠ [] → e.bytes.length ≤ e.size ∧ 0 < e.size
  empty : e.packed = [] → e.size = 0

/-- Packet sizes for which the encoders work: those of `usb_write_sizes` are. -/
def PacketSize (family : UsbFamily) (size : Nat) : Prop :=
  minPacketSize family ≤ size ∧ size % 4 = 0

instance (family : UsbFamily) (size : Nat) : Decidable (PacketSize family size) :=
  inferInstanceAs (Decidable (_ ∧ _))

theorem le32_length (x : U32) : (le32 x).length = 4 := rfl

section FromPacking
variable {family : UsbFamily} {context : TxContext} {fifo : List PcanfdTxmsg}
  {packetSize : Nat} {e : Encoded}

/-- What is left to show of an encoder that fills its packet with `k`, from the
    bytes `start` on. -/
structure EncodedBy (family : UsbFamily) (context : TxContext) (fifo : List PcanfdTxmsg)
    (packetSize : Nat) (e : Encoded) (k : Packing PcanfdTxmsg U8) (start : List U8) : Prop where
  record : k.record = txRecord family context
  skip : k.skip = Skipped family
  more : k.more start.length = true
  fits : ∀ tx ∈ fifo, k.fits start.length tx = true
  taken : e.taken = (k.pack fifo start).taken
  packed : e.packed = (k.pack fifo start).packed
  rest : e.rest = (k.pack fifo start).rest
  result : 0 ≤ e.err ∨ e.err = -enospc ∨ e.err = -enodata
  drained : e.err = -enodata ↔ (k.pack fifo start).stop = .drained
  bytes : ∃ head tail, e.bytes = head ++ (k.pack fifo start).bytes.drop start.length ++ tail
  inside : e.bytes.length ≤ packetSize
  trailer : e.trailer.isSome → e.bytes.length < packetSize
  size_le : e.size ≤ packetSize
  covers : e.packed ≠ [] → e.bytes.length ≤ e.size ∧ 0 < e.size
  empty : e.packed = [] → e.size = 0

theorem EncodedBy.spec {k : Packing PcanfdTxmsg U8} {start : List U8}
    (by_packing : EncodedBy family context fifo packetSize e k start) :
    EncodeSpec family context fifo packetSize e where
  account := by
    rw [by_packing.taken, by_packing.rest]
    exact Packing.pack_account k fifo start
  packed := by
    rw [by_packing.taken, by_packing.packed, ← by_packing.skip]
    exact Packing.pack_packed k fifo start
  result := by_packing.result
  drained err := by
    rw [by_packing.rest]
    exact Packing.pack_drained k fifo start (by_packing.drained.1 err)
  progress nonempty := by
    rw [by_packing.taken]
    exact Packing.pack_progress k by_packing.more by_packing.fits nonempty
  filled err := by
    rw [by_packing.packed]
    apply Packing.pack_packed_ne k fifo start by_packing.more by_packing.fits
    exact fun stop => err (by_packing.drained.2 stop)
  layout := by
    obtain ⟨head, tail, bytes⟩ := by_packing.bytes
    refine ⟨head, tail, ?_⟩
    rw [bytes, Packing.pack_bytes, List.drop_left, by_packing.packed, by_packing.record]
  inside := by_packing.inside
  trailer := by_packing.trailer
  size_le := by_packing.size_le
  covers := by_packing.covers
  empty := by_packing.empty

theorem drainResult (stop : Packing.Stop) :
    (0 ≤ (if stop = .drained then -enodata else 0) ∨
      (if stop = .drained then -enodata else 0) = -enospc ∨
      (if stop = .drained then -enodata else 0) = -enodata) ∧
    ((if stop = .drained then -enodata else 0) = -enodata ↔ stop = .drained) := by
  cases stop <;> decide

theorem flatMap_length_pos {A B : Type} {record : A → List B} {xs : List A}
    (pos : ∀ x ∈ xs, 0 < (record x).length) : 0 < (xs.flatMap record).length ↔ xs ≠ [] := by
  cases xs with
  | nil => simp
  | cons x xs =>
    have first := pos x List.mem_cons_self
    simp only [List.flatMap_cons, List.length_append, ne_eq, reduceCtorEq, not_false_eq_true,
      iff_true]
    omega

theorem flatMap_length_mod {A B : Type} {record : A → List B} {unit : Nat} {xs : List A}
    (multiple : ∀ x ∈ xs, (record x).length % unit = 0) :
    (xs.flatMap record).length % unit = 0 := by
  induction xs with
  | nil => exact Nat.zero_mod unit
  | cons x xs ih =>
    have later := ih (fun y mem => multiple y (List.mem_cons_of_mem _ mem))
    rw [List.flatMap_cons, List.length_append, Nat.add_mod, multiple x List.mem_cons_self, later,
      Nat.zero_mod]

end FromPacking

section Ucan

theorem pcanDlc2len_le (dlc : U8) : pcanDlc2len dlc ≤ 64 := by
  have all : ∀ n ∈ pcanFdDlc2len, n ≤ 64 := by decide
  unfold pcanDlc2len
  rw [List.getD_eq_getElem?_getD]
  cases entry : pcanFdDlc2len[(dlc &&& 0x0F).toNat]? with
  | none => simp
  | some n => exact all n (List.mem_of_getElem? entry)

theorem dlc_holds_length : ∀ n : Fin 65, n.val ≤ pcanDlc2len (pcanLen2dlc (BitVec.ofNat 8 n)) := by
  decide

theorem ucanTx_data_fits {tx : PcanfdTxmsg} (short : tx.msg.dataLen.toNat ≤ 64) :
    tx.msg.dataLen.toNat ≤ pcanDlc2len (ucanTxDlc tx) := by
  have cut : tx.msg.dataLen.setWidth 8 = BitVec.ofNat 8 tx.msg.dataLen.toNat := by
    apply BitVec.eq_of_toNat_eq
    simp [BitVec.toNat_setWidth]
  have := dlc_holds_length ⟨tx.msg.dataLen.toNat, by omega⟩
  unfold ucanTxDlc
  rw [cut]
  exact this

theorem ucanTxMsgSize_bounds (tx : PcanfdTxmsg) :
    20 + pcanDlc2len (ucanTxDlc tx) ≤ ucanTxMsgSize tx ∧ ucanTxMsgSize tx ≤ 84 := by
  have := pcanDlc2len_le (ucanTxDlc tx)
  unfold ucanTxMsgSize align4
  omega

theorem ucanTxRecord_length (context : TxContext) {tx : PcanfdTxmsg}
    (short : tx.msg.dataLen.toNat ≤ 64) :
    (ucanTxRecord context tx).length = ucanTxNeeds context.txIframeDelayUs tx := by
  have fits := ucanTx_data_fits short
  have bounds := ucanTxMsgSize_bounds tx
  have data : (ucanTxData tx).length = ucanTxMsgSize tx - 20 := by
    simp only [ucanTxData, List.length_append, List.length_take, List.length_replicate,
      Vector.length_toList]
    omega
  have pause : (ucanTxPause context.txIframeDelayUs).length =
      if context.txIframeDelayUs = 0 then 0 else 8 := by
    unfold ucanTxPause
    split <;> rfl
  simp only [ucanTxRecord, ucanTxMsg, ucanTxNeeds, List.length_append, data, pause, le16, le32,
    List.length_cons, List.length_nil]
  omega

theorem ucanTxNeeds_le (delay : U32) (tx : PcanfdTxmsg) : ucanTxNeeds delay tx ≤ 92 := by
  have := ucanTxMsgSize_bounds tx
  unfold ucanTxNeeds
  split <;> omega

theorem ucanTxNeeds_pos (delay : U32) (tx : PcanfdTxmsg) : 0 < ucanTxNeeds delay tx := by
  have := ucanTxMsgSize_bounds tx
  unfold ucanTxNeeds
  omega

theorem align4_mod (n : Nat) : align4 n % 4 = 0 := by
  unfold align4
  omega

theorem ucanPacking_aligned (context : TxContext) {fifo : List PcanfdTxmsg} (bufferSize : Nat)
    (sendable : ∀ tx ∈ fifo, Sendable .ucan tx) :
    ((ucanPacking context bufferSize).pack fifo []).bytes.length % 4 = 0 := by
  rw [Packing.pack_bytes, List.nil_append]
  apply flatMap_length_mod
  intro tx mem
  have aligned := align4_mod (20 + pcanDlc2len (ucanTxDlc tx))
  show (ucanTxRecord context tx).length % 4 = 0
  rw [ucanTxRecord_length context (sendable tx (Packing.pack_packed_subset _ _ _ tx mem))]
  unfold ucanTxNeeds ucanTxMsgSize
  split <;> omega

theorem ucanPacking_bound (context : TxContext) {fifo : List PcanfdTxmsg} (bufferSize : Nat)
    (sendable : ∀ tx ∈ fifo, Sendable .ucan tx) :
    ((ucanPacking context bufferSize).pack fifo []).bytes.length ≤ bufferSize := by
  apply Packing.pack_bound
  · intro n tx mem _ fits
    simp only [ucanPacking, decide_eq_true_eq] at fits ⊢
    rw [ucanTxRecord_length context (sendable tx mem)]
    exact fits
  · exact Nat.zero_le _

theorem ucanPacking_empty (context : TxContext) {fifo : List PcanfdTxmsg} (bufferSize : Nat)
    (sendable : ∀ tx ∈ fifo, Sendable .ucan tx) :
    ((ucanPacking context bufferSize).pack fifo []).bytes.length = 0 ↔
      ((ucanPacking context bufferSize).pack fifo []).packed = [] := by
  have pos := @flatMap_length_pos _ _ (ucanTxRecord context)
    ((ucanPacking context bufferSize).pack fifo []).packed (by
      intro tx mem
      rw [ucanTxRecord_length context (sendable tx (Packing.pack_packed_subset _ _ _ tx mem))]
      exact ucanTxNeeds_pos _ _)
  rw [Packing.pack_bytes, List.nil_append, ← not_iff_not, ← ne_eq, ← Nat.pos_iff_ne_zero]
  exact pos

theorem ucanEncodeResult_spec (context : TxContext) (stop : Packing.Stop)
    (packed : List PcanfdTxmsg) :
    (0 ≤ ucanEncodeResult context stop packed ∨
      ucanEncodeResult context stop packed = -enospc ∨
      ucanEncodeResult context stop packed = -enodata) ∧
    (ucanEncodeResult context stop packed = -enodata ↔ stop = .drained) := by
  cases stop with
  | drained => exact ⟨.inr (.inr rfl), iff_of_true rfl rfl⟩
  | noSpace => exact ⟨.inr (.inl rfl), by simp [ucanEncodeResult, enospc, enodata]⟩
  | full =>
    have nonneg : 0 ≤ ucanEncodeResult context .full packed := by
      simp only [ucanEncodeResult]
      split <;> omega
    simp only [enodata, reduceCtorEq, iff_false]
    omega

theorem ucanEncodeMsgsBuffer_spec (context : TxContext) {fifo : List PcanfdTxmsg}
    {packetSize : Nat} (sendable : ∀ tx ∈ fifo, Sendable .ucan tx)
    (size : PacketSize .ucan packetSize) :
    EncodeSpec .ucan context fifo packetSize
      (ucanEncodeMsgsBuffer context fifo packetSize) := by
  obtain ⟨large, aligned⟩ := size
  simp only [minPacketSize] at large
  have bound := ucanPacking_bound context packetSize sendable
  have multiple := ucanPacking_aligned context packetSize sendable
  have empty := ucanPacking_empty context packetSize sendable
  have more : (ucanPacking context packetSize).more 0 = true := decide_eq_true (by omega)
  have fits : ∀ tx ∈ fifo, (ucanPacking context packetSize).fits 0 tx = true := by
    intro tx _
    have := ucanTxNeeds_le context.txIframeDelayUs tx
    exact decide_eq_true (by omega)
  have packed_ne := Packing.pack_packed_ne (ucanPacking context packetSize) fifo [] more fits
  have eor : ∀ msgLen, msgLen ≤ packetSize → msgLen % 4 = 0 →
      msgLen + (if msgLen < packetSize then [0, 0, 0, 0] else ([] : List U8)).length ≤
        packetSize := by
    intro msgLen
    split <;> simp only [List.length_cons, List.length_nil] <;> omega
  apply @EncodedBy.spec _ _ _ _ _ (ucanPacking context packetSize) []
  unfold ucanEncodeMsgsBuffer
  by_cases nothing : ((ucanPacking context packetSize).pack fifo []).bytes.length = 0
  · have none_packed := empty.1 nothing
    have stop : ((ucanPacking context packetSize).pack fifo []).stop = .drained :=
      not_not.1 (mt packed_ne (not_not.2 none_packed))
    simp only [if_pos nothing]
    constructor
    case more => exact more
    case fits => exact fits
    case drained => exact ⟨fun _ => stop, fun _ => rfl⟩
    case result => exact .inr (.inr rfl)
    case bytes =>
      refine ⟨[], [], ?_⟩
      rw [List.eq_nil_of_length_eq_zero nothing]
      rfl
    case inside => exact Nat.zero_le _
    case trailer => exact fun absent => absurd absent (by simp)
    case size_le => exact Nat.zero_le _
    case covers => exact fun nonempty => absurd none_packed nonempty
    all_goals first | rfl | exact fun _ => rfl
  · simp only [if_neg nothing]
    constructor
    case more => exact more
    case fits => exact fits
    case drained => exact (ucanEncodeResult_spec _ _ _).2
    case result => exact (ucanEncodeResult_spec _ _ _).1
    case bytes => exact ⟨[], _, rfl⟩
    case inside => exact List.length_append.trans_le (eor _ bound multiple)
    case trailer => exact fun absent => absurd absent (by simp)
    case size_le => exact eor _ bound multiple
    case covers =>
      exact fun _ => ⟨Nat.le_of_eq List.length_append,
        Nat.add_pos_left (Nat.pos_of_ne_zero nothing) _⟩
    case empty => exact fun none_packed => absurd (empty.2 none_packed) nothing
    all_goals rfl

end Ucan

section PcanUsb

theorem pcanUsbLen_le {tx : PcanfdTxmsg} (short : tx.msg.dataLen.toNat ≤ 8) :
    (pcanUsbLen tx).toNat ≤ 8 := by
  unfold pcanUsbLen
  rw [BitVec.toNat_and]
  apply Nat.le_trans Nat.and_le_left
  rw [BitVec.toNat_setWidth]
  exact Nat.le_trans (Nat.mod_le _ _) short

theorem pcanUsbLocalId_length (flags : U32) (tx : PcanfdTxmsg) :
    (pcanUsbLocalId flags tx).length ≤ 4 := by
  simp only [pcanUsbLocalId]
  by_cases ext : flags &&& pcanfdMsgExt ≠ 0
  · rw [if_pos ext]
    exact Nat.le_refl 4
  · rw [if_neg ext, List.length_take, le32_length]
    omega

theorem pcanUsbData_length (flags : U32) (tx : PcanfdTxmsg) :
    (pcanUsbData flags tx).length ≤ (pcanUsbLen tx).toNat := by
  unfold pcanUsbData
  split <;> simp

theorem pcanUsbRecord_length {ucRevision : Nat} {tx : PcanfdTxmsg}
    (short : tx.msg.dataLen.toNat ≤ 8) :
    0 < (pcanUsbRecord ucRevision tx).length ∧ (pcanUsbRecord ucRevision tx).length ≤ 14 := by
  have id := pcanUsbLocalId_length (pcanUsbFlags ucRevision tx) tx
  have data := pcanUsbData_length (pcanUsbFlags ucRevision tx) tx
  have len := pcanUsbLen_le short
  have tail : (if pcanUsbFlags ucRevision tx &&& pcanfdMsgSlf ≠ 0 then [(0x80 : U8)]
      else []).length ≤ 1 := by
    split <;> simp
  simp only [pcanUsbRecord, List.length_append, List.length_cons, List.length_nil] at tail ⊢
  omega

section
variable (context : TxContext) {fifo : List PcanfdTxmsg} {packetSize : Nat}

theorem pcanUsbPacking_more (large : 17 ≤ packetSize) :
    (pcanUsbPacking context packetSize).more 2 = true := by
  simp only [pcanUsbPacking, decide_eq_true_eq]
  omega

theorem pcanUsbPacking_bound (sendable : ∀ tx ∈ fifo, Sendable .pcanUsb tx)
    (large : 17 ≤ packetSize) :
    (Packing.pack (pcanUsbPacking context packetSize) fifo [2, 0]).bytes.length < packetSize := by
  have bound : (Packing.pack (pcanUsbPacking context packetSize) fifo [2, 0]).bytes.length ≤
      packetSize - 1 := by
    apply Packing.pack_bound
    · intro n tx mem more _
      have := (pcanUsbRecord_length (sendable tx mem) :
        0 < (pcanUsbRecord context.ucRevision tx).length ∧ _)
      simp only [pcanUsbPacking, decide_eq_true_eq] at more ⊢
      omega
    · simp only [List.length_cons, List.length_nil]
      omega
  omega

theorem pcanUsbPacking_length (sendable : ∀ tx ∈ fifo, Sendable .pcanUsb tx) :
    (Packing.pack (pcanUsbPacking context packetSize) fifo [2, 0]).bytes.length > 2 ↔
      (Packing.pack (pcanUsbPacking context packetSize) fifo [2, 0]).packed ≠ [] := by
  rw [Packing.pack_bytes, List.length_append,
    ← @flatMap_length_pos _ _ (pcanUsbPacking context packetSize).record]
  · simp only [List.length_cons, List.length_nil]
    omega
  · intro tx mem
    exact (pcanUsbRecord_length (sendable tx (Packing.pack_packed_subset _ _ _ tx mem))).1

theorem pcanUsbEncodeMessage_spec (sendable : ∀ tx ∈ fifo, Sendable .pcanUsb tx)
    (size : PacketSize .pcanUsb packetSize) :
    EncodeSpec .pcanUsb context fifo packetSize
      (pcanUsbEncodeMessage context fifo packetSize) := by
  have large : 17 ≤ packetSize := size.1
  have bound := pcanUsbPacking_bound context sendable large
  have length := @pcanUsbPacking_length context _ packetSize sendable
  have result := drainResult ((pcanUsbPacking context packetSize).pack fifo [2, 0]).stop
  have head : ∀ count : U8, (2 :: count ::
      ((pcanUsbPacking context packetSize).pack fifo [2, 0]).bytes.drop 2).length =
      ((pcanUsbPacking context packetSize).pack fifo [2, 0]).bytes.length := by
    intro count
    rw [Packing.pack_bytes]
    simp
  apply @EncodedBy.spec _ _ _ _ _ (pcanUsbPacking context packetSize) [2, 0]
  unfold pcanUsbEncodeMessage
  by_cases some_packed :
      ((pcanUsbPacking context packetSize).pack fifo [2, 0]).bytes.length > 2
  · simp only [if_pos some_packed]
    constructor
    case more => exact pcanUsbPacking_more context large
    case drained => exact result.2
    case result => exact result.1
    case bytes => exact ⟨[2, _], [], by rw [List.append_nil]; rfl⟩
    case inside => exact (head _).trans_le (Nat.le_of_lt bound)
    case trailer => exact fun _ => (head _).trans_lt bound
    case covers =>
      exact fun _ => ⟨(head _).trans_le (Nat.le_of_lt bound), (by omega : 0 < packetSize)⟩
    case empty => exact fun none_packed => absurd none_packed (length.1 some_packed)
    all_goals first | rfl | exact fun _ _ => rfl
  · have none_packed := not_not.1 (mt length.2 some_packed)
    simp only [if_neg some_packed]
    constructor
    case more => exact pcanUsbPacking_more context large
    case drained => exact result.2
    case result => exact result.1
    case bytes =>
      refine ⟨[2, 0], [], ?_⟩
      rw [Packing.pack_bytes, none_packed]
      rfl
    case inside => exact (by omega : 2 ≤ packetSize)
    case trailer => exact fun absent => absurd absent (by simp)
    case size_le => exact Nat.zero_le _
    case covers => exact fun nonempty => absurd none_packed nonempty
    all_goals first | rfl | exact fun _ _ => rfl | exact fun _ => rfl

end

end PcanUsb

section UsbPro

theorem pcanUsbproTxRecord_length (nChannel : Nat) (tx : PcanfdTxmsg) :
    8 ≤ (pcanUsbproTxRecord nChannel tx).length ∧
      (pcanUsbproTxRecord nChannel tx).length ≤ usbproRecMaxLen := by
  have kind : (pcanUsbproDataType tx).2 ≤ 8 := by
    unfold pcanUsbproDataType
    split
    · simp
    · split <;> simp
  simp only [pcanUsbproTxRecord, usbproRecMaxLen, List.length_append, List.length_cons,
    List.length_nil, le32_length, List.length_take]
  omega

section
variable (context : TxContext) {fifo : List PcanfdTxmsg} {packetSize : Nat}

theorem pcanUsbproPacking_more (large : 21 ≤ packetSize) :
    (pcanUsbproPacking context packetSize).more 4 = true := by
  apply decide_eq_true
  simp only [usbproRecMaxLen]
  omega

theorem pcanUsbproPacking_bound (counter : 4 ≤ packetSize) :
    ((pcanUsbproPacking context packetSize).pack fifo [0, 0, 0, 0]).bytes.length ≤
      packetSize := by
  apply Packing.pack_bound
  · intro n tx _ more _
    have := pcanUsbproTxRecord_length context.nChannel tx
    simp only [pcanUsbproPacking, decide_eq_true_eq] at more ⊢
    omega
  · simp only [List.length_cons, List.length_nil]
    omega

theorem pcanUsbproMsgEncode_spec (size : PacketSize .usbPro packetSize) :
    EncodeSpec .usbPro context fifo packetSize
      (pcanUsbproMsgEncode context fifo packetSize) := by
  have large : 21 ≤ packetSize := size.1
  have more := pcanUsbproPacking_more context large
  have bound := @pcanUsbproPacking_bound context fifo packetSize (by omega)
  have result := drainResult
    ((pcanUsbproPacking context packetSize).pack fifo [0, 0, 0, 0]).stop
  have head : ∀ counter : U32, (le32 counter ++
      ((pcanUsbproPacking context packetSize).pack fifo [0, 0, 0, 0]).bytes.drop 4).length =
      ((pcanUsbproPacking context packetSize).pack fifo [0, 0, 0, 0]).bytes.length := by
    intro counter
    rw [Packing.pack_bytes]
    simp [le32]
  apply @EncodedBy.spec _ _ _ _ _ (pcanUsbproPacking context packetSize) [0, 0, 0, 0]
  unfold pcanUsbproMsgEncode
  by_cases nothing : fifo = []
  · subst nothing
    rw [if_pos rfl]
    have stop : ((pcanUsbproPacking context packetSize).pack [] [0, 0, 0, 0]).stop = .drained :=
      if_pos more
    constructor
    case more => exact more
    case drained => exact ⟨fun _ => stop, fun _ => rfl⟩
    case result => exact .inr (.inr rfl)
    case bytes => exact ⟨[], [], rfl⟩
    case inside => exact Nat.zero_le _
    case trailer => exact fun absent => absurd absent (by simp)
    case size_le => exact Nat.zero_le _
    case covers => exact fun nonempty => absurd rfl nonempty
    all_goals first | rfl | exact fun _ _ => rfl | exact fun _ => rfl
  · have large_enough : ¬packetSize < usbproRecMaxLen := by
      simp only [usbproRecMaxLen]
      omega
    rw [if_neg nothing, if_neg large_enough]
    dsimp only
    constructor
    case more => exact more
    case drained => exact result.2
    case result => exact result.1
    case bytes => exact ⟨le32 _, [], by rw [List.append_nil]; rfl⟩
    case inside => exact (head _).trans_le bound
    case trailer => exact fun absent => absurd absent (by simp)
    case size_le =>
      refine Nat.le_trans ?_ bound
      dsimp only
      split <;> simp
    case covers =>
      intro nonempty
      have start : 4 ≤
          ((pcanUsbproPacking context packetSize).pack fifo [0, 0, 0, 0]).bytes.length := by
        rw [Packing.pack_bytes]
        simp
      dsimp only at nonempty ⊢
      rw [if_neg nonempty, head]
      exact ⟨Nat.le_refl _, Nat.lt_of_lt_of_le (by decide) start⟩
    case empty => exact fun none_packed => if_pos none_packed
    all_goals first | rfl | exact fun _ _ => rfl

end

end UsbPro

theorem deviceCtrlMsgEncode_spec {family : UsbFamily} (context : TxContext)
    {fifo : List PcanfdTxmsg} {packetSize : Nat} (sendable : ∀ tx ∈ fifo, Sendable family tx)
    (size : PacketSize family packetSize) :
    EncodeSpec family context fifo packetSize
      (deviceCtrlMsgEncode family context fifo packetSize) := by
  cases family with
  | pcanUsb => exact pcanUsbEncodeMessage_spec context sendable size
  | usbPro => exact pcanUsbproMsgEncode_spec context size
  | ucan => exact ucanEncodeMsgsBuffer_spec context sendable size

end PcanDriver

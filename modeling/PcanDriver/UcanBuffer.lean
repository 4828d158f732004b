import PcanDriver.Lib.RecordWalk
import PcanDriver.TxEncodeSpec
import PcanDriver.TxSide
import PcanDriver.UsbDecode

/-!
`ucan_encode_msg` and `ucan_encode_msgs_buffer` (`pcanfd_ucan.c`) with every store they
make into the buffer, and what a receiver finds when it walks over the buffer by the
rule of `ucan_handle_msgs_buffer`.
-/
namespace PcanDriver
variable {P : Type}

section Model

/-- The delay that is left in `dev->tx_iframe_delay_us` once a pause has been written. -/
def clampedDelay (delay : U32) : U32 :=
  if delay > ucanTxpauseDelayMax then ucanTxpauseDelayMax else delay

/-- The record is cleared, then its fields are set; client and tags stay 0. -/
def ucanMsgStores (nChannel addr : Nat) (tx : PcanfdTxmsg) : List (Store U8) :=
  [⟨addr, List.replicate (ucanTxMsgSize tx) 0⟩,
    ⟨addr + 2, le16 ucanMsgCanTx⟩,
    ⟨addr, le16 (BitVec.ofNat 16 (ucanTxMsgSize tx))⟩,
    ⟨addr + 16, le32 (ucanTxCanId tx.msg)⟩,
    ⟨addr + 12, [(BitVec.ofNat 8 nChannel &&& 0xf) ||| (ucanTxDlc tx <<< 4)]⟩,
    ⟨addr + 14, le16 (ucanTxFlags tx.msg)⟩,
    ⟨addr + 20, tx.msg.data.toList.take tx.msg.dataLen.toNat⟩]

def ucanPauseStores (addr : Nat) (delay : U32) : List (Store U8) :=
  if delay = 0 then []
  else
    [⟨addr + 2, le16 ucanMsgCanTxPause⟩, ⟨addr, le16 8⟩,
      ⟨addr + 4, le16 ((clampedDelay delay).setWidth 16)⟩, ⟨addr + 6, le16 0⟩]

def frameTaken (dev : Pcandev P) : Pcandev P :=
  { dev with
    writeFifo := dev.writeFifo.dropOldest
    txIframeDelayUs := clampedDelay dev.txIframeDelayUs }

structure EncodeStep (P : Type) where
  dev : Pcandev P
  stores : List (Store U8)
  err : Int

/-- `ucan_encode_msg` with `bufferSize` bytes left from `addr` on: a frame is taken out
    of the FIFO only when its record fits. -/
def ucanEncodeMsgAt (dev : Pcandev P) (addr : Nat) (bufferSize : Int) : EncodeStep P :=
  match dev.writeFifo.oldest with
  | none => ⟨dev, [], -enodata⟩
  | some tx =>
    let err : Int := ucanTxNeeds dev.txIframeDelayUs tx
    if err > bufferSize then ⟨dev, [], -enospc⟩
    else
      ⟨frameTaken dev, ucanMsgStores dev.nChannel addr tx ++
        ucanPauseStores (addr + ucanTxMsgSize tx) dev.txIframeDelayUs, err⟩

structure EncodeLoop (P : Type) where
  dev : Pcandev P
  stores : List (Store U8)
  msgLen : Nat
  msgCount : Nat
  err : Int

/-- The loop of `ucan_encode_msgs_buffer`. A pass that does not end it takes a frame. -/
def ucanEncodeLoop (bufferSize : Nat) : Nat → EncodeLoop P → EncodeLoop P
  | 0, s => s
  | fuel + 1, s =>
    if s.msgLen < bufferSize then
      let step := ucanEncodeMsgAt s.dev s.msgLen (bufferSize - s.msgLen : Nat)
      if step.err < 0 then { s with err := step.err }
      else if step.err = 0 then
        ucanEncodeLoop bufferSize fuel
          { s with dev := step.dev, stores := s.stores ++ step.stores, err := 0 }
      else
        ucanEncodeLoop bufferSize fuel
          ⟨step.dev, s.stores ++ step.stores, s.msgLen + step.err.toNat, s.msgCount + 1, step.err⟩
    else s

/-- `size` is the value left in `*buffer_size`. -/
structure EncodedBuffer (P : Type) where
  dev : Pcandev P
  stores : List (Store U8)
  size : Nat
  err : Int

def ucanEncodeMsgsBufferAt (dev : Pcandev P) (bufferSize : Nat) : EncodedBuffer P :=
  let s := ucanEncodeLoop bufferSize (dev.writeFifo.items.length + 1) ⟨dev, [], 0, 0, 0⟩
  if s.msgLen = 0 then ⟨s.dev, s.stores, 0, -enodata⟩
  else
    let eor : List (Store U8) := if s.msgLen < bufferSize then [⟨s.msgLen, [0, 0, 0, 0]⟩] else []
    ⟨{ s.dev with txFramesCounter := s.dev.txFramesCounter + BitVec.ofNat 32 s.msgCount },
      s.stores ++ eor, if s.msgLen < bufferSize then s.msgLen + 4 else s.msgLen,
      if s.err = 0 then s.msgCount else s.err⟩

/-- The stepping rule of `ucan_handle_msgs_buffer`: the size field rounded up to a
    multiple of 4; a null message ends the list. -/
def ucanStepOver (msg : Nat → U8) : Option Nat :=
  if u16At msg 0 = 0 then none else some (align4 (u16At msg 0).toNat)

def ucanRecType (r : List U8) : U16 := u16At (fun k => r.getD k 0) 2

/-- The records that stand for a frame: its own, and a pause when there is a delay. -/
def ucanTxRecords (nChannel : Nat) (delay : U32) (tx : PcanfdTxmsg) : List (List U8) :=
  if delay = 0 then [ucanTxMsg nChannel tx] else [ucanTxMsg nChannel tx, ucanTxPause delay]

/-- A frame as `pcanfd_send_msg` lets it into the FIFO. -/
def SentFrame (P : Type) (tx : PcanfdTxmsg) : Prop :=
  ∃ (dev : Pcandev P) (ptx checked : PcanfdTxmsg), checkTxmsg dev ptx = .ok checked ∧
    tx.msg = checked.msg

end Model

theorem SentFrame.short {tx : PcanfdTxmsg} (sent : SentFrame P tx) :
    tx.msg.dataLen.toNat ≤ 64 := by
  obtain ⟨dev, ptx, checked, accepted, same⟩ := sent
  rw [same]
  rcases checkTxmsg_length accepted with short | ⟨_, long⟩
  · exact Nat.le_trans (BitVec.le_def.mp short) (by decide)
  · exact BitVec.le_def.mp long

section Stores

theorem ucanTxData_eq {tx : PcanfdTxmsg} (short : tx.msg.dataLen.toNat ≤ 64) :
    ucanTxData tx = Store.patch (List.replicate (ucanTxMsgSize tx - 20) 0) 0
      (tx.msg.data.toList.take tx.msg.dataLen.toNat) := by
  have fits := ucanTx_data_fits short
  have bounds := ucanTxMsgSize_bounds tx
  simp only [ucanTxData, Store.patch, List.take_zero, List.nil_append, Nat.zero_add,
    List.drop_replicate]

theorem ucanMsgStores_read (nChannel addr : Nat) {tx : PcanfdTxmsg}
    (short : tx.msg.dataLen.toNat ≤ 64) (mem : Nat → U8) :
    (∀ s ∈ ucanMsgStores nChannel addr tx, s.Inside addr (addr + ucanTxMsgSize tx)) ∧
      Store.read (Store.run (ucanMsgStores nChannel addr tx) mem) addr (ucanTxMsgSize tx) =
        ucanTxMsg nChannel tx := by
  have fits := ucanTx_data_fits short
  have bounds := ucanTxMsgSize_bounds tx
  have inside : ∀ s ∈ ucanMsgStores nChannel addr tx,
      s.Inside addr (addr + ucanTxMsgSize tx) := by
    simp only [ucanMsgStores, List.forall_mem_cons, List.not_mem_nil, false_implies,
      implies_true, and_true, Store.Inside, List.length_replicate, le16, le32, List.length_cons,
      List.length_nil, List.length_take, Vector.length_toList]
    omega
  have cleared : Store.patch (Store.read mem addr (ucanTxMsgSize tx)) 0
      (List.replicate (ucanTxMsgSize tx) 0) =
      List.replicate 20 0 ++ List.replicate (ucanTxMsgSize tx - 20) 0 := by
    rw [Store.patch_all (by simp), List.replicate_append_replicate]
    congr 1
    omega
  refine ⟨inside, ?_⟩
  rw [Store.read_run inside]
  simp only [ucanMsgStores, List.foldl_cons, List.foldl_nil, Nat.add_sub_cancel_left, Nat.sub_self]
  -- the fields are in the first 20 bytes, the data behind them
  rw [cleared]
  iterate 5 rw [Store.patch_left _ (by simp [le16, le32, Store.patch])]
  exact (Store.patch_right _ _ _).trans (congrArg _ (ucanTxData_eq short).symm)

theorem ucanTxPause_clamped {delay : U32} (some_delay : delay ≠ 0) :
    ucanTxPause delay =
      le16 8 ++ le16 ucanMsgCanTxPause ++ le16 ((clampedDelay delay).setWidth 16) ++ le16 0 := by
  unfold ucanTxPause clampedDelay
  rw [if_neg some_delay]

theorem ucanTxPause_length (delay : U32) :
    (ucanTxPause delay).length = if delay = 0 then 0 else 8 := by
  unfold ucanTxPause
  split <;> rfl

theorem ucanPauseStores_read (addr : Nat) (delay : U32) (mem : Nat → U8) :
    (∀ s ∈ ucanPauseStores addr delay, s.Inside addr (addr + (ucanTxPause delay).length)) ∧
      Store.read (Store.run (ucanPauseStores addr delay) mem) addr (ucanTxPause delay).length =
        ucanTxPause delay := by
  by_cases none_wanted : delay = 0
  · subst none_wanted
    exact ⟨fun s member => absurd member List.not_mem_nil, rfl⟩
  · have length := ucanTxPause_length delay
    rw [if_neg none_wanted] at length
    have inside : ∀ s ∈ ucanPauseStores addr delay, s.Inside addr (addr + 8) := by
      simp only [ucanPauseStores, if_neg none_wanted, List.forall_mem_cons, List.not_mem_nil,
        false_implies, implies_true, and_true, Store.Inside, le16, List.length_cons,
        List.length_nil]
      omega
    rw [length]
    refine ⟨inside, ?_⟩
    rw [Store.read_run inside, ucanTxPause_clamped none_wanted]
    simp only [ucanPauseStores, if_neg none_wanted, List.foldl_cons, List.foldl_nil,
      Nat.add_sub_cancel_left, Nat.sub_self]
    simp [Store.patch, Store.read, le16, List.range_succ]

theorem ucanTxMsg_length (nChannel : Nat) {tx : PcanfdTxmsg}
    (short : tx.msg.dataLen.toNat ≤ 64) : (ucanTxMsg nChannel tx).length = ucanTxMsgSize tx := by
  rw [← (ucanMsgStores_read nChannel 0 short fun _ => 0).2, Store.read_length]

theorem ucanRecordStores_read {context : TxContext} {bytes : List U8} {tx : PcanfdTxmsg}
    (short : tx.msg.dataLen.toNat ≤ 64) {mem : Nat → U8}
    (written : Store.read mem 0 bytes.length = bytes) :
    let stores := ucanMsgStores context.nChannel bytes.length tx ++
      ucanPauseStores (bytes.length + ucanTxMsgSize tx) context.txIframeDelayUs
    (∀ s ∈ stores, s.Inside bytes.length
      (bytes.length + ucanTxNeeds context.txIframeDelayUs tx)) ∧
      Store.read (Store.run stores mem) 0 (bytes ++ ucanTxRecord context tx).length =
        bytes ++ ucanTxRecord context tx := by
  intro stores
  obtain ⟨msgInside, msgRead⟩ := ucanMsgStores_read context.nChannel bytes.length short mem
  obtain ⟨pauseInside, pauseRead⟩ := ucanPauseStores_read (bytes.length + ucanTxMsgSize tx)
    context.txIframeDelayUs (Store.run (ucanMsgStores context.nChannel bytes.length tx) mem)
  have needs : ucanTxNeeds context.txIframeDelayUs tx =
      ucanTxMsgSize tx + (ucanTxPause context.txIframeDelayUs).length := by
    rw [ucanTxNeeds, ucanTxPause_length]
  have inside : ∀ s ∈ stores, s.Inside bytes.length
      (bytes.length + ucanTxNeeds context.txIframeDelayUs tx) := by
    intro s member
    rcases List.mem_append.mp member with msg | pause
    · exact (msgInside s msg).weaken (Nat.le_refl _) (by omega)
    · exact (pauseInside s pause).weaken (by omega) (by omega)
  refine ⟨inside, ?_⟩
  have before := Store.read_run_before inside (Nat.le_refl _) mem
  have frame : Store.read (Store.run stores mem) bytes.length (ucanTxMsgSize tx) =
      ucanTxMsg context.nChannel tx := by
    rw [← msgRead, Store.run_append]
    apply Store.read_congr
    intro k less
    exact Store.run_outside pauseInside (.inl (by omega)) _
  rw [ucanTxRecord, List.length_append, List.length_append, ucanTxMsg_length _ short,
    Store.read_add, Store.read_add, before, written, Nat.zero_add, frame]
  rw [Store.run_append, pauseRead]

end Stores

section Loop

theorem clampedDelay_eq_zero (delay : U32) : clampedDelay delay = 0 ↔ delay = 0 := by
  unfold clampedDelay
  split
  next large =>
    constructor
    · intro zero
      exact absurd zero (by decide)
    · intro zero
      rw [zero] at large
      exact absurd large (by decide)
  next => rfl

theorem clampedDelay_idem (delay : U32) :
    clampedDelay (clampedDelay delay) = clampedDelay delay := by
  unfold clampedDelay
  split
  · rfl
  · rfl

/-- The frames are encoded with the delay of the call's start or its clamped value,
    which makes no difference to their records. -/
structure SameDelay (context : TxContext) (dev : Pcandev P) : Prop where
  channel : dev.nChannel = context.nChannel
  clamped : clampedDelay dev.txIframeDelayUs = clampedDelay context.txIframeDelayUs

theorem SameDelay.zero {context : TxContext} {dev : Pcandev P} (same : SameDelay context dev) :
    dev.txIframeDelayUs = 0 ↔ context.txIframeDelayUs = 0 := by
  rw [← clampedDelay_eq_zero, same.clamped, clampedDelay_eq_zero]

theorem SameDelay.needs {context : TxContext} {dev : Pcandev P} (same : SameDelay context dev)
    (tx : PcanfdTxmsg) :
    ucanTxNeeds dev.txIframeDelayUs tx = ucanTxNeeds context.txIframeDelayUs tx := by
  simp only [ucanTxNeeds, same.zero]

theorem SameDelay.stores {context : TxContext} {dev : Pcandev P} (same : SameDelay context dev)
    (addr : Nat) :
    ucanPauseStores addr dev.txIframeDelayUs = ucanPauseStores addr context.txIframeDelayUs := by
  simp only [ucanPauseStores, same.zero, same.clamped]

theorem SameDelay.taken {context : TxContext} {dev : Pcandev P} (same : SameDelay context dev) :
    SameDelay context (frameTaken dev) :=
  ⟨same.channel, (clampedDelay_idem _).trans same.clamped⟩

theorem ucanEncodeMsgAt_cases {context : TxContext} {dev : Pcandev P}
    (same : SameDelay context dev) (addr bufferSize : Nat) :
    (dev.writeFifo.items = [] ∧ ucanEncodeMsgAt dev addr bufferSize = ⟨dev, [], -enodata⟩) ∨
    ∃ tx rest, dev.writeFifo.items = tx :: rest ∧
      ((bufferSize < ucanTxNeeds context.txIframeDelayUs tx ∧
          ucanEncodeMsgAt dev addr bufferSize = ⟨dev, [], -enospc⟩) ∨
        (ucanTxNeeds context.txIframeDelayUs tx ≤ bufferSize ∧
          ucanEncodeMsgAt dev addr bufferSize = ⟨frameTaken dev,
            ucanMsgStores context.nChannel addr tx ++
              ucanPauseStores (addr + ucanTxMsgSize tx) context.txIframeDelayUs,
            ucanTxNeeds context.txIframeDelayUs tx⟩)) := by
  unfold ucanEncodeMsgAt BoundedQueue.oldest
  cases items : dev.writeFifo.items with
  | nil => exact .inl ⟨rfl, rfl⟩
  | cons tx rest =>
    refine .inr ⟨tx, rest, rfl, ?_⟩
    simp only [List.head?_cons, same.needs tx, same.stores, same.channel]
    by_cases room : ucanTxNeeds context.txIframeDelayUs tx ≤ bufferSize
    · rw [if_neg (by omega)]
      exact .inr ⟨room, rfl⟩
    · rw [if_pos (by omega)]
      exact .inl ⟨by omega, rfl⟩

/-- What the loop has done when the frames packed so far are `bytes`. -/
structure Encoding (context : TxContext) (mem : Nat → U8) (bufferSize : Nat) (start : Pcandev P)
    (s : EncodeLoop P) (bytes : List U8) : Prop where
  length : s.msgLen = bytes.length
  written : Store.read (Store.run s.stores mem) 0 bytes.length = bytes
  inside : ∀ store ∈ s.stores, store.Inside 0 bytes.length
  fits : bytes.length ≤ bufferSize
  delay : SameDelay context s.dev
  counter : s.dev.txFramesCounter = start.txFramesCounter

section Pass
variable {context : TxContext} {mem : Nat → U8} {bufferSize : Nat} {start : Pcandev P}
  {s : EncodeLoop P} {bytes : List U8}

theorem Encoding.failed (encoding : Encoding context mem bufferSize start s bytes) (err : Int) :
    Encoding context mem bufferSize start { s with err := err } bytes :=
  ⟨encoding.length, encoding.written, encoding.inside, encoding.fits, encoding.delay,
    encoding.counter⟩

theorem Encoding.next (encoding : Encoding context mem bufferSize start s bytes)
    {tx : PcanfdTxmsg} (short : tx.msg.dataLen.toNat ≤ 64)
    (room : bytes.length + ucanTxNeeds context.txIframeDelayUs tx ≤ bufferSize) :
    Encoding context mem bufferSize start
      ⟨frameTaken s.dev, s.stores ++ (ucanMsgStores context.nChannel bytes.length tx ++
          ucanPauseStores (bytes.length + ucanTxMsgSize tx) context.txIframeDelayUs),
        bytes.length + ucanTxNeeds context.txIframeDelayUs tx, s.msgCount + 1,
        ucanTxNeeds context.txIframeDelayUs tx⟩
      (bytes ++ ucanTxRecord context tx) := by
  have recordLength := ucanTxRecord_length context short
  obtain ⟨stored, read⟩ := ucanRecordStores_read short encoding.written
  constructor
  case length => rw [List.length_append, recordLength]
  case written => rw [Store.run_append]; exact read
  case inside =>
    intro store member
    rw [List.length_append, recordLength]
    rcases List.mem_append.mp member with before | now
    · exact (encoding.inside store before).weaken (Nat.le_refl _) (by omega)
    · exact (stored store now).weaken (Nat.zero_le _) (Nat.le_refl _)
  case fits => rw [List.length_append, recordLength]; exact room
  case delay => exact encoding.delay.taken
  case counter => exact encoding.counter

theorem ucanEncodeLoop_packs (fuel : Nat) (enough : s.dev.writeFifo.items.length < fuel)
    (sendable : ∀ tx ∈ s.dev.writeFifo.items, tx.msg.dataLen.toNat ≤ 64)
    (encoding : Encoding context mem bufferSize start s bytes) :
    let filled := (ucanPacking context bufferSize).pack s.dev.writeFifo.items bytes
    let ended := ucanEncodeLoop bufferSize fuel s
    Encoding context mem bufferSize start ended filled.bytes ∧
      ended.dev.writeFifo.items = filled.rest ∧
      ended.msgCount = s.msgCount + filled.packed.length := by
  induction fuel generalizing s bytes with
  | zero => omega
  | succ fuel ih =>
    obtain ⟨dev, stores, msgLen, msgCount, err⟩ := s
    obtain rfl : msgLen = bytes.length := encoding.length
    unfold ucanEncodeLoop
    simp only at enough sendable ⊢
    by_cases more : bytes.length < bufferSize
    · have goesOn : (ucanPacking context bufferSize).more bytes.length = true := decide_eq_true more
      rw [if_pos more]
      rcases ucanEncodeMsgAt_cases encoding.delay bytes.length (bufferSize - bytes.length) with
        ⟨items, result⟩ | ⟨tx, rest, items, ⟨large, result⟩ | ⟨small, result⟩⟩
      · rw [result, items]
        exact ⟨encoding.failed _, items, rfl⟩
      · have refused : (ucanPacking context bufferSize).fits bytes.length tx = false :=
          decide_eq_false (by omega)
        rw [result, items, Packing.pack_refuses goesOn rfl refused]
        exact ⟨encoding.failed _, items, rfl⟩
      · have room : bytes.length + ucanTxNeeds context.txIframeDelayUs tx ≤ bufferSize := by omega
        have positive := ucanTxNeeds_pos context.txIframeDelayUs tx
        have fits : (ucanPacking context bufferSize).fits bytes.length tx = true :=
          decide_eq_true room
        have rest_items : (frameTaken dev).writeFifo.items = rest := by
          rw [frameTaken, BoundedQueue.dropOldest_items, items, List.tail_cons]
        rw [items, List.length_cons] at enough
        have later := ih (by rw [rest_items]; omega)
          (fun y member => sendable y (items ▸ List.mem_cons_of_mem _ (rest_items ▸ member)))
          (encoding.next (sendable tx (items ▸ List.mem_cons_self)) room)
        simp only [rest_items] at later
        rw [result, items, Packing.pack_takes goesOn rfl fits]
        simp only [Int.toNat_natCast, List.length_cons]
        rw [if_neg (by omega), if_neg (by omega), Nat.add_comm (List.length _) 1, ← Nat.add_assoc]
        exact later
    · rw [if_neg more, Packing.pack_full (decide_eq_false more)]
      exact ⟨encoding, rfl, rfl⟩

end Pass

end Loop

section Walk

theorem bytes_join (x : U16) : ((x >>> 8).setWidth 8 ++ x.setWidth 8 : BitVec (8 + 8)) = x := by
  ext i inside
  simp only [BitVec.getElem_append, BitVec.getElem_setWidth, BitVec.getLsbD_ushiftRight]
  split
  next => rw [BitVec.getLsbD_eq_getElem]
  next => rw [show 8 + (i - 8) = i by omega, BitVec.getLsbD_eq_getElem]

theorem u16At_le16 {mem : Nat → U8} {x : U16} {n : Nat} {rest : List U8}
    (start : Store.read mem 0 n = le16 x ++ rest) : u16At mem 0 = x := by
  have low := congrArg (·[0]?) start
  have high := congrArg (·[1]?) start
  have two : 1 < n := by
    have length := congrArg List.length start
    rw [Store.read_length, List.length_append] at length
    simp only [le16, List.length_cons, List.length_nil] at length
    omega
  simp only [Store.read_getElem?, if_pos two, if_pos (Nat.lt_of_succ_lt two), le16,
    List.cons_append, List.getElem?_cons_zero, List.getElem?_cons_succ, Option.some.injEq,
    Nat.zero_add] at low high
  unfold u16At
  rw [low, high]
  exact bytes_join x

theorem align4_of_mod {n : Nat} (multiple : n % 4 = 0) : align4 n = n := by
  unfold align4
  omega

theorem tells_of_size {r : List U8} {size : Nat} {rest : List U8} (length : r.length = size)
    (start : r = le16 (BitVec.ofNat 16 size) ++ rest) (positive : 0 < size) (small : size < 65536)
    (multiple : size % 4 = 0) : RecordWalk.Tells ucanStepOver r := by
  subst length
  refine ⟨positive, fun mem read => ?_⟩
  have field : u16At mem 0 = BitVec.ofNat 16 r.length := u16At_le16 (read.trans start)
  have value : (u16At mem 0).toNat = r.length := by
    rw [field, BitVec.toNat_ofNat]
    exact Nat.mod_eq_of_lt small
  have nonzero : u16At mem 0 ≠ 0 := by
    intro zero
    rw [zero] at value
    exact absurd value.symm (Nat.ne_of_gt positive)
  rw [ucanStepOver, if_neg nonzero, value, align4_of_mod multiple]

theorem ucanTxRecords_tell (nChannel : Nat) (delay : U32) {tx : PcanfdTxmsg}
    (short : tx.msg.dataLen.toNat ≤ 64) :
    ∀ r ∈ ucanTxRecords nChannel delay tx, RecordWalk.Tells ucanStepOver r := by
  have bounds := ucanTxMsgSize_bounds tx
  have frame : RecordWalk.Tells ucanStepOver (ucanTxMsg nChannel tx) := by
    apply tells_of_size (ucanTxMsg_length nChannel short) _ (by omega) (by omega) (align4_mod _)
    · exact (ucanTxMsg nChannel tx).drop 2
    · rfl
  intro r member
  unfold ucanTxRecords at member
  split at member
  · rw [List.mem_singleton.mp member]
    exact frame
  next some_delay =>
    rcases List.mem_cons.mp member with rfl | member
    · exact frame
    · rw [List.mem_singleton.mp member]
      have length := ucanTxPause_length delay
      rw [if_neg some_delay] at length
      apply tells_of_size length _ (by decide) (by decide) (by decide)
      · exact (ucanTxPause delay).drop 2
      · rw [ucanTxPause_clamped some_delay]
        rfl

theorem ucanTxRecords_flatten (context : TxContext) (tx : PcanfdTxmsg) :
    (ucanTxRecords context.nChannel context.txIframeDelayUs tx).flatten =
      ucanTxRecord context tx := by
  unfold ucanTxRecords ucanTxRecord
  split
  next none_wanted => simp [ucanTxPause, none_wanted]
  next => simp

theorem ucanTxRecords_types (nChannel : Nat) (delay : U32) (tx : PcanfdTxmsg) :
    (ucanTxRecords nChannel delay tx).map ucanRecType =
      if delay = 0 then [ucanMsgCanTx] else [ucanMsgCanTx, ucanMsgCanTxPause] := by
  have frame : ucanRecType (ucanTxMsg nChannel tx) = ucanMsgCanTx :=
    bytes_join ucanMsgCanTx
  unfold ucanTxRecords
  split
  · rw [List.map_singleton, frame]
  next some_delay =>
    have pause : ucanRecType (ucanTxPause delay) = ucanMsgCanTxPause := by
      rw [ucanTxPause_clamped some_delay]
      exact bytes_join ucanMsgCanTxPause
    rw [List.map_cons, List.map_singleton, frame, pause]

end Walk

section Buffer
variable {dev : Pcandev P} {bufferSize : Nat}

def ucanContext (dev : Pcandev P) : TxContext := ⟨dev.nChannel, dev.txIframeDelayUs, 0, 0⟩

def ucanPacked (dev : Pcandev P) (bufferSize : Nat) : Packing.Packed PcanfdTxmsg U8 :=
  (ucanPacking (ucanContext dev) bufferSize).pack dev.writeFifo.items []

theorem ucanEncodeLoop_start (sendable : ∀ tx ∈ dev.writeFifo.items, tx.msg.dataLen.toNat ≤ 64)
    (mem : Nat → U8) :
    let ended := ucanEncodeLoop bufferSize (dev.writeFifo.items.length + 1) ⟨dev, [], 0, 0, 0⟩
    Encoding (ucanContext dev) mem bufferSize dev ended (ucanPacked dev bufferSize).bytes ∧
      ended.dev.writeFifo.items = (ucanPacked dev bufferSize).rest ∧
      ended.msgCount = (ucanPacked dev bufferSize).packed.length := by
  have packs := @ucanEncodeLoop_packs _ (ucanContext dev) mem bufferSize dev ⟨dev, [], 0, 0, 0⟩ []
    (dev.writeFifo.items.length + 1) (Nat.lt_succ_self _) sendable
    ⟨rfl, rfl, fun store member => absurd member List.not_mem_nil, Nat.zero_le _, ⟨rfl, rfl⟩, rfl⟩
  simp only [Nat.zero_add] at packs
  exact packs

theorem ucanPacked_bytes (dev : Pcandev P) (bufferSize : Nat) :
    (ucanPacked dev bufferSize).bytes = ((ucanPacked dev bufferSize).packed.flatMap
      (ucanTxRecords dev.nChannel dev.txIframeDelayUs)).flatten := by
  have flat : ∀ txs : List PcanfdTxmsg, txs.flatMap (ucanTxRecord (ucanContext dev)) =
      (txs.flatMap (ucanTxRecords dev.nChannel dev.txIframeDelayUs)).flatten := by
    intro txs
    induction txs with
    | nil => rfl
    | cons tx txs ih =>
      rw [List.flatMap_cons, List.flatMap_cons, List.flatten_append, ih,
        ← ucanTxRecords_flatten (ucanContext dev) tx]
      rfl
  rw [ucanPacked, Packing.pack_bytes, List.nil_append]
  exact flat _

theorem ucanPacked_account (dev : Pcandev P) (bufferSize : Nat) :
    (ucanPacked dev bufferSize).packed ++ (ucanPacked dev bufferSize).rest =
      dev.writeFifo.items := by
  rw [ucanPacked, Packing.pack_packed_all _ _ fun _ _ => rfl]
  exact Packing.pack_account _ _ _

/-- The loop and the word that ends the list: what is in the buffer, and how long it is. -/
theorem ucanEncodeMsgsBufferAt_spec (aligned : bufferSize % 4 = 0)
    (sendable : ∀ tx ∈ dev.writeFifo.items, tx.msg.dataLen.toNat ≤ 64) (mem : Nat → U8) :
    let done := ucanEncodeMsgsBufferAt dev bufferSize
    let bytes := (ucanPacked dev bufferSize).bytes
    (∀ s ∈ done.stores, s.Inside 0 bufferSize) ∧
      Store.read (Store.run done.stores mem) 0 bytes.length = bytes ∧
      bytes.length ≤ bufferSize ∧
      done.size = (if 0 < bytes.length ∧ bytes.length < bufferSize then bytes.length + 4
        else bytes.length) ∧
      (bytes.length < done.size →
        Store.read (Store.run done.stores mem) bytes.length 4 = [0, 0, 0, 0]) ∧
      done.dev.writeFifo.items = (ucanPacked dev bufferSize).rest ∧
      done.dev.txFramesCounter =
        dev.txFramesCounter + BitVec.ofNat 32 (ucanPacked dev bufferSize).packed.length := by
  obtain ⟨encoding, rest, count⟩ := @ucanEncodeLoop_start _ dev bufferSize sendable mem
  have multiple : (ucanPacked dev bufferSize).bytes.length % 4 = 0 :=
    ucanPacking_aligned (ucanContext dev) bufferSize sendable
  have empty : (ucanPacked dev bufferSize).bytes.length = 0 ↔
      (ucanPacked dev bufferSize).packed = [] :=
    ucanPacking_empty (ucanContext dev) bufferSize sendable
  have fits := encoding.fits
  unfold ucanEncodeMsgsBufferAt
  generalize ucanEncodeLoop bufferSize (dev.writeFifo.items.length + 1) ⟨dev, [], 0, 0, 0⟩ = s
    at encoding rest count ⊢
  simp only [encoding.length]
  by_cases nothing : (ucanPacked dev bufferSize).bytes.length = 0
  · rw [if_pos nothing]
    refine ⟨fun s member => (encoding.inside s member).weaken (Nat.le_refl _) fits,
      encoding.written, fits, ?_, ?_, rest, ?_⟩
    · rw [if_neg (by omega), nothing]
    · intro more
      exact absurd more (Nat.not_lt_zero _)
    · rw [encoding.counter, empty.mp nothing]
      exact (BitVec.add_zero _).symm
  · rw [if_neg nothing]
    by_cases short : (ucanPacked dev bufferSize).bytes.length < bufferSize
    · have last : ∀ s ∈ [(⟨(ucanPacked dev bufferSize).bytes.length, [0, 0, 0, 0]⟩ : Store U8)],
          s.Inside (ucanPacked dev bufferSize).bytes.length
            ((ucanPacked dev bufferSize).bytes.length + 4) := by
        intro s member
        rw [List.mem_singleton.mp member]
        exact ⟨Nat.le_refl _, Nat.le_refl _⟩
      simp only [if_pos short, Store.run_append]
      refine ⟨?_, ?_, fits, ?_, ?_, rest, ?_⟩
      · intro s member
        rcases List.mem_append.mp member with before | eor
        · exact (encoding.inside s before).weaken (Nat.le_refl _) fits
        · exact (last s eor).weaken (Nat.zero_le _) (by omega)
      · rw [Store.read_run_before last (Nat.le_refl _)]
        exact encoding.written
      · rw [if_pos (by omega)]
      · intro _
        rw [Store.read_run last]
        simp [Store.patch, Store.read, List.range_succ]
      · rw [encoding.counter, count]
    · simp only [if_neg short, List.append_nil]
      refine ⟨fun s member => (encoding.inside s member).weaken (Nat.le_refl _) fits,
        encoding.written, fits, ?_, ?_, rest, ?_⟩
      · rw [if_neg (by omega)]
      · intro more
        exact absurd more (Nat.lt_irrefl _)
      · rw [encoding.counter, count]

theorem ucanEncodeMsgsBufferAt_refines (aligned : bufferSize % 4 = 0)
    (sendable : ∀ tx ∈ dev.writeFifo.items, tx.msg.dataLen.toNat ≤ 64) (mem : Nat → U8) :
    let done := ucanEncodeMsgsBufferAt dev bufferSize
    let e := ucanEncodeMsgsBuffer (ucanContext dev) dev.writeFifo.items bufferSize
    Store.read (Store.run done.stores mem) 0 done.size = e.bytes ∧ done.size = e.size ∧
      done.dev.writeFifo.items = e.rest ∧
      done.dev.txFramesCounter = dev.txFramesCounter + BitVec.ofNat 32 e.packed.length := by
  obtain ⟨_, written, _, size, eor, rest, counter⟩ :=
    ucanEncodeMsgsBufferAt_spec aligned sendable mem
  have folded : (ucanPacking (ucanContext dev) bufferSize).pack dev.writeFifo.items [] =
      ucanPacked dev bufferSize := rfl
  simp only [ucanEncodeMsgsBuffer, folded]
  by_cases nothing : (ucanPacked dev bufferSize).bytes.length = 0
  · rw [if_neg (by omega), nothing] at size
    simp only [if_pos nothing, size]
    exact ⟨rfl, trivial, rest, counter⟩
  · simp only [if_neg nothing]
    by_cases short : (ucanPacked dev bufferSize).bytes.length < bufferSize
    · rw [if_pos (by omega)] at size
      rw [if_pos short, size, Store.read_add, written, Nat.zero_add, eor (by omega)]
      exact ⟨rfl, rfl, rest, counter⟩
    · rw [if_neg (by omega)] at size
      rw [if_neg short, size, written, List.append_nil]
      exact ⟨rfl, rfl, rest, counter⟩

theorem ucanStepOver_null {msg : Nat → U8} (null : Store.read msg 0 4 = [0, 0, 0, 0]) :
    ucanStepOver msg = none := by
  have zero : u16At msg 0 = 0 := @u16At_le16 _ 0 4 [0, 0] null
  rw [ucanStepOver, if_pos zero]

/-- Frames are encoded from the front of the FIFO as long as they fit. No store leaves
    the buffer, and a receiver that walks over the bytes finds one record for each
    frame, and behind it a pause if there is a delay, and nothing else. -/
theorem encoded_buffer_walks_back (aligned : bufferSize % 4 = 0)
    (sent : ∀ tx ∈ dev.writeFifo.items, SentFrame P tx) (mem : Nat → U8) :
    let done := ucanEncodeMsgsBufferAt dev bufferSize
    let after := Store.run done.stores mem
    (∀ s ∈ done.stores, s.Inside 0 bufferSize) ∧ (∀ a, bufferSize ≤ a → after a = mem a) ∧
    ∃ encoded, dev.writeFifo.items = encoded ++ done.dev.writeFifo.items ∧
      let rs := encoded.flatMap (ucanTxRecords dev.nChannel dev.txIframeDelayUs)
      (∀ tx ∈ done.dev.writeFifo.items.head?,
        bufferSize < rs.flatten.length + ucanTxNeeds dev.txIframeDelayUs tx) ∧
      RecordWalk.records ucanStepOver after done.size = rs ∧
      rs.map ucanRecType = encoded.flatMap (fun _ =>
        if dev.txIframeDelayUs = 0 then [ucanMsgCanTx] else [ucanMsgCanTx, ucanMsgCanTxPause]) ∧
      done.size = rs.flatten.length +
        (if 0 < rs.flatten.length ∧ rs.flatten.length < bufferSize then 4 else 0) ∧
      done.dev.txFramesCounter = dev.txFramesCounter + BitVec.ofNat 32 encoded.length := by
  intro done after
  have sendable : ∀ tx ∈ dev.writeFifo.items, tx.msg.dataLen.toNat ≤ 64 :=
    fun tx member => (sent tx member).short
  obtain ⟨inside, written, fits, size, eor, rest, counter⟩ :=
    ucanEncodeMsgsBufferAt_spec aligned sendable mem
  rw [ucanPacked_bytes] at written fits size eor
  refine ⟨inside, fun a behind => Store.run_outside inside (.inr behind) mem,
    (ucanPacked dev bufferSize).packed, ?_, ?_, ?_, ?_, ?_, counter⟩
  · rw [rest]
    exact (ucanPacked_account dev bufferSize).symm
  · intro tx head
    rw [rest] at head
    obtain ⟨others, stays⟩ : ∃ others, (ucanPacked dev bufferSize).rest = tx :: others := by
      cases stays : (ucanPacked dev bufferSize).rest with
      | nil => rw [stays] at head; cases head
      | cons y others => rw [stays] at head; cases head; exact ⟨others, rfl⟩
    have positive := ucanTxNeeds_pos dev.txIframeDelayUs tx
    rcases Packing.pack_stays _ _ _ stays with full | large
    · have := of_decide_eq_false full
      rw [← ucanPacked, ucanPacked_bytes] at this
      omega
    · have := of_decide_eq_false large
      rw [← ucanPacked, ucanPacked_bytes] at this
      exact Nat.lt_of_not_le this
  · apply RecordWalk.records_layout
    · intro r member
      obtain ⟨tx, packed, record⟩ := List.mem_flatMap.mp member
      exact ucanTxRecords_tell _ _ (sendable tx (Packing.pack_packed_subset _ _ _ tx packed)) r record
    · exact written
    · rw [size]
      split <;> omega
    · intro more
      apply ucanStepOver_null
      rw [RecordWalk.read_shift]
      exact eor more
  · rw [List.map_flatMap]
    simp only [ucanTxRecords_types]
  · rw [size]
    split <;> omega

/-- Two frames with a delay in a buffer that has room for one of them. -/
theorem encoded_buffer_walks_back_one :
    let frame : PcanfdTxmsg := ⟨{ PcanfdMsg.zero with type := .can20Msg, dataLen := 2, id := 0x123 },
      ⟨0, 0⟩⟩
    let dev : Pcandev Unit := { openedChannel () 4 4 0 with
      txIframeDelayUs := 2000
      writeFifo := ⟨4, [frame, frame], by decide⟩ }
    let done := ucanEncodeMsgsBufferAt dev 48
    RecordWalk.records ucanStepOver (Store.run done.stores fun _ => 0xff) done.size =
        [ucanTxMsg 0 frame, ucanTxPause 2000] ∧
      done.size = 36 ∧ done.dev.writeFifo.items = [frame] := by
  intro frame dev done
  have sent : ∀ tx ∈ dev.writeFifo.items, SentFrame Unit tx := by
    intro tx member
    refine ⟨openedChannel () 4 4 0, frame, frame, by decide +kernel, ?_⟩
    rcases List.mem_cons.mp member with rfl | member
    · rfl
    · rw [List.mem_singleton.mp member]
  obtain ⟨_, _, encoded, account, _, records, _, _, _⟩ :=
    @encoded_buffer_walks_back _ dev 48 (by decide) sent fun _ => 0xff
  have rest : done.dev.writeFifo.items = [frame] := by decide +kernel
  obtain rfl : encoded = [frame] := by
    rw [rest] at account
    exact (@List.append_cancel_right _ [frame] _ _ account).symm
  exact ⟨records, by decide +kernel, rest⟩

end Buffer

end PcanDriver

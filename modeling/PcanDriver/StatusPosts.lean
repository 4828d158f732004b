import PcanDriver.RxAccounting
import PcanDriver.StatusRecords

/-!
Posting bus states. A state that the application has not been told yet passes the
flooding limits and becomes the newest message; one that it has been told with the
same error counters is dropped.
-/
namespace PcanDriver
variable {P : Type}

/-- A STATUS about the bus that carries `state`, or what its own error counters
    raise it to. -/
structure Reports (state : PcanfdStatus) (m : PcanfdRxmsg) : Prop where
  type : m.msg.type = .status
  kind : m.msg.flags &&& ~~~driverFlags = pcanfdErrorBus
  state : m.msg.id = (pcanStatusNormalizeRx (m.withId state)).msg.id

def newestReports (dev : Pcandev P) : Prop :=
  ∃ m, dev.readFifo.newest = some m ∧ Reports dev.busState m

/-- What decides whether a message gets into the receive queue. -/
structure RxGate where
  nOpenPaths : Int
  allowedMsgs : U32
  overrun : Bool
  readFifo : BoundedQueue PcanfdRxmsg

def Pcandev.rxGate (dev : Pcandev P) : RxGate :=
  ⟨dev.nOpenPaths, dev.allowedMsgs, dev.overrun, dev.readFifo⟩

/-- A channel that takes STATUS messages and has room for `slots` of them. -/
structure Posting (slots : Nat) (gate : RxGate) : Prop where
  opened : 0 < gate.nOpenPaths
  allowed : gate.allowedMsgs &&& pcanfdAllowedMsgStatus ≠ 0
  clear : gate.overrun = false
  room : gate.readFifo.items.length + slots ≤ gate.readFifo.capacity

structure Counters where
  rx : U8
  tx : U8
  prevRx : U8
  prevTx : U8
deriving DecidableEq

def Pcandev.counters (dev : Pcandev P) : Counters :=
  ⟨dev.rxErrorCounter, dev.txErrorCounter, dev.prevRxErrorCounter, dev.prevTxErrorCounter⟩

/-- The application knows other counters than the current ones. -/
def Counters.Fresh (c : Counters) : Prop := ¬(c.rx = c.prevRx ∧ c.tx = c.prevTx)

def PcanfdStatus.isKnown (state : PcanfdStatus) : Prop :=
  state = .errorActive ∨ state = .errorWarning ∨ state = .errorPassive ∨ state = .errorBusoff

section Normalize

/-- The part of a message that decides about the state it is raised to. -/
def raisedId (flags : U32) (counters : CtrlrData) (id : U32) : U32 :=
  if flags &&& pcanfdErrcnt = 0 then id
  else if id = PcanfdStatus.errorActive.code then
    if counters.rxErrCnt < 96 ∧ counters.txErrCnt < 96 then id
    else if counters.rxErrCnt < 128 ∧ counters.txErrCnt < 128 then
      PcanfdStatus.errorWarning.code
    else PcanfdStatus.errorPassive.code
  else if id = PcanfdStatus.errorWarning.code then
    if counters.rxErrCnt < 128 ∧ counters.txErrCnt < 128 then id
    else PcanfdStatus.errorPassive.code
  else id

theorem pcanStatusNormalizeRx_eq (rx : PcanfdRxmsg) :
    pcanStatusNormalizeRx rx = { rx with msg := { rx.msg with
      id := raisedId rx.msg.flags rx.msg.ctrlrData rx.msg.id } } := by
  unfold pcanStatusNormalizeRx raisedId PcanfdRxmsg.withId
  split
  · rfl
  · simp only
    split
    · split
      · rfl
      · split <;> rfl
    · split
      · split <;> rfl
      · rfl

end Normalize

section Post
variable (host : Host) {dev : Pcandev P} {rx : PcanfdRxmsg} {state : PcanfdStatus}

def reported (host : Host) (dev : Pcandev P) (rx : PcanfdRxmsg) : PcanfdRxmsg :=
  let raised := pcanStatusNormalizeRx (stampRx host dev rx)
  { raised with msg := { raised.msg with data := Vector.replicate 64 0, dataLen := 0 } }

theorem reported_reports (type : rx.msg.type = .status)
    (kind : rx.msg.flags &&& ~~~driverFlags = pcanfdErrorBus) (id : rx.msg.id = state.code) :
    Reports state (reported host dev rx) := by
  have content := stampRx_content host dev rx
  have same_type : (stampRx host dev rx).msg.type = rx.msg.type := stampRx_type host dev rx
  have same_id : (stampRx host dev rx).msg.id = rx.msg.id := congrArg FrameContent.id content
  have same_flags := congrArg FrameContent.flags content
  unfold reported
  rw [pcanStatusNormalizeRx_eq]
  refine ⟨same_type.trans type, same_flags.trans kind, ?_⟩
  rw [pcanStatusNormalizeRx_eq, same_id, id]
  rfl

theorem filterStatusRx_known (known : state.isKnown) (id : rx.msg.id = state.code) :
    filterStatusRx dev rx = pcanStatusRx dev (pcanStatusNormalizeRx rx) := by
  unfold filterStatusRx
  rcases known with rfl | rfl | rfl | rfl
  · rw [if_pos (.inl id)]
  · rw [if_pos (.inr (.inl id))]
  · rw [if_pos (.inr (.inr id))]
  · have unraised : pcanStatusNormalizeRx rx = rx := by
      have same : raisedId rx.msg.flags rx.msg.ctrlrData rx.msg.id = rx.msg.id := by
        rw [id]
        unfold raisedId
        split
        · rfl
        · rw [if_neg (by decide), if_neg (by decide)]
      rw [pcanStatusNormalizeRx_eq, same]
    rw [unraised, id, if_neg (by decide), if_pos rfl]

/-- The channel once the application has been told the current counters. -/
def told (dev : Pcandev P) : Pcandev P :=
  { dev with
    prevRxErrorCounter := dev.rxErrorCounter
    prevTxErrorCounter := dev.txErrorCounter }

theorem pcanStatusRx_fresh (pf : PcanfdRxmsg) (fresh : dev.counters.Fresh) :
    (pcanStatusRx dev pf).2.1 =
        { pf with msg := { pf.msg with data := Vector.replicate 64 0, dataLen := 0 } } ∧
      (pcanStatusRx dev pf).2.2 ≠ -eexist ∧
      ((pcanStatusRx dev pf).1 = told dev ∨
        errorCountersMismatch dev = true ∧ (pcanStatusRx dev pf).1 = dev) := by
  have invalid : -einval ≠ -eexist := by decide
  have ok : (0 : Int) ≠ -eexist := by decide
  unfold pcanStatusRx
  rw [if_neg fun same => fresh same.2]
  simp only
  split
  next mismatch => exact ⟨rfl, invalid, .inr ⟨mismatch.2, rfl⟩⟩
  next => exact ⟨rfl, ok, .inl rfl⟩

theorem admitRx_status (type : rx.msg.type = .status)
    (allowed : dev.allowedMsgs &&& pcanfdAllowedMsgStatus ≠ 0)
    (other : rx.msg.id ≠ PcanfdStatus.busLoad.code) : admitRx dev rx = (dev, true) := by
  unfold admitRx
  rw [type]
  simp only [if_neg other, decide_eq_true allowed]

/-- What posting leaves of a channel with room: `m` in front of the reader's end. -/
structure PostedAs (m : PcanfdRxmsg) (dev dev' : Pcandev P) : Prop where
  newest : dev'.readFifo.newest = some m
  length : dev'.readFifo.items.length ≤ dev.readFifo.items.length + 1
  capacity : dev'.readFifo.capacity = dev.readFifo.capacity
  clear : dev'.overrun = false
  paths : dev'.nOpenPaths = dev.nOpenPaths
  allowed : dev'.allowedMsgs = dev.allowedMsgs
  busState : dev'.busState = dev.busState

theorem patchOrPut_posted (posting : Posting 1 dev.rxGate) (m : PcanfdRxmsg) :
    let patched := patchStatusRx dev m
    let dev' := match patched.2.2 with
      | .drop => patched.1
      | .post => (putRx patched.1 patched.2.1).1
    PostedAs m dev dev' ∧ dev'.counters = dev.counters := by
  have room : dev.readFifo.items.length < dev.readFifo.capacity := posting.room
  rcases patchStatusRx_cases dev m with kept | ⟨older, old, fifo, items, _, items', capacity, patched⟩
  · obtain ⟨put_items, put_capacity, result⟩ := fifoPut_room m room
    have accepted : (0 : Int) ≤ (fifoPut dev.readFifo m).2 := by omega
    simp only [kept, putRx, if_pos accepted]
    refine ⟨⟨?_, ?_, put_capacity, posting.clear, rfl, rfl, rfl⟩, rfl⟩
    · simp [BoundedQueue.newest, put_items]
    · simp [put_items]
  · simp only [patched]
    refine ⟨⟨?_, ?_, capacity, posting.clear, rfl, rfl, rfl⟩, rfl⟩
    · simp [BoundedQueue.newest, items']
    · simp [items, items']

theorem pcanChardevRx_status (posting : Posting 1 dev.rxGate) (type : rx.msg.type = .status)
    (not_load : rx.msg.id ≠ PcanfdStatus.busLoad.code) :
    (pcanChardevRx host dev rx).1 =
      match (limitRx dev (stampRx host dev rx)).2.2 with
      | .drop => (limitRx dev (stampRx host dev rx)).1
      | .post => (putRx (limitRx dev (stampRx host dev rx)).1
          (limitRx dev (stampRx host dev rx)).2.1).1 := by
  have opened : ¬dev.nOpenPaths ≤ 0 := by
    have : 0 < dev.nOpenPaths := posting.opened
    omega
  have clear : ¬dev.overrun = true := by
    rw [show dev.overrun = false from posting.clear]
    decide
  unfold pcanChardevRx queueRx
  simp only [admitRx_status type posting.allowed not_load, if_true, if_neg opened, if_neg clear]
  cases (limitRx dev (stampRx host dev rx)).2.2 with
  | drop => rfl
  | post => rfl

theorem post_event (posting : Posting 1 dev.rxGate) (type : rx.msg.type = .status)
    (id : rx.msg.id = PcanfdStatus.rxOverflow.code ∨ rx.msg.id = PcanfdStatus.txOverflow.code) :
    PostedAs (stampRx host dev rx) dev (pcanChardevRx host dev rx).1 ∧
      (pcanChardevRx host dev rx).1.counters = dev.counters := by
  have stamp_type := (stampRx_type host dev rx).trans type
  have stamp_id : (stampRx host dev rx).msg.id = rx.msg.id :=
    congrArg FrameContent.id (stampRx_content host dev rx)
  have passed : filterStatusRx dev (stampRx host dev rx) = (dev, stampRx host dev rx, 0) := by
    unfold filterStatusRx
    rw [stamp_id]
    rcases id with rx_id | tx_id
    · rw [rx_id, if_neg (by decide), if_neg (by decide)]
    · rw [tx_id, if_neg (by decide), if_neg (by decide)]
  have not_load : rx.msg.id ≠ PcanfdStatus.busLoad.code := by
    rcases id with rx_id | tx_id
    · rw [rx_id]
      decide
    · rw [tx_id]
      decide
  have limited : limitRx dev (stampRx host dev rx) = patchStatusRx dev (stampRx host dev rx) := by
    unfold limitRx
    rw [stamp_type]
    simp only [limitStatusRx, passed, if_neg (by decide : (0 : Int) ≠ -eexist)]
  rw [pcanChardevRx_status host posting type not_load, limited]
  exact patchOrPut_posted posting (stampRx host dev rx)

theorem post_fresh (posting : Posting 1 dev.rxGate) (known : state.isKnown)
    (type : rx.msg.type = .status) (id : rx.msg.id = state.code)
    (fresh : dev.counters.Fresh) :
    PostedAs (reported host dev rx) dev (pcanChardevRx host dev rx).1 ∧
      ((pcanChardevRx host dev rx).1.counters = (told dev).counters ∨
        errorCountersMismatch dev = true ∧
          (pcanChardevRx host dev rx).1.counters = dev.counters) := by
  have not_load : rx.msg.id ≠ PcanfdStatus.busLoad.code := by
    rw [id]
    rcases known with rfl | rfl | rfl | rfl <;> decide
  have stamp_type := (stampRx_type host dev rx).trans type
  have stamp_id : (stampRx host dev rx).msg.id = state.code :=
    (congrArg FrameContent.id (stampRx_content host dev rx)).trans id
  obtain ⟨message, passed, channel⟩ :=
    pcanStatusRx_fresh (pcanStatusNormalizeRx (stampRx host dev rx)) fresh
  have limited : limitRx dev (stampRx host dev rx) =
      patchStatusRx (pcanStatusRx dev (pcanStatusNormalizeRx (stampRx host dev rx))).1
        (reported host dev rx) := by
    unfold limitRx
    rw [stamp_type]
    simp only [limitStatusRx, filterStatusRx_known known stamp_id, if_neg passed, message]
    rfl
  rw [pcanChardevRx_status host posting type not_load, limited]
  rcases channel with same | ⟨mismatch, same⟩
  · rw [same]
    obtain ⟨posted, counters⟩ := @patchOrPut_posted _ (told dev) posting (reported host dev rx)
    exact ⟨⟨posted.newest, posted.length, posted.capacity, posted.clear, posted.paths,
      posted.allowed, posted.busState⟩, .inl counters⟩
  · rw [same]
    obtain ⟨posted, counters⟩ := patchOrPut_posted posting (reported host dev rx)
    exact ⟨posted, .inr ⟨mismatch, counters⟩⟩

/-- Active, with error counters the application knows to be 0. -/
def Pcandev.toldActive (dev : Pcandev P) : Prop :=
  dev.busState = .errorActive ∧ dev.counters = ⟨0, 0, 0, 0⟩

theorem stampRx_unraised (id : rx.msg.id = PcanfdStatus.errorActive.code)
    (rx_zero : dev.rxErrorCounter = 0) (tx_zero : dev.txErrorCounter = 0) :
    (pcanStatusNormalizeRx (stampRx host dev rx)).msg.id = PcanfdStatus.errorActive.code := by
  have stamp_id : (stampRx host dev rx).msg.id = PcanfdStatus.errorActive.code :=
    (congrArg FrameContent.id (stampRx_content host dev rx)).trans id
  rw [pcanStatusNormalizeRx_eq]
  show raisedId _ _ _ = _
  rw [stamp_id]
  unfold raisedId
  split
  · rfl
  · rename_i counted
    have counters : (stampRx host dev rx).msg.ctrlrData.rxErrCnt = 0 ∧
        (stampRx host dev rx).msg.ctrlrData.txErrCnt = 0 := by
      simp only [stampRx, stampErrcnt] at counted ⊢
      by_cases ready : dev.flags &&& pcanDevErrcntRdy ≠ 0
      · rw [if_pos ready]
        exact ⟨rx_zero, tx_zero⟩
      · rw [if_neg ready] at counted
        exact absurd (Masks.andNot_and_self _ _) counted
    rw [if_pos rfl, counters.1, counters.2, if_pos (by decide)]

theorem post_repeat (active : dev.toldActive) (type : rx.msg.type = .status)
    (id : rx.msg.id = PcanfdStatus.errorActive.code) :
    (pcanChardevRx host dev rx).1.readFifo = dev.readFifo := by
  obtain ⟨state, counters⟩ := active
  have rx_zero : dev.rxErrorCounter = 0 := congrArg Counters.rx counters
  have tx_zero : dev.txErrorCounter = 0 := congrArg Counters.tx counters
  have prev_rx : dev.prevRxErrorCounter = 0 := congrArg Counters.prevRx counters
  have prev_tx : dev.prevTxErrorCounter = 0 := congrArg Counters.prevTx counters
  have stamp_type := (stampRx_type host dev rx).trans type
  have stamp_id : (stampRx host dev rx).msg.id = PcanfdStatus.errorActive.code :=
    (congrArg FrameContent.id (stampRx_content host dev rx)).trans id
  have unraised := stampRx_unraised host id rx_zero tx_zero
  have known : pcanStatusRx dev (pcanStatusNormalizeRx (stampRx host dev rx)) =
      (dev, pcanStatusNormalizeRx (stampRx host dev rx), -eexist) := by
    unfold pcanStatusRx
    rw [if_pos ⟨by rw [state, unraised], by rw [rx_zero, prev_rx], by rw [tx_zero, prev_tx]⟩]
  have dropped : limitRx dev (stampRx host dev rx) =
      (dev, pcanStatusNormalizeRx (stampRx host dev rx), .drop) := by
    unfold limitRx
    rw [stamp_type]
    simp only [limitStatusRx, filterStatusRx_known (.inl rfl) stamp_id, known, if_true]
  have admitted : (admitRx dev rx).1 = dev := by
    unfold admitRx
    rw [type]
    simp only [if_neg (by rw [id]; decide : rx.msg.id ≠ PcanfdStatus.busLoad.code)]
  unfold pcanChardevRx queueRx
  simp only [admitted, dropped]
  split
  · split
    · rfl
    · split <;> rfl
  · rfl

end Post

end PcanDriver

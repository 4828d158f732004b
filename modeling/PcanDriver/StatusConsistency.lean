import PcanDriver.StatusPosts

/-!
Bus states in the receive queue against the error counters that they carry. A device
that knows its counters raises a state that is too mild for them; one that is too bad
is noticed by `pcan_status_rx`, but `pcan_chardev_rx` stores it all the same.
-/
namespace PcanDriver
open StepSystem
variable {P : Type}

section Consistency

def PcanfdRxmsg.isBusStatus (m : PcanfdRxmsg) : Prop :=
  m.msg.type = .status ∧ m.msg.flags &&& pcanfdErrorBus ≠ 0

/-- The larger of the error counters that a message carries. -/
def PcanfdRxmsg.errorCount (m : PcanfdRxmsg) : Nat :=
  max m.msg.ctrlrData.rxErrCnt.toNat m.msg.ctrlrData.txErrCnt.toNat

def Pcandev.errorCount (dev : Pcandev P) : Nat :=
  max dev.rxErrorCounter.toNat dev.txErrorCounter.toNat

structure PcanfdRxmsg.Consistent (m : PcanfdRxmsg) : Prop where
  active : m.msg.id = PcanfdStatus.errorActive.code → m.errorCount < 96
  warning : m.msg.id = PcanfdStatus.errorWarning.code → 96 ≤ m.errorCount ∧ m.errorCount < 128
  passive : m.msg.id = PcanfdStatus.errorPassive.code → 128 ≤ m.errorCount

def Pcandev.QueueConsistent (dev : Pcandev P) : Prop :=
  ∀ m ∈ dev.readFifo.items, m.isBusStatus → m.Consistent

def Pcandev.countersReady (dev : Pcandev P) : Prop := dev.flags &&& pcanDevErrcntRdy ≠ 0

/-- The state that a message tells is one that the counters are too low for. -/
def Pcandev.Overstated (dev : Pcandev P) (id : U32) : Prop :=
  id = PcanfdStatus.errorWarning.code ∧ dev.errorCount < 96 ∨
    id = PcanfdStatus.errorPassive.code ∧ dev.errorCount < 128

theorem lt_iff_errorCount {rx tx : U8} {limit : Nat} (small : limit < 256) :
    (rx < BitVec.ofNat 8 limit ∧ tx < BitVec.ofNat 8 limit) ↔
      max rx.toNat tx.toNat < limit := by
  rw [BitVec.lt_def, BitVec.lt_def, BitVec.toNat_ofNat, Nat.mod_eq_of_lt small, max_lt_iff]

def raisedLevel (count : Nat) (id : U32) : U32 :=
  if id = PcanfdStatus.errorActive.code then
    if count < 96 then id
    else if count < 128 then PcanfdStatus.errorWarning.code
    else PcanfdStatus.errorPassive.code
  else if id = PcanfdStatus.errorWarning.code then
    if count < 128 then id else PcanfdStatus.errorPassive.code
  else id

theorem raisedId_eq {flags : U32} {counters : CtrlrData} (counted : flags &&& pcanfdErrcnt ≠ 0)
    (id : U32) : raisedId flags counters id =
      raisedLevel (max counters.rxErrCnt.toNat counters.txErrCnt.toNat) id := by
  have active := @lt_iff_errorCount counters.rxErrCnt counters.txErrCnt 96 (by decide)
  have warning := @lt_iff_errorCount counters.rxErrCnt counters.txErrCnt 128 (by decide)
  unfold raisedId raisedLevel
  rw [if_neg counted]
  simp only [← active, ← warning]
  rfl

/-- Raising an id makes it fit the counters, unless these are too low for it. -/
theorem raisedLevel_fits_iff (count : Nat) (id : U32) :
    ((raisedLevel count id = PcanfdStatus.errorActive.code → count < 96) ∧
        (raisedLevel count id = PcanfdStatus.errorWarning.code → 96 ≤ count ∧ count < 128) ∧
        (raisedLevel count id = PcanfdStatus.errorPassive.code → 128 ≤ count)) ↔
      ¬(id = PcanfdStatus.errorWarning.code ∧ count < 96 ∨
        id = PcanfdStatus.errorPassive.code ∧ count < 128) := by
  have distinct : PcanfdStatus.errorActive.code ≠ PcanfdStatus.errorWarning.code ∧
      PcanfdStatus.errorActive.code ≠ PcanfdStatus.errorPassive.code ∧
      PcanfdStatus.errorWarning.code ≠ PcanfdStatus.errorPassive.code := by decide
  unfold raisedLevel
  generalize PcanfdStatus.errorActive.code = active, PcanfdStatus.errorWarning.code = warning,
    PcanfdStatus.errorPassive.code = passive at distinct ⊢
  grind

theorem stampRx_counters (host : Host) {dev : Pcandev P} (ready : dev.countersReady)
    (rx : PcanfdRxmsg) : (stampRx host dev rx).msg.flags &&& pcanfdErrcnt ≠ 0 ∧
      (stampRx host dev rx).errorCount = dev.errorCount := by
  unfold PcanfdRxmsg.errorCount Pcandev.errorCount stampRx stampErrcnt
  rw [if_pos (show dev.flags &&& pcanDevErrcntRdy ≠ 0 from ready)]
  refine ⟨?_, rfl⟩
  rw [Masks.or_and_self]
  decide

theorem stampRx_id (host : Host) (dev : Pcandev P) (rx : PcanfdRxmsg) :
    (stampRx host dev rx).msg.id = rx.msg.id :=
  congrArg FrameContent.id (stampRx_content host dev rx)

theorem stampRx_isBusStatus (host : Host) (dev : Pcandev P) (rx : PcanfdRxmsg) :
    (stampRx host dev rx).isBusStatus ↔ rx.isBusStatus := by
  have flags : (stampRx host dev rx).msg.flags &&& pcanfdErrorBus =
      rx.msg.flags &&& pcanfdErrorBus := by
    have inside : pcanfdErrorBus = ~~~driverFlags &&& pcanfdErrorBus := by decide
    have same := congrArg FrameContent.flags (stampRx_content host dev rx)
    rw [inside, ← BitVec.and_assoc, ← BitVec.and_assoc]
    exact congrArg (· &&& pcanfdErrorBus) same
  unfold PcanfdRxmsg.isBusStatus
  rw [stampRx_type, flags]

theorem consistent_iff (m : PcanfdRxmsg) : m.Consistent ↔
    (m.msg.id = PcanfdStatus.errorActive.code → m.errorCount < 96) ∧
      (m.msg.id = PcanfdStatus.errorWarning.code → 96 ≤ m.errorCount ∧ m.errorCount < 128) ∧
      (m.msg.id = PcanfdStatus.errorPassive.code → 128 ≤ m.errorCount) := by
  constructor
  · rintro ⟨active, warning, passive⟩
    exact ⟨active, warning, passive⟩
  · rintro ⟨active, warning, passive⟩
    exact ⟨active, warning, passive⟩

/-- The message that is stored for a bus state is consistent unless it was too bad. -/
theorem reported_consistent_iff (host : Host) {dev : Pcandev P} (ready : dev.countersReady)
    (rx : PcanfdRxmsg) : (reported host dev rx).Consistent ↔ ¬dev.Overstated rx.msg.id := by
  obtain ⟨counted, count⟩ := stampRx_counters host ready rx
  have same : (reported host dev rx).errorCount = dev.errorCount := by
    rw [← count]
    unfold PcanfdRxmsg.errorCount reported
    rw [pcanStatusNormalizeRx_eq]
  have id : (reported host dev rx).msg.id = raisedId (stampRx host dev rx).msg.flags
      (stampRx host dev rx).msg.ctrlrData rx.msg.id := by
    rw [← stampRx_id host dev rx]
    exact congrArg (·.msg.id) (pcanStatusNormalizeRx_eq (stampRx host dev rx))
  rw [consistent_iff, same, id, raisedId_eq counted]
  rw [show max (stampRx host dev rx).msg.ctrlrData.rxErrCnt.toNat
    (stampRx host dev rx).msg.ctrlrData.txErrCnt.toNat = dev.errorCount from count]
  exact raisedLevel_fits_iff dev.errorCount rx.msg.id

end Consistency

section Storing
variable (host : Host) {dev : Pcandev P} {rx m : PcanfdRxmsg}

def Pcandev.HasPlace (dev : Pcandev P) (m : PcanfdRxmsg) : Prop :=
  dev.readFifo.items.length < dev.readFifo.capacity ∨
    ∃ old, dev.readFifo.newest = some old ∧ SameStatus old m

theorem pcanDoPatchLast_mem {fifo : BoundedQueue PcanfdRxmsg} {notice : PcanfdRxmsg}
    (member : m ∈ (fifo.visitBack pcanDoPatchLast notice).1.items) :
    m ∈ fifo.items ∨ m = notice := by
  rcases List.eq_nil_or_concat fifo.items with nil | ⟨older, old, items⟩
  · rw [BoundedQueue.visitBack_nil nil] at member
    exact .inl member
  · rw [List.concat_eq_append] at items
    have stops : (pcanDoPatchLast old notice).2.2 ≠ 0 := (by decide : -eexist ≠ 0)
    rw [(BoundedQueue.visitBack_newest items stops).1] at member
    rcases List.mem_append.mp member with before | last
    · exact .inl (items ▸ List.mem_append_left _ before)
    · exact .inr (List.mem_singleton.mp last)

theorem putRx_mem (member : m ∈ (putRx dev rx).1.readFifo.items) :
    m ∈ dev.readFifo.items ∨ m = rx ∧ dev.readFifo.items.length < dev.readFifo.capacity ∨
      m.msg.flags = pcanfdErrorInternal := by
  by_cases room : dev.readFifo.items.length < dev.readFifo.capacity
  · obtain ⟨items, _, result⟩ := fifoPut_room rx room
    have accepted : (0 : Int) ≤ (fifoPut dev.readFifo rx).2 := by omega
    simp only [putRx, if_pos accepted, items] at member
    rcases List.mem_append.mp member with before | last
    · exact .inl before
    · exact .inr (.inl ⟨List.mem_singleton.mp last, room⟩)
  · have full : dev.readFifo.items.length = dev.readFifo.capacity := by
      have := dev.readFifo.fits
      omega
    have refused : ¬ (0 : Int) ≤ -enospc := by decide
    simp only [putRx, fifoPut_full rx full, if_neg refused] at member
    rcases pcanDoPatchLast_mem member with before | notice
    · exact .inl before
    · exact .inr (.inr (notice ▸ rfl))

theorem limitRx_other (other : rx.msg.type ≠ .status) :
    (limitRx dev rx).2.1 = rx ∧ (limitRx dev rx).1.readFifo = dev.readFifo := by
  unfold limitRx
  split
  case h_3 type => exact absurd type other
  case h_4 => exact ⟨rfl, (pcanErrorRx_same dev rx).readFifo⟩
  all_goals exact ⟨rfl, rfl⟩

/-- What a channel must be like for a STATUS to be stored, once the flooding limits have
    let it through. -/
structure Pcandev.Stores (dev : Pcandev P) (rx m : PcanfdRxmsg) : Prop where
  opened : 0 < dev.nOpenPaths
  allowed : dev.allowedMsgs &&& pcanfdAllowedMsgStatus ≠ 0
  clear : dev.overrun = false
  load : rx.msg.id ≠ PcanfdStatus.busLoad.code
  place : dev.HasPlace m

theorem patchStatusRx_mem {rx : PcanfdRxmsg} (type : rx.msg.type = .status)
    (member : m ∈ (match (patchStatusRx dev rx).2.2 with
      | .drop => (patchStatusRx dev rx).1
      | .post => (putRx (patchStatusRx dev rx).1 (patchStatusRx dev rx).2.1).1).readFifo.items) :
    m ∈ dev.readFifo.items ∨ m = rx ∧ dev.HasPlace rx ∨ m.msg.flags = pcanfdErrorInternal := by
  rcases patchStatusRx_cases dev rx with kept | ⟨older, old, fifo, items, same, items', _, patched⟩
  · rw [kept] at member
    rcases putRx_mem member with before | ⟨last, room⟩ | notice
    · exact .inl before
    · exact .inr (.inl ⟨last, .inl room⟩)
    · exact .inr (.inr notice)
  · rw [patched] at member
    simp only [items'] at member
    rcases List.mem_append.mp member with before | last
    · exact .inl (items ▸ List.mem_append_left _ before)
    · have newest : dev.readFifo.newest = some old := by simp [BoundedQueue.newest, items]
      exact .inr (.inl ⟨List.mem_singleton.mp last,
        .inr ⟨old, newest, same.1.trans type, type, same.2⟩⟩)

theorem patchStatusRx_stored {rx : PcanfdRxmsg} (place : dev.HasPlace rx) :
    rx ∈ (match (patchStatusRx dev rx).2.2 with
      | .drop => (patchStatusRx dev rx).1
      | .post => (putRx (patchStatusRx dev rx).1 (patchStatusRx dev rx).2.1).1).readFifo.items := by
  rcases patchStatusRx_cases dev rx with kept | ⟨older, old, fifo, items, same, items', _, patched⟩
  · rw [kept]
    rcases place with room | ⟨old, newest, same⟩
    · obtain ⟨items, _, result⟩ := fifoPut_room rx room
      have accepted : (0 : Int) ≤ (fifoPut dev.readFifo rx).2 := by omega
      simp only [putRx, if_pos accepted, items]
      exact List.mem_append_right _ (List.mem_singleton_self rx)
    · obtain ⟨older, items⟩ := List.getLast?_eq_some_iff.mp newest
      have visit : pcanDoPatchRxmsg old rx = (rx, rx, -eexist) :=
        if_pos ⟨same.1.trans same.2.1.symm, same.2.2⟩
      obtain ⟨_, result⟩ := @BoundedQueue.visitBack_newest _ _ _ _ _ items
        pcanDoPatchRxmsg rx (by rw [visit]; exact (by decide : -eexist ≠ 0))
      have verdict := congrArg (·.2.2) kept
      simp only [patchStatusRx, result, visit, if_true] at verdict
      cases verdict
  · rw [patched]
    simp only [items']
    exact List.mem_append_right _ (List.mem_singleton_self rx)

theorem hasPlace_congr {dev dev' : Pcandev P} (same : dev'.readFifo = dev.readFifo) :
    dev'.HasPlace m ↔ dev.HasPlace m := by
  unfold Pcandev.HasPlace
  rw [same]

/-- What the flooding limits make of a stamped STATUS. -/
def limitedStatus (host : Host) (dev : Pcandev P) (rx : PcanfdRxmsg) :
    Pcandev P × PcanfdRxmsg × Int :=
  filterStatusRx dev (stampRx host dev rx)

theorem limitedStatus_type (type : rx.msg.type = .status) :
    (limitedStatus host dev rx).2.1.msg.type = .status :=
  (filterStatusRx_same dev _).2.trans ((stampRx_type host dev rx).trans type)

theorem queueRx_status (type : rx.msg.type = .status) (opened : 0 < dev.nOpenPaths)
    (clear : dev.overrun = false) : (queueRx host dev rx).1 =
      let limited := limitedStatus host dev rx
      if limited.2.2 = -eexist then limited.1
      else match (patchStatusRx limited.1 limited.2.1).2.2 with
        | .drop => (patchStatusRx limited.1 limited.2.1).1
        | .post => (putRx (patchStatusRx limited.1 limited.2.1).1
            (patchStatusRx limited.1 limited.2.1).2.1).1 := by
  have stamped := (stampRx_type host dev rx).trans type
  have limit : limitRx dev (stampRx host dev rx) = limitStatusRx dev (stampRx host dev rx) := by
    unfold limitRx
    rw [stamped]
  unfold queueRx
  rw [if_neg (by omega), if_neg (by rw [clear]; exact Bool.false_ne_true)]
  simp only [limit]
  unfold limitStatusRx limitedStatus
  simp only
  by_cases exists' : (filterStatusRx dev (stampRx host dev rx)).2.2 = -eexist
  · rw [if_pos exists', if_pos exists']
  · rw [if_neg exists', if_neg exists']
    cases (patchStatusRx (filterStatusRx dev (stampRx host dev rx)).1
      (filterStatusRx dev (stampRx host dev rx)).2.1).2.2 with
    | drop => rfl
    | post => rfl

theorem queueRx_refused (refused : ¬(0 < dev.nOpenPaths ∧ dev.overrun = false)) :
    (queueRx host dev rx).1 = dev := by
  unfold queueRx
  split
  · rfl
  next opened =>
    split
    · rfl
    next unblocked => exact absurd ⟨by omega, by simpa using unblocked⟩ refused

theorem pcanChardevRx_status_mem (type : rx.msg.type = .status)
    (member : m ∈ (pcanChardevRx host dev rx).1.readFifo.items) :
    m ∈ dev.readFifo.items ∨ m.msg.flags = pcanfdErrorInternal ∨
      m = (limitedStatus host dev rx).2.1 ∧ (limitedStatus host dev rx).2.2 ≠ -eexist ∧
        dev.Stores rx (limitedStatus host dev rx).2.1 := by
  by_cases load : rx.msg.id = PcanfdStatus.busLoad.code
  · refine .inl ?_
    unfold pcanChardevRx admitRx at member
    rw [type] at member
    simp only [if_pos load] at member
    exact member
  · by_cases allowed : dev.allowedMsgs &&& pcanfdAllowedMsgStatus ≠ 0
    · unfold pcanChardevRx at member
      simp only [admitRx_status type allowed load, if_true] at member
      by_cases taken : 0 < dev.nOpenPaths ∧ dev.overrun = false
      · have same := (filterStatusRx_same dev (stampRx host dev rx)).1.readFifo
        rw [queueRx_status host type taken.1 taken.2] at member
        simp only at member
        split at member
        · exact .inl (same ▸ member)
        next passed =>
          rcases patchStatusRx_mem (limitedStatus_type host type) member with
            before | ⟨stored, place⟩ | notice
          · exact .inl (same ▸ before)
          · exact .inr (.inr ⟨stored, passed, taken.1, allowed, taken.2, load,
              (hasPlace_congr same).mp place⟩)
          · exact .inr (.inl notice)
      · rw [queueRx_refused host taken] at member
        exact .inl member
    · refine .inl ?_
      unfold pcanChardevRx admitRx at member
      rw [type] at member
      simp only [if_neg load, decide_eq_false allowed, Bool.false_eq_true, if_false] at member
      exact member

theorem pcanChardevRx_status_stored (type : rx.msg.type = .status)
    (passed : (limitedStatus host dev rx).2.2 ≠ -eexist)
    (stores : dev.Stores rx (limitedStatus host dev rx).2.1) :
    (limitedStatus host dev rx).2.1 ∈ (pcanChardevRx host dev rx).1.readFifo.items := by
  have same := (filterStatusRx_same dev (stampRx host dev rx)).1.readFifo
  unfold pcanChardevRx
  simp only [admitRx_status type stores.allowed stores.load, if_true]
  rw [queueRx_status host type stores.opened stores.clear]
  simp only [if_neg passed]
  exact patchStatusRx_stored ((hasPlace_congr same).mpr stores.place)

theorem pcanChardevRx_other_mem (other : rx.msg.type ≠ .status)
    (member : m ∈ (pcanChardevRx host dev rx).1.readFifo.items) :
    m ∈ dev.readFifo.items ∨ m.msg.type ≠ .status ∨ m.msg.flags = pcanfdErrorInternal := by
  have same := (admitRx_same dev rx).readFifo
  unfold pcanChardevRx at member
  simp only at member
  split at member
  · unfold queueRx at member
    generalize (admitRx dev rx).1 = admitted at same member
    obtain ⟨kept, fifo⟩ := @limitRx_other _ admitted (stampRx host admitted rx)
      (by rw [stampRx_type]; exact other)
    split at member
    · exact .inl (same ▸ member)
    · split at member
      · exact .inl (same ▸ member)
      · simp only at member
        split at member
        · exact .inl (same ▸ fifo ▸ member)
        · rcases putRx_mem member with before | ⟨last, _⟩ | notice
          · exact .inl (same ▸ fifo ▸ before)
          · refine .inr (.inl ?_)
            rw [last, kept, stampRx_type]
            exact other
          · exact .inr (.inr notice)
  · exact .inl (same ▸ member)

end Storing

section Level
variable (host : Host) {dev : Pcandev P} {rx m : PcanfdRxmsg}

def isLevel (id : U32) : Prop :=
  id = PcanfdStatus.errorActive.code ∨ id = PcanfdStatus.errorWarning.code ∨
    id = PcanfdStatus.errorPassive.code

/-- The application has been told this state with the current counters. -/
def Pcandev.Told (dev : Pcandev P) (id : U32) : Prop :=
  dev.busState.code = id ∧ dev.rxErrorCounter = dev.prevRxErrorCounter ∧
    dev.txErrorCounter = dev.prevTxErrorCounter

theorem pcanStatusRx_cases (dev : Pcandev P) (pf : PcanfdRxmsg) :
    (dev.Told pf.msg.id ∧ (pcanStatusRx dev pf).2.2 = -eexist) ∨
      (¬dev.Told pf.msg.id ∧ (pcanStatusRx dev pf).2.2 ≠ -eexist ∧
        (pcanStatusRx dev pf).2.1 =
          { pf with msg := { pf.msg with data := Vector.replicate 64 0, dataLen := 0 } }) := by
  have invalid : -einval ≠ -eexist := by decide
  have ok : (0 : Int) ≠ -eexist := by decide
  unfold pcanStatusRx
  split
  next told => exact .inl ⟨told, rfl⟩
  next untold =>
    refine .inr ⟨untold, ?_⟩
    simp only
    split
    · exact ⟨invalid, rfl⟩
    · exact ⟨ok, rfl⟩

theorem limitedStatus_level (level : isLevel rx.msg.id) :
    limitedStatus host dev rx = pcanStatusRx dev (pcanStatusNormalizeRx (stampRx host dev rx)) := by
  unfold limitedStatus filterStatusRx
  rw [stampRx_id]
  exact if_pos level

theorem limitedStatus_id (other : ¬isLevel rx.msg.id) :
    (limitedStatus host dev rx).2.1.msg.id = rx.msg.id := by
  unfold isLevel at other
  unfold limitedStatus filterStatusRx
  rw [stampRx_id, if_neg other]
  split
  · unfold pcanStatusRx
    split
    · exact stampRx_id host dev rx
    · simp only
      split <;> exact stampRx_id host dev rx
  · exact stampRx_id host dev rx

theorem consistent_other (other : ¬isLevel m.msg.id) : m.Consistent where
  active id := absurd (.inl id) other
  warning id := absurd (.inr (.inl id)) other
  passive id := absurd (.inr (.inr id)) other

theorem internal_not_bus (internal : m.msg.flags = pcanfdErrorInternal) : ¬m.isBusStatus := by
  rintro ⟨_, bus⟩
  rw [internal] at bus
  exact bus (by decide)

/-- A message that is stored although the counters are too low for it. -/
structure Misreports (host : Host) (dev : Pcandev P) (rx : PcanfdRxmsg) : Prop where
  bus : rx.isBusStatus
  overstated : dev.Overstated rx.msg.id
  untold : ¬dev.Told rx.msg.id
  opened : 0 < dev.nOpenPaths
  allowed : dev.allowedMsgs &&& pcanfdAllowedMsgStatus ≠ 0
  clear : dev.overrun = false
  place : dev.readFifo.items.length < dev.readFifo.capacity ∨
    ∃ old, dev.readFifo.newest = some old ∧ old.msg.type = .status ∧ old.msg.id = rx.msg.id ∧
      old.msg.flags = (stampRx host dev rx).msg.flags ∧ old.msg.dataLen = 0

theorem raisedLevel_overstated {id : U32} (overstated : dev.Overstated id) :
    raisedLevel dev.errorCount id = id := by
  unfold raisedLevel
  rcases overstated with ⟨rfl, low⟩ | ⟨rfl, _⟩
  · rw [if_neg (by decide), if_pos rfl, if_pos (by omega)]
  · rw [if_neg (by decide), if_neg (by decide)]

theorem normalized_id (ready : dev.countersReady) :
    (pcanStatusNormalizeRx (stampRx host dev rx)).msg.id =
      raisedLevel dev.errorCount rx.msg.id := by
  obtain ⟨counted, count⟩ := stampRx_counters host ready rx
  rw [pcanStatusNormalizeRx_eq, ← count, ← stampRx_id host dev rx]
  exact raisedId_eq counted _

theorem reported_hasPlace (ready : dev.countersReady) (type : rx.msg.type = .status)
    (overstated : dev.Overstated rx.msg.id) : dev.HasPlace (reported host dev rx) ↔
      (dev.readFifo.items.length < dev.readFifo.capacity ∨
        ∃ old, dev.readFifo.newest = some old ∧ old.msg.type = .status ∧ old.msg.id = rx.msg.id ∧
          old.msg.flags = (stampRx host dev rx).msg.flags ∧ old.msg.dataLen = 0) := by
  have id : (reported host dev rx).msg.id = rx.msg.id :=
    (normalized_id host ready).trans (raisedLevel_overstated overstated)
  have flags : (reported host dev rx).msg.flags = (stampRx host dev rx).msg.flags :=
    congrArg (·.msg.flags) (pcanStatusNormalizeRx_eq (stampRx host dev rx))
  have stored : (reported host dev rx).msg.type = .status :=
    (pcanStatusNormalizeRx_type _).trans ((stampRx_type host dev rx).trans type)
  unfold Pcandev.HasPlace SameStatus
  rw [id, flags, stored]
  exact or_congr_right (exists_congr fun old => and_congr_right fun _ => and_congr_right fun _ =>
    ⟨fun same => same.2, fun same => ⟨rfl, same⟩⟩)

theorem reported_isBusStatus : (reported host dev rx).isBusStatus ↔ rx.isBusStatus := by
  rw [← stampRx_isBusStatus host dev rx]
  unfold PcanfdRxmsg.isBusStatus reported
  rw [pcanStatusNormalizeRx_eq]

/-- A post keeps the queue consistent exactly if it does not store a state that the
    counters are too low for. -/
theorem pcanChardevRx_consistent_iff (ready : dev.countersReady)
    (consistent : dev.QueueConsistent) :
    (pcanChardevRx host dev rx).1.QueueConsistent ↔ ¬Misreports host dev rx := by
  constructor
  · intro kept misreports
    have type := misreports.bus.1
    have level : isLevel rx.msg.id := .inr (misreports.overstated.imp And.left And.left)
    have limited := @limitedStatus_level _ host dev rx level
    have raised : (pcanStatusNormalizeRx (stampRx host dev rx)).msg.id = rx.msg.id :=
      (normalized_id host ready).trans (raisedLevel_overstated misreports.overstated)
    rcases pcanStatusRx_cases dev (pcanStatusNormalizeRx (stampRx host dev rx)) with
      ⟨told, _⟩ | ⟨_, passed, message⟩
    · exact misreports.untold (raised ▸ told)
    · rw [← limited] at passed message
      have place := (reported_hasPlace host ready type misreports.overstated).mpr misreports.place
      have load : rx.msg.id ≠ PcanfdStatus.busLoad.code := by
        rcases misreports.overstated with ⟨id, _⟩ | ⟨id, _⟩ <;> rw [id] <;> decide
      have stored := pcanChardevRx_status_stored host type passed
        ⟨misreports.opened, misreports.allowed, misreports.clear, load, message ▸ place⟩
      rw [message] at stored
      exact (reported_consistent_iff host ready rx).mp
        (kept _ stored ((reported_isBusStatus host).mpr misreports.bus)) misreports.overstated
  · intro settled m member bus
    by_cases type : rx.msg.type = .status
    · rcases pcanChardevRx_status_mem host type member with
        before | internal | ⟨rfl, passed, stores⟩
      · exact consistent m before bus
      · exact absurd bus (internal_not_bus internal)
      · by_cases level : isLevel rx.msg.id
        · rw [limitedStatus_level host level] at passed stores bus ⊢
          rcases pcanStatusRx_cases dev (pcanStatusNormalizeRx (stampRx host dev rx)) with
            ⟨_, refused⟩ | ⟨untold, _, message⟩
          · exact absurd refused passed
          · rw [message] at stores bus ⊢
            apply (reported_consistent_iff host ready rx).mpr
            intro overstated
            have raised := (@normalized_id _ host dev rx ready).trans
              (raisedLevel_overstated overstated)
            exact settled ⟨(reported_isBusStatus host).mp bus, overstated, raised ▸ untold,
              stores.opened, stores.allowed, stores.clear,
              (reported_hasPlace host ready type overstated).mp stores.place⟩
        · apply consistent_other
          rw [limitedStatus_id host level]
          exact level
    · rcases pcanChardevRx_other_mem host type member with before | other | internal
      · exact consistent m before bus
      · exact absurd bus.1 other
      · exact absurd bus (internal_not_bus internal)

end Level

section Runs
variable {dev : Pcandev P}

structure RxPost (P : Type) where
  host : Host
  dev : Pcandev P
  rx : PcanfdRxmsg

theorem no_post {good : RxPost P → Prop} : ∀ p ∈ (none : Option (RxPost P)), good p :=
  fun p member => absurd member (Option.not_mem_none p)

def clearPost (host : Host) (dev : Pcandev P) (bits : U16) : Option (RxPost P) :=
  if dev.wCANStatus &&& bits = 0 then none
  else some ⟨host, clearBits dev bits, busStateNotice dev⟩

def ChannelCall.post (dev : Pcandev P) : ChannelCall P → Option (RxPost P)
  | .chardevRx host rx => some ⟨host, dev, rx⟩
  | .recvMsg host _ =>
    if !dev.isPlugged ∨ dev.nOpenPaths = 0 then none
    else
      match dev.readFifo.oldest with
      | some _ => clearPost host { dev with readFifo := dev.readFifo.dropOldest } canErrOverrun
      | none => none
  | _ => none

/-- No state is stored that the counters are too low for. -/
def ChannelCall.Settled (dev : Pcandev P) (call : ChannelCall P) : Prop :=
  ∀ p ∈ call.post dev, ¬Misreports p.host p.dev p.rx

/-- The device still knows its counters after the call. -/
def ChannelCall.Ready : ChannelCall P → Prop
  | .devReset released => released.countersReady
  | .other changed => changed.countersReady
  | _ => True

theorem RxOnly.ready {dev dev' : Pcandev P} (only : RxOnly dev dev') (ready : dev.countersReady) :
    dev'.countersReady :=
  (only.congr Pcandev.countersReady fun _ _ => rfl).mpr ready

theorem pcanClearStatusBit_consistent_iff (host : Host) (bits : U16)
    (ready : dev.countersReady) (consistent : dev.QueueConsistent) :
    (pcanClearStatusBit host dev bits).QueueConsistent ↔
      ∀ p ∈ clearPost host dev bits, ¬Misreports p.host p.dev p.rx := by
  unfold pcanClearStatusBit clearPost
  split
  · exact iff_of_true consistent no_post
  · rw [@pcanChardevRx_consistent_iff _ host (clearBits dev bits) _ ready consistent]
    simp

theorem pcanSyncTimestamps_channel (host : Host) (dev : Pcandev P) (pqm : PcanfdRxmsg) :
    (pcanSyncTimestamps host dev pqm).1.flags = dev.flags ∧
      (pcanSyncTimestamps host dev pqm).1.readFifo = dev.readFifo := by
  unfold pcanSyncTimestamps
  simp only
  split
  · exact ⟨rfl, rfl⟩
  · exact ⟨rfl, rfl⟩
  · split
    · exact ⟨rfl, rfl⟩
    · split <;> exact ⟨rfl, rfl⟩

theorem pcanPushBusLoadInd_mem (host : Host) {m : PcanfdRxmsg}
    (member : m ∈ (pcanPushBusLoadInd host dev).readFifo.items) :
    m ∈ dev.readFifo.items ∨ m = busLoadNotice host dev (averageBusLoad dev) := by
  unfold pcanPushBusLoadInd at member
  simp only at member
  split at member
  · exact .inl member
  · split at member
    · exact .inl member
    · simp only at member
      by_cases room : dev.readFifo.items.length < dev.readFifo.capacity
      · rw [(fifoPut_room _ room).1] at member
        exact (List.mem_append.mp member).imp_right List.mem_singleton.mp
      · have full : dev.readFifo.items.length = dev.readFifo.capacity := by
          have := dev.readFifo.fits
          omega
        rw [fifoPut_full _ full] at member
        exact .inl member

theorem busLoadNotice_not_bus (host : Host) (bl : Int) :
    ¬(busLoadNotice host dev bl).isBusStatus := by
  rintro ⟨_, bus⟩
  apply bus
  unfold busLoadNotice
  simp only
  split <;> decide

theorem channelStep_ready (ready : dev.countersReady) {call : ChannelCall P} (kept : call.Ready) :
    (channelStep dev call).1.countersReady := by
  cases call with
  | chardevRx host rx =>
    exact (pcanChardevRx_only host dev rx).ready ready
  | recvMsg host nonblock =>
    show (pcanfdRecvMsg host dev nonblock).1.countersReady
    unfold pcanfdRecvMsg
    split
    · exact ready
    · split
      · simp only
        unfold Pcandev.countersReady
        rw [(pcanSyncTimestamps_channel _ _ _).1]
        exact (pcanClearStatusBit_only host { dev with readFifo := dev.readFifo.dropOldest }
          canErrOverrun).ready ready
      · exact ready
  | devReset released =>
    show (pcanfdDevReset (·.withOthers released) dev).1.flags &&& _ ≠ 0
    unfold pcanfdDevReset
    simp only
    rw [pcanSetBusState_flags]
    simp only
    rw [Masks.andNot_and_of_disjoint _ (by decide)]
    split
    · exact kept
    · exact ready
  | busLoadTimer host =>
    show (pcanPushBusLoadInd host dev).flags &&& _ ≠ 0
    unfold pcanPushBusLoadInd
    simp only
    split
    · exact ready
    · split <;> exact ready
  | other changed => exact kept

theorem channelStep_consistent_iff (ready : dev.countersReady) (consistent : dev.QueueConsistent)
    (call : ChannelCall P) : (channelStep dev call).1.QueueConsistent ↔ call.Settled dev := by
  cases call with
  | chardevRx host rx =>
    unfold ChannelCall.Settled ChannelCall.post
    simp only [Option.mem_some_iff, forall_eq']
    exact pcanChardevRx_consistent_iff host ready consistent
  | recvMsg host nonblock =>
    show (pcanfdRecvMsg host dev nonblock).1.QueueConsistent ↔ _
    unfold ChannelCall.Settled ChannelCall.post pcanfdRecvMsg
    simp only
    split
    · exact iff_of_true consistent no_post
    · cases dev.readFifo.oldest with
      | none => exact iff_of_true consistent no_post
      | some pf =>
        have taken : ({ dev with readFifo := dev.readFifo.dropOldest } :
            Pcandev P).QueueConsistent :=
          fun m member => consistent m (List.mem_of_mem_tail member)
        have cleared := @pcanClearStatusBit_consistent_iff _
          { dev with readFifo := dev.readFifo.dropOldest } host canErrOverrun ready taken
        simp only
        unfold Pcandev.QueueConsistent at cleared ⊢
        rw [(pcanSyncTimestamps_channel _ _ _).2]
        exact cleared
  | devReset released =>
    exact iff_of_true (fun m member => absurd member List.not_mem_nil) no_post
  | busLoadTimer host =>
    refine iff_of_true ?_ no_post
    intro m member bus
    rcases pcanPushBusLoadInd_mem host member with before | notice
    · exact consistent m before bus
    · exact absurd (notice ▸ bus) (busLoadNotice_not_bus host _)
  | other changed => exact iff_of_true consistent no_post

/-- On a device that knows its counters the bus states that are stored fit them exactly as
    long as no warning or passive state is stored that they are too low for. -/
theorem stored_states_consistent_iff (ready : dev.countersReady)
    (consistent : dev.QueueConsistent) {calls : List (ChannelCall P)}
    (kept : ∀ call ∈ calls, call.Ready) :
    (∀ t ∈ states channelStep dev calls, t.QueueConsistent) ↔
      Admitted (fun dev call => call.Settled dev) channelStep dev calls := by
  have kept := @admitted_of_forall _ _ _ channelStep _ dev _ kept
  have always : ∀ t ∈ states channelStep dev calls, t.countersReady :=
    states_invariant (fun _ _ ready kept => channelStep_ready ready kept) ready kept
  have each : ∀ (dev : Pcandev P) (call : ChannelCall P),
      dev.countersReady ∧ dev.QueueConsistent → call.Ready →
      ((channelStep dev call).1.countersReady ∧ (channelStep dev call).1.QueueConsistent ↔
        call.Settled dev) := by
    intro dev call inv kept
    rw [and_iff_right (channelStep_ready inv.1 kept)]
    exact channelStep_consistent_iff inv.1 inv.2 call
  rw [← states_iff_admitted each ⟨ready, consistent⟩ kept]
  exact forall₂_congr fun t member => (and_iff_right (always t member)).symm

end Runs

section Samples

/-- An opened channel of a device that knows its error counters. -/
def countingChannel : Pcandev Unit := openedChannel () 4 4 pcanDevErrcntRdy

def postHost : Host := ⟨⟨1, 0⟩, ⟨0, 0⟩⟩

/-- The counters get there before the warning does. -/
def warningCalls : List (ChannelCall Unit) :=
  [.other { countingChannel with busState := .errorWarning, rxErrorCounter := 100 },
    .chardevRx postHost (PcanfdRxmsg.zero.withStatus .errorWarning)]

theorem raised_counters_stay_consistent :
    countingChannel.countersReady ∧
      ∀ t ∈ states channelStep countingChannel warningCalls, t.QueueConsistent := by
  have kept : ∀ call ∈ warningCalls, call.Ready := by
    intro call member
    rcases List.mem_cons.mp member with rfl | member
    · exact (by decide : pcanDevErrcntRdy &&& pcanDevErrcntRdy ≠ 0)
    · rw [List.mem_singleton.mp member]
      trivial
  have ready : countingChannel.countersReady :=
    (by decide : pcanDevErrcntRdy &&& pcanDevErrcntRdy ≠ 0)
  have empty : countingChannel.QueueConsistent := fun m member => absurd member List.not_mem_nil
  refine ⟨ready, (stored_states_consistent_iff ready empty kept).mpr ⟨no_post, ?_, trivial⟩⟩
  intro p member misreports
  rw [← Option.mem_some_iff.mp member] at misreports
  rcases misreports.overstated with ⟨_, low⟩ | ⟨id, _⟩
  · exact absurd low (by decide)
  · exact absurd id (by decide)

/-- A status record with the warning bit that comes before the counters is stored as a
    warning with counters of 0. -/
theorem early_warning_is_stored :
    ∃ m ∈ (ucanPostStatusMsg (fun dev => (dev, 0)) postHost .zero countingChannel false true false
        none).1.readFifo.items,
      (m.msg.type = .status ∧ m.msg.flags &&& pcanfdErrorBus ≠ 0) ∧
        m.msg.id = PcanfdStatus.errorWarning.code ∧ m.errorCount = 0 := by
  decide

end Samples

end PcanDriver

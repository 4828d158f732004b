import PcanDriver.Lib.Masks
import PcanDriver.RxPath

/-!
What a call of `pcan_chardev_rx` can do to the receive queue. Every later result
about received messages is derived from these cases.
-/
namespace PcanDriver
variable {P : Type}

theorem fifoPut_room {A : Type} {fifo : BoundedQueue A} (x : A)
    (room : fifo.items.length < fifo.capacity) :
    (fifoPut fifo x).1.items = fifo.items ++ [x] ∧ (fifoPut fifo x).1.capacity = fifo.capacity ∧
      (fifoPut fifo x).2 = (fifo.items.length : Int) := by
  obtain ⟨pushed, accepted, capacity, items⟩ := BoundedQueue.push_room x room
  simp only [fifoPut, Fifo.queuePut, accepted]
  exact ⟨items, capacity, trivial⟩

theorem fifoPut_full {A : Type} {fifo : BoundedQueue A} (x : A)
    (full : fifo.items.length = fifo.capacity) : fifoPut fifo x = (fifo, -enospc) := by
  simp only [fifoPut, Fifo.queuePut, BoundedQueue.push_none.mpr full, Bool.false_eq_true, if_false]

theorem fifoPut_stored {A : Type} {fifo : BoundedQueue A} {x : A}
    (stored : 0 ≤ (fifoPut fifo x).2) : (fifoPut fifo x).1.items = fifo.items ++ [x] := by
  by_cases room : fifo.items.length < fifo.capacity
  · exact (fifoPut_room x room).1
  · have full : fifo.items.length = fifo.capacity := by
      have := fifo.fits
      omega
    rw [fifoPut_full x full] at stored
    have refused : ¬(0 : Int) ≤ -enospc := by decide
    exact absurd stored refused

/-- The flag bits the driver itself sets on the way to the application. -/
def driverFlags : U32 := pcanfdTimestamp ||| pcanfdHwtimestamp ||| pcanfdErrcnt ||| pcanfdBusload

/-- What a received frame says, without the time base and counters of the driver. -/
structure FrameContent where
  type : MsgType
  id : U32
  flags : U32
  dataLen : U16
  data : Vector U8 64
deriving Repr, DecidableEq

def PcanfdRxmsg.content (rx : PcanfdRxmsg) : FrameContent :=
  ⟨rx.msg.type, rx.msg.id, rx.msg.flags &&& ~~~driverFlags, rx.msg.dataLen, rx.msg.data⟩

def SameStatus (old new : PcanfdRxmsg) : Prop :=
  old.msg.type = .status ∧ new.msg.type = .status ∧ old.msg.id = new.msg.id ∧
    old.msg.flags = new.msg.flags ∧ old.msg.dataLen = new.msg.dataLen

theorem stampRx_content (host : Host) (dev : Pcandev P) (rx : PcanfdRxmsg) :
    (stampRx host dev rx).content = rx.content := by
  have busload : pcanfdBusload &&& ~~~driverFlags = 0 := by decide
  have errcnt : pcanfdErrcnt &&& ~~~driverFlags = 0 := by decide
  have flags : (stampRx host dev rx).msg.flags &&& ~~~driverFlags =
      rx.msg.flags &&& ~~~driverFlags := by
    simp only [stampRx, stampErrcnt, stampBusload]
    split <;> split <;>
      simp only [Masks.or_and_of_disjoint _ errcnt, Masks.andNot_and_of_disjoint _ errcnt,
        Masks.or_and_of_disjoint _ busload, Masks.andNot_and_of_disjoint _ busload]
  have fields : (stampRx host dev rx).msg.type = rx.msg.type ∧
      (stampRx host dev rx).msg.id = rx.msg.id ∧
      (stampRx host dev rx).msg.dataLen = rx.msg.dataLen ∧
      (stampRx host dev rx).msg.data = rx.msg.data := by
    simp only [stampRx, stampErrcnt, stampBusload]
    split <;> split <;> simp
  simp [PcanfdRxmsg.content, flags, fields]

theorem stampRx_type (host : Host) (dev : Pcandev P) (rx : PcanfdRxmsg) :
    (stampRx host dev rx).msg.type = rx.msg.type :=
  congrArg FrameContent.type (stampRx_content host dev rx)

theorem overrun_iff (dev : Pcandev P) :
    dev.overrun = true ↔ dev.wCANStatus &&& canErrOverrun ≠ 0 := decide_eq_true_iff

theorem overrun_false_iff (dev : Pcandev P) :
    dev.overrun = false ↔ dev.wCANStatus &&& canErrOverrun = 0 := by
  rw [← Bool.not_eq_true, overrun_iff, not_not]

structure RxWrites where
  readFifo : BoundedQueue PcanfdRxmsg
  busLoadCount : U32
  busLoadTotal : U32
  busError : U32
  dwErrorCounter : U32
  rxFramesCounter : U32
  wCANStatus : U16
  prevRxErrorCounter : U8
  prevTxErrorCounter : U8

def Pcandev.withRx (dev : Pcandev P) (w : RxWrites) : Pcandev P :=
  { dev with
    readFifo := w.readFifo
    busLoadCount := w.busLoadCount
    busLoadTotal := w.busLoadTotal
    busError := w.busError
    dwErrorCounter := w.dwErrorCounter
    rxFramesCounter := w.rxFramesCounter
    wCANStatus := w.wCANStatus
    prevRxErrorCounter := w.prevRxErrorCounter
    prevTxErrorCounter := w.prevTxErrorCounter }

def RxOnly (dev dev' : Pcandev P) : Prop := ∃ w, dev' = dev.withRx w

theorem RxOnly.refl (dev : Pcandev P) : RxOnly dev dev :=
  ⟨⟨dev.readFifo, dev.busLoadCount, dev.busLoadTotal, dev.busError, dev.dwErrorCounter,
    dev.rxFramesCounter, dev.wCANStatus, dev.prevRxErrorCounter, dev.prevTxErrorCounter⟩, rfl⟩

theorem RxOnly.trans {a b c : Pcandev P} (first : RxOnly a b) (second : RxOnly b c) :
    RxOnly a c := by
  obtain ⟨_, rfl⟩ := first
  obtain ⟨w, rfl⟩ := second
  exact ⟨w, rfl⟩

/-- What does not look at these members is the same. -/
theorem RxOnly.congr {A : Type} {dev dev' : Pcandev P} (only : RxOnly dev dev')
    (f : Pcandev P → A) (blind : ∀ dev w, f (dev.withRx w) = f dev) : f dev' = f dev := by
  obtain ⟨w, rfl⟩ := only
  exact blind dev w

theorem admitRx_only (dev : Pcandev P) (rx : PcanfdRxmsg) : RxOnly dev (admitRx dev rx).1 := by
  unfold admitRx
  split
  · exact .refl dev
  · split
    · exact ⟨⟨_, _, _, _, _, _, _, _, _⟩, rfl⟩
    · exact .refl dev
  · exact .refl dev
  · exact ⟨⟨_, _, _, _, _, _, _, _, _⟩, rfl⟩
  · exact ⟨⟨_, _, _, _, _, _, _, _, _⟩, rfl⟩
  · exact .refl dev

theorem pcanStatusRx_only (dev : Pcandev P) (pf : PcanfdRxmsg) :
    RxOnly dev (pcanStatusRx dev pf).1 := by
  unfold pcanStatusRx
  split
  · exact .refl dev
  · simp only
    split
    · exact .refl dev
    · exact ⟨⟨_, _, _, _, _, _, _, _, _⟩, rfl⟩

theorem pcanErrorRx_only (dev : Pcandev P) (rx : PcanfdRxmsg) :
    RxOnly dev (pcanErrorRx dev rx).1 := by
  unfold pcanErrorRx
  split
  · split
    · exact .refl dev
    · split
      · exact .refl dev
      · exact ⟨⟨_, _, _, _, _, _, _, _, _⟩, rfl⟩
  · exact ⟨⟨_, _, _, _, _, _, _, _, _⟩, rfl⟩

theorem limitRx_only (dev : Pcandev P) (rx : PcanfdRxmsg) : RxOnly dev (limitRx dev rx).1 := by
  unfold limitRx
  split
  case h_3 =>
    have filtered : RxOnly dev (filterStatusRx dev rx).1 := by
      unfold filterStatusRx
      split
      · exact pcanStatusRx_only _ _
      · split
        · exact pcanStatusRx_only _ _
        · exact .refl dev
    unfold limitStatusRx patchStatusRx
    simp only
    split
    · exact filtered
    · exact filtered.trans ⟨⟨_, _, _, _, _, _, _, _, _⟩, rfl⟩
  case h_4 => exact pcanErrorRx_only dev rx
  all_goals exact .refl dev

theorem putRx_only (dev : Pcandev P) (rx : PcanfdRxmsg) : RxOnly dev (putRx dev rx).1 := by
  unfold putRx
  simp only
  split <;> exact ⟨⟨_, _, _, _, _, _, _, _, _⟩, rfl⟩

theorem pcanChardevRx_only (host : Host) (dev : Pcandev P) (rx : PcanfdRxmsg) :
    RxOnly dev (pcanChardevRx host dev rx).1 := by
  have admitted := admitRx_only dev rx
  unfold pcanChardevRx queueRx
  simp only
  split
  · split
    · exact admitted
    · split
      · exact admitted
      · split
        · exact admitted.trans (limitRx_only _ _)
        · exact admitted.trans ((limitRx_only _ _).trans (putRx_only _ _))
  · exact admitted

theorem pcanClearStatusBit_only (host : Host) (dev : Pcandev P) (bits : U16) :
    RxOnly dev (pcanClearStatusBit host dev bits) := by
  unfold pcanClearStatusBit
  split
  · exact .refl dev
  · exact .trans ⟨⟨_, _, _, _, _, _, _, _, _⟩, rfl⟩ (pcanChardevRx_only host (clearBits dev bits) _)

structure SameQueueing (dev dev' : Pcandev P) : Prop where
  readFifo : dev'.readFifo = dev.readFifo
  status : dev'.wCANStatus = dev.wCANStatus
  paths : dev'.nOpenPaths = dev.nOpenPaths
  plugged : dev'.isPlugged = dev.isPlugged
  busState : dev'.busState = dev.busState

theorem SameQueueing.refl (dev : Pcandev P) : SameQueueing dev dev := ⟨rfl, rfl, rfl, rfl, rfl⟩

theorem SameQueueing.overrun {dev dev' : Pcandev P} (same : SameQueueing dev dev') :
    dev'.overrun = dev.overrun := by
  unfold Pcandev.overrun
  rw [same.status]

theorem admitRx_same (dev : Pcandev P) (rx : PcanfdRxmsg) :
    SameQueueing dev (admitRx dev rx).1 := by
  unfold admitRx
  split
  · exact .refl dev
  · split <;> exact ⟨rfl, rfl, rfl, rfl, rfl⟩
  all_goals exact ⟨rfl, rfl, rfl, rfl, rfl⟩

theorem pcanStatusRx_same (dev : Pcandev P) (pf : PcanfdRxmsg) :
    SameQueueing dev (pcanStatusRx dev pf).1 ∧
      (pcanStatusRx dev pf).2.1.msg.type = pf.msg.type := by
  unfold pcanStatusRx
  split
  · exact ⟨.refl dev, rfl⟩
  · simp only
    split <;> exact ⟨⟨rfl, rfl, rfl, rfl, rfl⟩, rfl⟩

theorem pcanErrorRx_same (dev : Pcandev P) (rx : PcanfdRxmsg) :
    SameQueueing dev (pcanErrorRx dev rx).1 := by
  unfold pcanErrorRx
  split
  · split
    · exact .refl dev
    · split <;> exact ⟨rfl, rfl, rfl, rfl, rfl⟩
  · exact ⟨rfl, rfl, rfl, rfl, rfl⟩

theorem pcanStatusNormalizeRx_type (rx : PcanfdRxmsg) :
    (pcanStatusNormalizeRx rx).msg.type = rx.msg.type := by
  unfold pcanStatusNormalizeRx PcanfdRxmsg.withId
  split
  · rfl
  · simp only
    split
    · split
      · rfl
      · split <;> rfl
    · split
      · split <;> rfl
      · rfl

theorem filterStatusRx_same (dev : Pcandev P) (rx : PcanfdRxmsg) :
    SameQueueing dev (filterStatusRx dev rx).1 ∧
      (filterStatusRx dev rx).2.1.msg.type = rx.msg.type := by
  unfold filterStatusRx
  split
  · obtain ⟨same, type⟩ := pcanStatusRx_same dev (pcanStatusNormalizeRx rx)
    exact ⟨same, type.trans (pcanStatusNormalizeRx_type rx)⟩
  · split
    · exact pcanStatusRx_same dev rx
    · exact ⟨.refl dev, rfl⟩

structure SameGates (dev dev' : Pcandev P) : Prop where
  capacity : dev'.readFifo.capacity = dev.readFifo.capacity
  status : dev'.wCANStatus = dev.wCANStatus
  paths : dev'.nOpenPaths = dev.nOpenPaths
  plugged : dev'.isPlugged = dev.isPlugged
  busState : dev'.busState = dev.busState

theorem SameQueueing.gates {dev dev' : Pcandev P} (same : SameQueueing dev dev') :
    SameGates dev dev' :=
  ⟨by rw [same.readFifo], same.status, same.paths, same.plugged, same.busState⟩

theorem SameGates.trans {a b c : Pcandev P} (first : SameGates a b) (second : SameGates b c) :
    SameGates a c :=
  ⟨second.capacity.trans first.capacity, second.status.trans first.status,
    second.paths.trans first.paths, second.plugged.trans first.plugged,
    second.busState.trans first.busState⟩

theorem SameGates.overrun {dev dev' : Pcandev P} (same : SameGates dev dev') :
    dev'.overrun = dev.overrun := by
  unfold Pcandev.overrun
  rw [same.status]

/-- The queue after the limits: untouched, or its newest STATUS brought up to date. -/
inductive LimitEffect (dev : Pcandev P) (done : Pcandev P × PcanfdRxmsg × Verdict) : Prop
  | kept (same : done.1.readFifo = dev.readFifo)
  | patched (older : List PcanfdRxmsg) (old : PcanfdRxmsg)
      (items : dev.readFifo.items = older ++ [old]) (status : SameStatus old done.2.1)
      (items' : done.1.readFifo.items = older ++ [done.2.1]) (dropped : done.2.2 = .drop)

theorem patchStatusRx_cases (dev : Pcandev P) (rx : PcanfdRxmsg) :
    patchStatusRx dev rx = (dev, rx, .post) ∨
      ∃ older old fifo, dev.readFifo.items = older ++ [old] ∧
        (old.msg.type = rx.msg.type ∧ old.msg.id = rx.msg.id ∧ old.msg.flags = rx.msg.flags ∧
          old.msg.dataLen = rx.msg.dataLen) ∧
        fifo.items = older ++ [rx] ∧ fifo.capacity = dev.readFifo.capacity ∧
        patchStatusRx dev rx = ({ dev with readFifo := fifo }, rx, .drop) := by
  rcases List.eq_nil_or_concat dev.readFifo.items with nil | ⟨older, old, items⟩
  · left
    simp only [patchStatusRx, BoundedQueue.visitBack_nil nil]
    rfl
  · rw [List.concat_eq_append] at items
    by_cases match_old : old.msg.type = rx.msg.type ∧ old.msg.id = rx.msg.id ∧
        old.msg.flags = rx.msg.flags ∧ old.msg.dataLen = rx.msg.dataLen
    · have visit : pcanDoPatchRxmsg old rx = (rx, rx, -eexist) := if_pos match_old
      obtain ⟨items', result⟩ := @BoundedQueue.visitBack_newest _ _ _ _ _ items
        pcanDoPatchRxmsg rx (by rw [visit]; exact (by decide : -eexist ≠ 0))
      rw [visit] at items' result
      refine .inr ⟨older, old, _, items, match_old, items', rfl, ?_⟩
      simp only [patchStatusRx, result, if_true]
    · have visit : pcanDoPatchRxmsg old rx = (old, rx, -enoent) := if_neg match_old
      obtain ⟨items', result⟩ := @BoundedQueue.visitBack_newest _ _ _ _ _ items
        pcanDoPatchRxmsg rx (by rw [visit]; exact (by decide : -enoent ≠ 0))
      rw [visit] at items' result
      have fifo : (dev.readFifo.visitBack pcanDoPatchRxmsg rx).1 = dev.readFifo :=
        BoundedQueue.ext_items rfl (items'.trans items.symm)
      left
      simp only [patchStatusRx, result, fifo]
      rfl

theorem patchStatusRx_effect (dev : Pcandev P) {rx : PcanfdRxmsg} (type : rx.msg.type = .status) :
    LimitEffect dev (patchStatusRx dev rx) := by
  rcases patchStatusRx_cases dev rx with kept | ⟨older, old, fifo, items, same, items', _, patched⟩
  · rw [kept]
    exact .kept rfl
  · rw [patched]
    exact .patched older old items ⟨same.1.trans type, type, same.2⟩ items' rfl

theorem limitStatusRx_effect (dev : Pcandev P) {rx : PcanfdRxmsg} (type : rx.msg.type = .status) :
    LimitEffect dev (limitStatusRx dev rx) ∧ SameGates dev (limitStatusRx dev rx).1 ∧
      (limitStatusRx dev rx).2.1.msg.type = rx.msg.type := by
  obtain ⟨same, kept_type⟩ := filterStatusRx_same dev rx
  unfold limitStatusRx
  simp only
  split
  · exact ⟨.kept same.readFifo, same.gates, kept_type⟩
  · refine ⟨?_, same.gates.trans ⟨rfl, rfl, rfl, rfl, rfl⟩, kept_type⟩
    have effect := patchStatusRx_effect (filterStatusRx dev rx).1 (kept_type.trans type)
    cases effect with
    | kept unchanged => exact .kept (unchanged.trans same.readFifo)
    | patched older old items status items' dropped =>
      exact .patched older old (same.readFifo ▸ items) status items' dropped

theorem limitRx_effect (dev : Pcandev P) (rx : PcanfdRxmsg) :
    LimitEffect dev (limitRx dev rx) ∧ SameGates dev (limitRx dev rx).1 ∧
      (limitRx dev rx).2.1.msg.type = rx.msg.type := by
  unfold limitRx
  split
  case h_3 type => exact limitStatusRx_effect dev type
  case h_4 =>
    have same := pcanErrorRx_same dev rx
    exact ⟨.kept same.readFifo, same.gates, rfl⟩
  all_goals exact ⟨.kept rfl, (SameQueueing.refl dev).gates, rfl⟩

theorem limitRx_frame (dev : Pcandev P) {rx : PcanfdRxmsg} (frame : rx.msg.type.isCan = true) :
    (limitRx dev rx).2.1 = rx := by
  unfold limitRx
  split
  case h_3 type => simp [type, MsgType.isCan] at frame
  all_goals rfl

/-- What `pcan_chardev_rx` has done when it returns. -/
inductive RxEffect (dev dev' : Pcandev P) (rx rx' : PcanfdRxmsg) (result : Int) : Prop
  | ignored (same : dev'.readFifo = dev.readFifo) (bit : dev'.overrun = dev.overrun)
      (refused : result = 0 ∨ result = -enospc ∧ dev.overrun = true)
  | patched (older : List PcanfdRxmsg) (old : PcanfdRxmsg)
      (items : dev.readFifo.items = older ++ [old]) (status : SameStatus old rx')
      (items' : dev'.readFifo.items = older ++ [rx']) (bit : dev'.overrun = dev.overrun)
      (refused : result = 0)
  | queued (items' : dev'.readFifo.items = dev.readFifo.items ++ [rx'])
      (bit : dev'.overrun = false) (type : rx'.msg.type = rx.msg.type)
      (content : rx.msg.type.isCan = true → rx'.content = rx.content) (accepted : result = 1)
  | overflowed (full : dev.readFifo.items.length = dev.readFifo.capacity)
      (clear : dev.overrun = false) (bit : dev'.overrun = true)
      (items' : dev'.readFifo.items = dev.readFifo.items.dropLast ++ [rx'])
      (notice : rx'.msg.type = .status ∧ rx'.msg.id = PcanfdStatus.rxOverflow.code)
      (refused : result = -enospc)

structure SameChannel (dev dev' : Pcandev P) : Prop where
  capacity : dev'.readFifo.capacity = dev.readFifo.capacity
  paths : dev'.nOpenPaths = dev.nOpenPaths
  plugged : dev'.isPlugged = dev.isPlugged
  busState : dev'.busState = dev.busState

theorem SameGates.channel {dev dev' : Pcandev P} (same : SameGates dev dev') :
    SameChannel dev dev' := ⟨same.capacity, same.paths, same.plugged, same.busState⟩

theorem SameChannel.trans {a b c : Pcandev P} (first : SameChannel a b)
    (second : SameChannel b c) : SameChannel a c :=
  ⟨second.capacity.trans first.capacity, second.paths.trans first.paths,
    second.plugged.trans first.plugged, second.busState.trans first.busState⟩

theorem overrun_set (dev : Pcandev P) : (countError dev canErrOverrun).overrun = true := by
  unfold Pcandev.overrun countError
  simp only [Masks.or_and_self]
  decide

theorem putRx_effect {dev : Pcandev P} (rx : PcanfdRxmsg) (positive : 0 < dev.readFifo.capacity)
    (clear : dev.overrun = false) :
    RxEffect dev (putRx dev rx).1 rx (putRx dev rx).2.1 (putRx dev rx).2.2 ∧
      SameChannel dev (putRx dev rx).1 := by
  by_cases room : dev.readFifo.items.length < dev.readFifo.capacity
  · obtain ⟨items', capacity, result⟩ := fifoPut_room rx room
    have accepted : (0 : Int) ≤ (fifoPut dev.readFifo rx).2 := by omega
    simp only [putRx, accepted, if_true]
    exact ⟨.queued items' clear rfl (fun _ => rfl) rfl, capacity, rfl, rfl, rfl⟩
  · have full : dev.readFifo.items.length = dev.readFifo.capacity := by
      have := dev.readFifo.fits
      omega
    rcases List.eq_nil_or_concat dev.readFifo.items with nil | ⟨older, old, items⟩
    · rw [nil, List.length_nil] at full
      omega
    · rw [List.concat_eq_append] at items
      have refused : ¬ (0 : Int) ≤ -enospc := by decide
      simp only [putRx, fifoPut_full rx full, refused, if_false]
      obtain ⟨items', -⟩ := @BoundedQueue.visitBack_newest _ _ _ _ _ items pcanDoPatchLast
        (pcanHandleErrorInternal dev rx .rxOverflow).2
        (by exact (by decide : -eexist ≠ 0))
      refine ⟨.overflowed full clear (overrun_set dev) ?_ ⟨rfl, rfl⟩ rfl, rfl, rfl, rfl, rfl⟩
      rw [items', items, List.dropLast_concat]
      rfl

theorem queueRx_effect (host : Host) {dev : Pcandev P} (rx : PcanfdRxmsg)
    (positive : 0 < dev.readFifo.capacity) :
    RxEffect dev (queueRx host dev rx).1 rx (queueRx host dev rx).2.1 (queueRx host dev rx).2.2 ∧
      SameChannel dev (queueRx host dev rx).1 := by
  unfold queueRx
  split
  · exact ⟨.ignored rfl rfl (.inl rfl), rfl, rfl, rfl, rfl⟩
  · split
    · rename_i blocked
      exact ⟨.ignored rfl rfl (.inr ⟨rfl, blocked⟩), rfl, rfl, rfl, rfl⟩
    · rename_i unblocked
      have clear : dev.overrun = false := by simpa using unblocked
      obtain ⟨effect, gates, type⟩ := limitRx_effect dev (stampRx host dev rx)
      rw [stampRx_type] at type
      simp only
      split
      · refine ⟨?_, gates.channel⟩
        cases effect with
        | kept same => exact .ignored same gates.overrun (.inl rfl)
        | patched older old items status items' _ =>
          exact .patched older old items status items' gates.overrun rfl
      · rename_i posted
        have unpatched : (limitRx dev (stampRx host dev rx)).1.readFifo = dev.readFifo := by
          cases effect with
          | kept same => exact same
          | patched _ _ _ _ _ dropped =>
            rw [dropped] at posted
            cases posted
        obtain ⟨put_effect, channel⟩ := @putRx_effect _
          (limitRx dev (stampRx host dev rx)).1 (limitRx dev (stampRx host dev rx)).2.1
          (by rw [gates.capacity]; exact positive) (gates.overrun.trans clear)
        refine ⟨?_, gates.channel.trans channel⟩
        cases put_effect with
        | ignored same bit refused =>
          refine .ignored (same.trans unpatched) (bit.trans gates.overrun) ?_
          rw [gates.overrun] at refused
          exact refused
        | patched older old items status items' bit refused =>
          exact .patched older old (unpatched ▸ items) status items' (bit.trans gates.overrun) refused
        | queued items' bit kept_type content accepted =>
          rw [unpatched] at items'
          refine .queued items' bit (kept_type.trans type) ?_ accepted
          intro frame
          have frame' : (stampRx host dev rx).msg.type.isCan = true := by rw [stampRx_type, frame]
          rw [content (by rw [type]; exact frame), limitRx_frame dev frame', stampRx_content]
        | overflowed full _ bit items' notice refused =>
          rw [unpatched] at full items'
          exact .overflowed full clear bit items' notice refused

theorem pcanChardevRx_effect (host : Host) {dev : Pcandev P} (rx : PcanfdRxmsg)
    (positive : 0 < dev.readFifo.capacity) :
    RxEffect dev (pcanChardevRx host dev rx).1 rx (pcanChardevRx host dev rx).2.1
        (pcanChardevRx host dev rx).2.2 ∧
      SameChannel dev (pcanChardevRx host dev rx).1 := by
  have same := admitRx_same dev rx
  unfold pcanChardevRx
  simp only
  split
  · obtain ⟨effect, channel⟩ := @queueRx_effect _ host (admitRx dev rx).1 rx
      (by rw [same.readFifo]; exact positive)
    refine ⟨?_, same.gates.channel.trans channel⟩
    have fifo := same.readFifo
    have bit_before := same.overrun
    cases effect with
    | ignored kept bit refused =>
      exact .ignored (kept.trans fifo) (bit.trans bit_before) (bit_before ▸ refused)
    | patched older old items status items' bit refused =>
      exact .patched older old (fifo ▸ items) status items' (bit.trans bit_before) refused
    | queued items' bit type content accepted =>
      exact .queued (fifo ▸ items') bit type content accepted
    | overflowed full clear bit items' notice refused =>
      exact .overflowed (fifo ▸ full) (bit_before ▸ clear) bit (fifo ▸ items') notice refused
  · exact ⟨.ignored same.readFifo same.overrun (.inl rfl), same.gates.channel⟩

theorem pcanSetBusState_frame (dev : Pcandev P) (busState : PcanfdStatus) :
    (pcanSetBusState dev busState).readFifo = dev.readFifo ∧
      (pcanSetBusState dev busState).nOpenPaths = dev.nOpenPaths ∧
      (pcanSetBusState dev busState).isPlugged = dev.isPlugged ∧
      (pcanSetBusState dev busState).overrun = dev.overrun := by
  have session : ∀ w : U16, w &&& ~~~(canErrBusoff ||| canErrBusheavy ||| canErrBuslight) &&&
      canErrOverrun = w &&& canErrOverrun :=
    fun w => Masks.andNot_and_of_disjoint w (by decide)
  have light : ∀ w : U16, (w ||| canErrBuslight) &&& canErrOverrun = w &&& canErrOverrun :=
    fun w => Masks.or_and_of_disjoint w (by decide)
  have heavy : ∀ w : U16, (w ||| canErrBusheavy) &&& canErrOverrun = w &&& canErrOverrun :=
    fun w => Masks.or_and_of_disjoint w (by decide)
  have off : ∀ w : U16, (w ||| canErrBusoff) &&& canErrOverrun = w &&& canErrOverrun :=
    fun w => Masks.or_and_of_disjoint w (by decide)
  unfold pcanSetBusState Pcandev.overrun
  simp only
  split
  · exact ⟨rfl, rfl, rfl, rfl⟩
  · cases busState <;>
      simp [pcanInitSessionCounters, countError, session, light, heavy, off]

theorem pcanSetBusState_flags (dev : Pcandev P) (state : PcanfdStatus) :
    (pcanSetBusState dev state).flags = dev.flags := by
  unfold pcanSetBusState
  split
  · rfl
  · cases state <;> rfl

end PcanDriver

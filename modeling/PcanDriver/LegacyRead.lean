import PcanDriver.DataLengths
import PcanDriver.Lib.StepSystem
import PcanDriver.RxAccounting

/-!
The read command of the old interface. `pcan_ioctl_read` (`pcan_fops_linux.c`) takes messages
out of the application's queue until one is not a CAN FD frame, has `pcan_fd_to_msg` convert
it and copies the result to the user.
-/
namespace PcanDriver
variable {P : Type}

section Source

def pcanIsFd (pf : PcanfdMsg) : Bool := pf.type = .canfdMsg

/-- What a call meets: the time at each pass of its loop, `O_NONBLOCK`, what the stack holds
    where `msg` lies, and whether the user's record can be written. -/
structure ReadCall where
  host : Nat → Host
  nonblock : Bool
  msg : TPCANRdMsg
  writable : Bool

/-- A call that copies does so from the address that `pcan_fd_to_msg` returns, which may be
    `NULL`. -/
inductive ReadResult where
  | returned (err : Int)
  | asleep
  | copied (source : Option TPCANRdMsg) (err : Int)
  | unfinished
deriving Repr, DecidableEq

/-- The loop, the next pass of which is number `i`. -/
def pcanIoctlReadLoop (call : ReadCall) : Nat → Nat → Pcandev P → Pcandev P × ReadResult
  | 0, _, dev => (dev, .unfinished)
  | passes + 1, i, dev =>
    match pcanfdRecvMsg (call.host i) dev call.nonblock with
    | (dev, _, none) => (dev, .asleep)
    | (dev, none, some err) => (dev, .returned err)
    | (dev, some msgfd, some err) =>
      if err ≠ 0 then (dev, .returned err)
      else if pcanIsFd msgfd.msg then pcanIoctlReadLoop call passes (i + 1) dev
      else
        (dev, .copied (pcanFdToMsg call.msg msgfd.msg) (if call.writable then 0 else -efault))

/-- There is one pass for each message of the queue, one for the notice that the first may
    add to it and one for the queue when it is empty. -/
def pcanIoctlRead (dev : Pcandev P) (call : ReadCall) : Pcandev P × ReadResult :=
  pcanIoctlReadLoop call (dev.readFifo.items.length + 2) 0 dev

end Source

section Statement

def Pcandev.readable (dev : Pcandev P) : Prop := dev.isPlugged = true ∧ dev.nOpenPaths ≠ 0

instance (dev : Pcandev P) : Decidable dev.readable := inferInstanceAs (Decidable (_ ∧ _))

/-- The channel when a message has been taken out. After an overrun this adds a notice. -/
def firstTaken (host : Host) (dev : Pcandev P) : Pcandev P :=
  pcanClearStatusBit host { dev with readFifo := dev.readFifo.dropOldest } canErrOverrun

def readQueue (host : Host) (dev : Pcandev P) : List PcanfdRxmsg :=
  match dev.readFifo.items with
  | [] => []
  | pf :: _ => pf :: (firstTaken host dev).readFifo.items

def shownTime (host : Host) (dev : Pcandev P) (pf : PcanfdRxmsg) : Timeval :=
  (pcanSyncTimestamps host dev pf).2.msg.timestamp

/-- The record is the message's, with nothing in it that was on the stack. -/
structure RecordOf (m : PcanfdMsg) (time : Timeval) (record : TPCANRdMsg) : Prop where
  id : record.msg.id = m.id
  msgtype : record.msg.msgtype =
    if m.type = .status then msgtypeStatus.setWidth 8 else m.flags.setWidth 8
  len : record.msg.len.toNat = if m.type = .status then 4 else m.dataLen.toNat
  inside : ∀ store ∈ legacyStores m, store.Inside 0 8
  data : ∀ j : Fin 8, j.val < record.msg.len.toNat → some (record.msg.data.get j) =
    if m.type = .status then some (if j.val = 3 then legacyStatus m.id else 0) else m.data[j.val]?
  dwTime : record.dwTime = BitVec.ofInt 32 (time.tvSec * 1000 + time.tvUsec.tdiv 1000)
  wUsec : record.wUsec = BitVec.ofInt 16 (time.tvUsec.tmod 1000)

def Handed (dev : Pcandev P) (host : Host) (call : ReadCall) (pf : PcanfdRxmsg)
    (result : ReadResult) : Prop :=
  ∃ record, result = .copied (some record) (if call.writable then 0 else -efault) ∧
    RecordOf pf.msg (shownTime host dev pf) record

/-- The results of the calls on a queue, when `left` is what they leave in it: each call
    skips the CAN FD frames and hands over the message behind them. -/
def ReadInOrder (dev : Pcandev P) (left : List PcanfdRxmsg) :
    List PcanfdRxmsg → List (ReadCall × ReadResult) → Prop
  | queue, [] => left = queue
  | queue, (call, result) :: later =>
    match queue.dropWhile (pcanIsFd ·.msg) with
    | [] => result = (if call.nonblock then .returned (-eagain) else .asleep) ∧
        ReadInOrder dev left [] later
    | pf :: rest =>
      Handed dev (call.host (queue.takeWhile (pcanIsFd ·.msg)).length) call pf result ∧
        ReadInOrder dev left rest later

/-- What the old interface has a record for. -/
def Convertible (m : PcanfdMsg) : Prop :=
  m.type = .status ∨ (m.type = .can20Msg ∧ m.dataLen.toNat ≤ 8)

instance (m : PcanfdMsg) : Decidable (Convertible m) := inferInstanceAs (Decidable (_ ∨ _))

def legacyReads (dev : Pcandev P) (calls : List ReadCall) : List (ReadCall × ReadResult) :=
  (StepSystem.transitions pcanIoctlRead dev calls).map fun t => (t.input, t.output)

def legacyLeft (dev : Pcandev P) (calls : List ReadCall) : List PcanfdRxmsg :=
  (StepSystem.run pcanIoctlRead dev calls).1.readFifo.items

def legacyMessages (queue : List PcanfdRxmsg) : List PcanfdRxmsg :=
  queue.filter (!pcanIsFd ·.msg)

end Statement

section Record

theorem pcanSyncTimestamps_dev (host : Host) (dev dev' : Pcandev P) (pf : PcanfdRxmsg) :
    (pcanSyncTimestamps host dev pf).2 = (pcanSyncTimestamps host dev' pf).2 := by
  unfold pcanSyncTimestamps
  simp only
  split
  · rfl
  · rfl
  · split
    · rfl
    · split <;> rfl

theorem timestamp_set (f : U32) :
    (f ||| (pcanfdTimestamp ||| pcanfdHwtimestamp)) &&& pcanfdTimestamp ≠ 0 ∧
      (f ||| (pcanfdTimestamp ||| pcanfdHwtimestamp)) &&& ~~~pcanfdHwtimestamp &&&
        pcanfdTimestamp ≠ 0 := by
  have nonzero : pcanfdTimestamp ≠ 0 := by decide
  have kept : ~~~pcanfdHwtimestamp &&& pcanfdTimestamp = pcanfdTimestamp := by decide
  have set : (f ||| (pcanfdTimestamp ||| pcanfdHwtimestamp)) &&& pcanfdTimestamp =
      pcanfdTimestamp := by
    rw [BitVec.or_comm pcanfdTimestamp, ← BitVec.or_assoc]
    exact Masks.or_and_self _ _
  constructor
  · rw [set]
    exact nonzero
  · rw [BitVec.and_assoc, kept, set]
    exact nonzero

theorem pcanSyncTimestamps_timed (host : Host) (dev : Pcandev P) (pf : PcanfdRxmsg) :
    (pcanSyncTimestamps host dev pf).2.msg.flags &&& pcanfdTimestamp ≠ 0 := by
  obtain ⟨set, cleared⟩ := timestamp_set pf.msg.flags
  unfold pcanSyncTimestamps
  simp only
  split
  · exact set
  · exact cleared
  · split
    · exact cleared
    · split
      · exact set
      · exact set

theorem low_flags {f g : U32} (same : f &&& ~~~driverFlags = g &&& ~~~driverFlags) :
    f.setWidth 8 = g.setWidth 8 := by
  have low : ∀ h : U32, h.setWidth 8 = (h &&& ~~~driverFlags).setWidth 8 := by
    intro h
    rw [BitVec.setWidth_and, show (~~~driverFlags).setWidth 8 = BitVec.allOnes 8 by decide,
      BitVec.and_allOnes]
  rw [low f, low g, same]

theorem timed_fields {pf : PcanfdMsg} (timed : pf.flags &&& pcanfdTimestamp ≠ 0)
    (msg : TPCANRdMsg) :
    msg.timed pf = ⟨msg.msg,
      BitVec.ofInt 32 (pf.timestamp.tvSec * 1000 + pf.timestamp.tvUsec.tdiv 1000),
      BitVec.ofInt 16 (pf.timestamp.tvUsec.tmod 1000)⟩ := by
  unfold TPCANRdMsg.timed
  rw [if_neg timed]

theorem status_data {pf : PcanfdMsg} (type : pf.type = .status) (before : Nat → U8) (j : Nat)
    (low : j < 4) :
    Store.run (legacyStores pf) before j = if j = 3 then legacyStatus pf.id else 0 := by
  unfold legacyStores
  rw [type]
  match j, low with
  | 0, _ => rfl
  | 1, _ => rfl
  | 2, _ => rfl
  | 3, _ => rfl

variable (host : Host) (dev : Pcandev P) (pf : PcanfdRxmsg) (stack : TPCANRdMsg)

theorem status_record (type : pf.msg.type = .status) :
    ∃ record, pcanFdToMsg stack (pcanSyncTimestamps host dev pf).2.msg = some record ∧
      RecordOf pf.msg (shownTime host dev pf) record := by
  have content := (pcanSyncTimestamps_spec host dev pf).2
  have sameType : (pcanSyncTimestamps host dev pf).2.msg.type = .status :=
    (congrArg FrameContent.type content).trans type
  have sameId : (pcanSyncTimestamps host dev pf).2.msg.id = pf.msg.id :=
    congrArg FrameContent.id content
  have timed := pcanSyncTimestamps_timed host dev pf
  refine ⟨_, by unfold pcanFdToMsg; rw [sameType], ?_⟩
  rw [timed_fields timed]
  constructor
  case id => exact sameId
  case msgtype => rw [if_pos type]; rfl
  case len => rw [if_pos type]; rfl
  case inside =>
    have other : pf.msg.type.isCan = false := by rw [type]; rfl
    exact (lengthSound_other other).legacy pf.msg rfl rfl
  case data =>
    intro j low
    rw [if_pos type, ← sameId, ← status_data sameType _ j low]
    exact congrArg some (Vector.getElem_ofFn j.isLt)
  case dwTime => rfl
  case wUsec => rfl

theorem can20_record (type : pf.msg.type = .can20Msg) (short : pf.msg.dataLen.toNat ≤ 8) :
    ∃ record, pcanFdToMsg stack (pcanSyncTimestamps host dev pf).2.msg = some record ∧
      RecordOf pf.msg (shownTime host dev pf) record := by
  have content := (pcanSyncTimestamps_spec host dev pf).2
  have sameType : (pcanSyncTimestamps host dev pf).2.msg.type = .can20Msg :=
    (congrArg FrameContent.type content).trans type
  have sameLen : (pcanSyncTimestamps host dev pf).2.msg.dataLen = pf.msg.dataLen :=
    congrArg FrameContent.dataLen content
  have sameData : (pcanSyncTimestamps host dev pf).2.msg.data = pf.msg.data :=
    congrArg FrameContent.data content
  have classic : pf.msg.type ≠ .status := by
    rw [type]
    decide
  have sound : LengthSound (pcanSyncTimestamps host dev pf).2.msg :=
    (lengthSound_can20 sameType).mpr (by rw [sameLen]; exact short)
  obtain ⟨record, converted, len, data⟩ := pcanFdToMsg_frame sound sameType stack
  refine ⟨record, converted, ?_⟩
  have filled := converted
  unfold pcanFdToMsg at filled
  rw [sameType] at filled
  simp only [timed_fields (pcanSyncTimestamps_timed host dev pf), Option.some.injEq] at filled
  constructor
  case id => rw [← filled]; exact congrArg FrameContent.id content
  case msgtype =>
    rw [if_neg classic, ← filled]
    exact low_flags (congrArg FrameContent.flags content)
  case len => rw [if_neg classic, len, sameLen]
  case inside => exact ((lengthSound_can20 type).mpr short).legacy pf.msg rfl rfl
  case data =>
    intro j low
    rw [len] at low
    rw [if_neg classic, data j, if_pos low, sameData]
  case dwTime => rw [← filled]; rfl
  case wUsec => rw [← filled]; rfl

theorem handed_iff (call : ReadCall) :
    Handed dev host call pf (.copied (pcanFdToMsg stack (pcanSyncTimestamps host dev pf).2.msg)
      (if call.writable then 0 else -efault)) ↔ Convertible pf.msg := by
  constructor
  · rintro ⟨record, copied, sound⟩
    have converted := (ReadResult.copied.inj copied).1
    have sameType : (pcanSyncTimestamps host dev pf).2.msg.type = pf.msg.type :=
      congrArg FrameContent.type (pcanSyncTimestamps_spec host dev pf).2
    unfold pcanFdToMsg at converted
    split at converted
    next type => exact .inl (sameType.symm.trans type)
    next type =>
      have classic := sameType.symm.trans type
      refine .inr ⟨classic, ?_⟩
      have store := sound.inside
      simp only [legacyStores, classic, List.mem_singleton, forall_eq, Store.Inside,
        List.length_map, List.length_range] at store
      omega
    next => cases converted
  · intro convertible
    have exists_record : ∃ record,
        pcanFdToMsg stack (pcanSyncTimestamps host dev pf).2.msg = some record ∧
          RecordOf pf.msg (shownTime host dev pf) record := by
      rcases convertible with status | ⟨classic, short⟩
      · exact status_record host dev pf stack status
      · exact can20_record host dev pf stack classic short
    obtain ⟨record, converted, sound⟩ := exists_record
    exact ⟨record, by rw [converted], sound⟩

end Record

section Loop

theorem readQueue_cleared {dev : Pcandev P} (clear : dev.overrun = false) (host : Host) :
    readQueue host dev = dev.readFifo.items := by
  have bit := (overrun_false_iff dev).mp clear
  unfold readQueue firstTaken pcanClearStatusBit
  split
  next none => rw [none]
  next pf rest items =>
    rw [if_pos bit, items]
    simp only [BoundedQueue.dropOldest_items, items, List.tail_cons]

theorem readQueue_length (host : Host) (dev : Pcandev P) :
    (readQueue host dev).length < dev.readFifo.items.length + 2 := by
  unfold readQueue
  split
  next => exact Nat.zero_lt_succ _
  next pf rest items =>
    obtain ⟨posted, _, _⟩ := @pcanClearStatusBit_overrun _ host
      { dev with readFifo := dev.readFifo.dropOldest } (room_left items)
    have bound : ∀ {q q' : List PcanfdRxmsg}, StatusPosted q q' → q'.length ≤ q.length + 1 := by
      intro q q' posted
      cases posted with
      | none => exact Nat.le_succ _
      | appended => simp
      | patched => simp
    have le := bound posted
    simp only [BoundedQueue.dropOldest_items, items, List.tail_cons] at le
    rw [items]
    exact Nat.succ_lt_succ (Nat.lt_succ_of_le le)

variable {dev : Pcandev P}

/-- A pass takes the first message; behind it the overrun is over. -/
theorem pcanfdRecvMsg_takes (ready : dev.readable) (host : Host) (nonblock : Bool)
    {pf : PcanfdRxmsg} {rest : List PcanfdRxmsg} (items : dev.readFifo.items = pf :: rest) :
    ∃ dev', pcanfdRecvMsg host dev nonblock =
        (dev', some (pcanSyncTimestamps host dev pf).2, some 0) ∧
      dev'.readable ∧ dev'.overrun = false ∧ readQueue host dev = pf :: dev'.readFifo.items := by
  obtain ⟨plugged, opened⟩ := ready
  obtain ⟨_, clear, channel⟩ := @pcanClearStatusBit_overrun _ host
    { dev with readFifo := dev.readFifo.dropOldest } (room_left items)
  have same := (pcanSyncTimestamps_spec host (firstTaken host dev) pf).1
  have first : dev.readFifo.oldest = some pf := by
    unfold BoundedQueue.oldest
    rw [items]
    rfl
  have there : ¬((!dev.isPlugged) = true ∨ dev.nOpenPaths = 0) := by
    rintro (gone | closed)
    · rw [plugged] at gone
      cases gone
    · exact opened closed
  refine ⟨(pcanSyncTimestamps host (firstTaken host dev) pf).1, ?_, ⟨?_, ?_⟩, ?_, ?_⟩
  · unfold pcanfdRecvMsg
    rw [if_neg there, first, pcanSyncTimestamps_dev host dev (firstTaken host dev) pf]
    rfl
  · exact same.plugged.trans (channel.plugged.trans plugged)
  · intro closed
    exact opened (channel.paths.symm.trans (same.paths.symm.trans closed))
  · exact same.overrun.trans clear
  · unfold readQueue
    rw [items, same.readFifo]

theorem pcanfdRecvMsg_empty (ready : dev.readable) (host : Host) (nonblock : Bool)
    (items : dev.readFifo.items = []) :
    pcanfdRecvMsg host dev nonblock = (dev, none, if nonblock then some (-eagain) else none) := by
  obtain ⟨plugged, opened⟩ := ready
  unfold pcanfdRecvMsg BoundedQueue.oldest
  rw [items, if_neg (by simp [plugged, opened])]
  rfl

/-- What a call does to a queue whose first message is taken at pass number `i`. -/
structure CallEffect (dev : Pcandev P) (call : ReadCall) (i : Nat) (queue : List PcanfdRxmsg)
    (done : Pcandev P × ReadResult) : Prop where
  ready : done.1.readable
  cleared : done.1.overrun = false ∨ done.1.readFifo.items = []
  left : done.1.readFifo.items = (queue.dropWhile (pcanIsFd ·.msg)).tail
  result : done.2 = match queue.dropWhile (pcanIsFd ·.msg) with
    | [] => if call.nonblock then .returned (-eagain) else .asleep
    | pf :: _ => .copied (pcanFdToMsg call.msg (pcanSyncTimestamps
        (call.host (i + (queue.takeWhile (pcanIsFd ·.msg)).length)) dev pf).2.msg)
        (if call.writable then 0 else -efault)

/-- Each pass takes a message, so that there are enough of them. -/
theorem pcanIoctlReadLoop_effect (call : ReadCall) (passes i : Nat) (ready : dev.readable)
    (enough : (readQueue (call.host i) dev).length < passes) :
    CallEffect dev call i (readQueue (call.host i) dev)
      (pcanIoctlReadLoop call passes i dev) := by
  induction passes generalizing i dev with
  | zero => exact absurd enough (Nat.not_lt_zero _)
  | succ passes ih =>
    rcases items : dev.readFifo.items with _ | ⟨pf, rest⟩
    · have none : readQueue (call.host i) dev = [] := by
        unfold readQueue
        rw [items]
      have empty := pcanfdRecvMsg_empty ready (call.host i) call.nonblock items
      unfold pcanIoctlReadLoop
      rw [empty, none]
      cases nonblock : call.nonblock with
      | false => exact ⟨ready, .inr items, items, by rw [nonblock]; rfl⟩
      | true => exact ⟨ready, .inr items, items, by rw [nonblock]; rfl⟩
    · obtain ⟨dev', taken, ready', clear, queue⟩ :=
        pcanfdRecvMsg_takes ready (call.host i) call.nonblock items
      have type : (pcanSyncTimestamps (call.host i) dev pf).2.msg.type = pf.msg.type :=
        congrArg FrameContent.type (pcanSyncTimestamps_spec (call.host i) dev pf).2
      have kind : pcanIsFd (pcanSyncTimestamps (call.host i) dev pf).2.msg = pcanIsFd pf.msg := by
        unfold pcanIsFd
        rw [type]
      unfold pcanIoctlReadLoop
      rw [taken, queue]
      simp only [kind, ne_eq, not_true_eq_false, if_false]
      cases fd : pcanIsFd pf.msg with
      | false =>
        simp only [Bool.false_eq_true, if_false]
        constructor
        case ready => exact ready'
        case cleared => exact .inl clear
        case left => simp [fd]
        case result => simp [fd]
      | true =>
        have behind := readQueue_cleared clear (call.host (i + 1))
        have fewer : (readQueue (call.host (i + 1)) dev').length < passes := by
          rw [queue, List.length_cons] at enough
          rw [behind]
          omega
        have effect := ih (i + 1) ready' fewer
        rw [behind] at effect
        simp only [if_true]
        constructor
        case ready => exact effect.ready
        case cleared => exact effect.cleared
        case left => simpa [fd] using effect.left
        case result =>
          rw [effect.result]
          simp only [List.dropWhile_cons, List.takeWhile_cons, fd, if_true, List.length_cons]
          split
          · rfl
          · rw [pcanSyncTimestamps_dev _ dev' dev,
              show i + 1 + (dev'.readFifo.items.takeWhile (pcanIsFd ·.msg)).length =
                i + ((dev'.readFifo.items.takeWhile (pcanIsFd ·.msg)).length + 1) by omega]

theorem pcanIoctlRead_effect (call : ReadCall) (ready : dev.readable) :
    CallEffect dev call 0 (readQueue (call.host 0) dev) (pcanIoctlRead dev call) :=
  pcanIoctlReadLoop_effect call _ 0 ready (readQueue_length _ dev)

end Loop

section Successive

theorem legacyMessages_next (queue : List PcanfdRxmsg) :
    legacyMessages queue = match queue.dropWhile (pcanIsFd ·.msg) with
      | [] => []
      | pf :: rest => pf :: legacyMessages rest := by
  induction queue with
  | nil => rfl
  | cons pf rest ih =>
    unfold legacyMessages at ih ⊢
    cases fd : pcanIsFd pf.msg with
    | false => simp [fd]
    | true =>
      simp only [List.filter_cons, List.dropWhile_cons, fd, Bool.not_true, Bool.false_eq_true,
        if_false, if_true]
      exact ih

variable {dev : Pcandev P}

theorem readInOrder_cons {call : ReadCall} {queue left : List PcanfdRxmsg}
    {done : Pcandev P × ReadResult} {later : List (ReadCall × ReadResult)} {start : Pcandev P}
    {n : Nat} (effect : CallEffect dev call 0 queue done)
    (rest : ReadInOrder start left done.1.readFifo.items later ↔
      ∀ m ∈ (legacyMessages done.1.readFifo.items).take n, Convertible m.msg) :
    ReadInOrder start left queue ((call, done.2) :: later) ↔
      ∀ m ∈ (legacyMessages queue).take (n + 1), Convertible m.msg := by
  have result := effect.result
  have remains := effect.left
  rw [legacyMessages_next queue]
  unfold ReadInOrder
  generalize queue.dropWhile (pcanIsFd ·.msg) = behind at result remains
  cases behind with
  | nil =>
    have empty : done.1.readFifo.items = [] := remains
    rw [empty] at rest
    simp only [legacyMessages, List.filter_nil, List.take_nil, List.not_mem_nil, false_imp_iff,
      implies_true, iff_true] at rest ⊢
    exact ⟨result, rest⟩
  | cons pf others =>
    have items : done.1.readFifo.items = others := remains
    rw [items] at rest
    simp only [List.take_succ_cons, List.forall_mem_cons, rest, Nat.zero_add] at result ⊢
    rw [result, pcanSyncTimestamps_dev _ dev start, handed_iff]

theorem later_reads_iff (start : Pcandev P) (calls : List ReadCall) (ready : dev.readable)
    (cleared : dev.overrun = false ∨ dev.readFifo.items = []) :
    ReadInOrder start (legacyLeft dev calls) dev.readFifo.items (legacyReads dev calls) ↔
      ∀ m ∈ (legacyMessages dev.readFifo.items).take calls.length, Convertible m.msg := by
  induction calls generalizing dev with
  | nil => simp [ReadInOrder, legacyReads, legacyLeft, StepSystem.transitions, StepSystem.run]
  | cons call calls ih =>
    have effect := pcanIoctlRead_effect call ready
    have same : readQueue (call.host 0) dev = dev.readFifo.items := by
      rcases cleared with clear | empty
      · exact readQueue_cleared clear _
      · unfold readQueue
        rw [empty]
    rw [same] at effect
    exact readInOrder_cons effect (ih effect.ready effect.cleared)

theorem StatusPosted.cons {q q' : List PcanfdRxmsg} (posted : StatusPosted q q')
    (pf : PcanfdRxmsg) : StatusPosted (pf :: q) (pf :: q') := by
  cases posted with
  | none => exact .none _
  | appended _ m status => exact .appended (pf :: q) m status
  | patched older old new same => exact .patched (pf :: older) old new same

theorem take_status {m : PcanfdRxmsg} (status : m.msg.type = .status) (q : List PcanfdRxmsg)
    (n : Nat) :
    (∀ pf ∈ (legacyMessages (q ++ [m])).take n, Convertible pf.msg) ↔
      ∀ pf ∈ (legacyMessages q).take n, Convertible pf.msg := by
  have other : pcanIsFd m.msg = false := by
    unfold pcanIsFd
    rw [status]
    rfl
  have last : legacyMessages (q ++ [m]) = legacyMessages q ++ [m] := by
    simp [legacyMessages, List.filter_append, other]
  rw [last, List.take_append]
  constructor
  · intro all pf member
    exact all pf (List.mem_append_left _ member)
  · intro all pf member
    rcases List.mem_append.mp member with before | added
    · exact all pf before
    · exact .inl (List.mem_singleton.mp (List.mem_of_mem_take added) ▸ status)

theorem StatusPosted.convertible {q q' : List PcanfdRxmsg} (posted : StatusPosted q q') (n : Nat) :
    (∀ pf ∈ (legacyMessages q').take n, Convertible pf.msg) ↔
      ∀ pf ∈ (legacyMessages q).take n, Convertible pf.msg := by
  cases posted with
  | none => exact Iff.rfl
  | appended _ m status => exact take_status status q n
  | patched older old new same => rw [take_status same.1, take_status same.2.1]

theorem readQueue_posted (host : Host) (dev : Pcandev P) :
    StatusPosted dev.readFifo.items (readQueue host dev) := by
  unfold readQueue
  split
  next none => exact none ▸ .none _
  next pf rest items =>
    obtain ⟨posted, _, _⟩ := @pcanClearStatusBit_overrun _ host
      { dev with readFifo := dev.readFifo.dropOldest } (room_left items)
    simp only [BoundedQueue.dropOldest_items, items, List.tail_cons] at posted
    rw [items]
    exact posted.cons pf

/-- Successive read commands hand over the messages of the queue one by one, without the
    CAN FD frames, exactly if those they come to are STATUS or frames of at most eight
    bytes. -/
theorem legacy_reads_iff (ready : dev.readable) (call : ReadCall) (calls : List ReadCall) :
    ReadInOrder dev (legacyLeft dev (call :: calls)) (readQueue (call.host 0) dev)
        (legacyReads dev (call :: calls)) ↔
      ∀ m ∈ (legacyMessages dev.readFifo.items).take (calls.length + 1), Convertible m.msg := by
  have effect := pcanIoctlRead_effect call ready
  rw [← (readQueue_posted (call.host 0) dev).convertible]
  exact readInOrder_cons effect (later_reads_iff dev calls effect.ready effect.cleared)

end Successive

section Samples

def sampleRead : ReadCall :=
  ⟨fun _ => sampleHost, true, ⟨⟨0, 0, 0, Vector.replicate 8 0⟩, 0, 0⟩, true⟩

/-- A channel whose application wants error messages too, after messages of these types. -/
def receivedTypes (types : List MsgType) : Pcandev Unit :=
  types.foldl (fun dev type =>
    (pcanChardevRx sampleHost dev
      { PcanfdRxmsg.zero with msg := { PcanfdMsg.zero with type := type, id := 1 } }).1)
    { openedChannel () 4 4 0 with
      allowedMsgs := pcanfdAllowedMsgCan ||| pcanfdAllowedMsgStatus ||| pcanfdAllowedMsgError }

theorem legacy_reads_two :
    let dev := receivedTypes [.canfdMsg, .can20Msg, .status]
    dev.readable ∧
      ReadInOrder dev (legacyLeft dev [sampleRead, sampleRead]) (readQueue sampleHost dev)
        (legacyReads dev [sampleRead, sampleRead]) := by
  have ready : (receivedTypes [.canfdMsg, .can20Msg, .status]).readable := by decide +kernel
  exact ⟨ready, (legacy_reads_iff ready sampleRead [sampleRead]).mpr (by decide +kernel)⟩

/-- An error message has no record: the call copies from nowhere. -/
theorem error_message_without_record :
    let dev := receivedTypes [.errorMsg]
    (pcanIoctlRead dev sampleRead).2 = .copied none 0 ∧
      ¬ReadInOrder dev (legacyLeft dev [sampleRead]) (readQueue sampleHost dev)
        (legacyReads dev [sampleRead]) := by
  intro dev
  have ready : dev.readable := by decide +kernel
  have clear : dev.overrun = false := by decide +kernel
  refine ⟨by decide +kernel, ?_⟩
  rw [readQueue_cleared clear, later_reads_iff dev [sampleRead] ready (.inl clear)]
  decide +kernel

end Samples

end PcanDriver

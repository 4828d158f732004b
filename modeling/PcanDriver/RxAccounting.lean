import PcanDriver.Lib.LossyQueue
import PcanDriver.Lib.StepSystem
import PcanDriver.RxEffects

/-!
Accounting for received frames over any order of posts, reads and resets on an
opened channel. The overrun bit is set only together with a full queue and every
read clears it, so it can never outlive the elements that would be read.
-/
namespace PcanDriver
open StepSystem LossyQueue
variable {P : Type}

inductive ChannelCall (P : Type) where
  | chardevRx (host : Host) (rx : PcanfdRxmsg)
  | recvMsg (host : Host) (nonblock : Bool)
  | devReset (released : Pcandev P)
  | busLoadTimer (host : Host)
  | other (changed : Pcandev P)

inductive ChannelEvent where
  | posted (result : Int)
  | received (pf : Option PcanfdRxmsg) (err : Option Int)
  | done

/-- Decoders, ioctls and the interface's callbacks change anything else of the
    channel; the overrun bit they may clear, but not set. -/
def Pcandev.withOthers (dev changed : Pcandev P) : Pcandev P :=
  { changed with
    readFifo := dev.readFifo
    nOpenPaths := dev.nOpenPaths
    wCANStatus := changed.wCANStatus &&& (dev.wCANStatus ||| ~~~canErrOverrun) }

def channelStep (dev : Pcandev P) : ChannelCall P → Pcandev P × ChannelEvent
  | .chardevRx host rx =>
    ((pcanChardevRx host dev rx).1, .posted (pcanChardevRx host dev rx).2.2)
  | .recvMsg host nonblock =>
    ((pcanfdRecvMsg host dev nonblock).1, .received (pcanfdRecvMsg host dev nonblock).2.1
      (pcanfdRecvMsg host dev nonblock).2.2)
  | .devReset released => ((pcanfdDevReset (·.withOthers released) dev).1, .done)
  | .busLoadTimer host => (pcanPushBusLoadInd host dev, .done)
  | .other changed => (dev.withOthers changed, .done)

abbrev ChannelTransition (P : Type) := Transition (Pcandev P) (ChannelCall P) ChannelEvent

def frames (items : List PcanfdRxmsg) : List FrameContent :=
  (items.filter (·.msg.type.isCan)).map (·.content)

/-- What a post means for the frames: a result of 1 accepts one, a put that fails
    on the full queue costs the newest element. -/
def postEvent (dev : Pcandev P) (rx : PcanfdRxmsg) (result : Int) : Event FrameContent :=
  if result = 1 then if rx.msg.type.isCan then .accept rx.content else .idle
  else if result = -enospc ∧ dev.overrun = false then
    match dev.readFifo.newest with
    | some old => if old.msg.type.isCan then .lose old.content else .idle
    | none => .idle
  else .idle

def frameEvent (t : ChannelTransition P) : Event FrameContent :=
  match t.input, t.output with
  | .chardevRx _ rx, .posted result => postEvent t.before rx result
  | .recvMsg _ _, .received (some pf) _ =>
    if pf.msg.type.isCan then .deliver pf.content else .idle
  | .devReset _, _ => .flush (frames t.before.readFifo.items)
  | _, _ => .idle

/-- One STATUS may have been added or brought up to date. -/
inductive StatusPosted : List PcanfdRxmsg → List PcanfdRxmsg → Prop
  | none (q : List PcanfdRxmsg) : StatusPosted q q
  | appended (q : List PcanfdRxmsg) (m : PcanfdRxmsg) (status : m.msg.type = .status) :
      StatusPosted q (q ++ [m])
  | patched (older : List PcanfdRxmsg) (old new : PcanfdRxmsg) (same : SameStatus old new) :
      StatusPosted (older ++ [old]) (older ++ [new])

inductive QueueChange (t : ChannelTransition P) : Prop
  | unchanged (same : t.after.readFifo.items = t.before.readFifo.items)
  | posted (host : Host) (rx rx' : PcanfdRxmsg) (call : t.input = .chardevRx host rx)
      (result : t.output = .posted 1)
      (items' : t.after.readFifo.items = t.before.readFifo.items ++ [rx'])
      (content : rx.msg.type.isCan = true → rx'.content = rx.content)
  | patched (host : Host) (rx new old : PcanfdRxmsg) (older : List PcanfdRxmsg)
      (call : t.input = .chardevRx host rx)
      (items : t.before.readFifo.items = older ++ [old]) (same : SameStatus old new)
      (items' : t.after.readFifo.items = older ++ [new])
  | overflowed (host : Host) (rx notice : PcanfdRxmsg) (call : t.input = .chardevRx host rx)
      (result : t.output = .posted (-enospc)) (clear : t.before.overrun = false)
      (full : t.before.readFifo.items.length = t.before.readFifo.capacity)
      (items' : t.after.readFifo.items = t.before.readFifo.items.dropLast ++ [notice])
      (status : notice.msg.type = .status ∧ notice.msg.id = PcanfdStatus.rxOverflow.code)
  | read (pf shown : PcanfdRxmsg) (rest : List PcanfdRxmsg)
      (result : t.output = .received (some shown) (some 0))
      (items : t.before.readFifo.items = pf :: rest) (content : shown.content = pf.content)
      (posted : StatusPosted rest t.after.readFifo.items)
  | reset (released : Pcandev P) (call : t.input = .devReset released)
      (items' : t.after.readFifo.items = [])
  | timer (host : Host) (notice : PcanfdRxmsg) (call : t.input = .busLoadTimer host)
      (items' : t.after.readFifo.items = t.before.readFifo.items ++ [notice])
      (status : notice.msg.type = .status)

structure ChannelInv (dev : Pcandev P) : Prop where
  opened : 0 < dev.nOpenPaths
  several : 2 ≤ dev.readFifo.capacity
  blocked : dev.overrun = true → dev.readFifo.items.length = dev.readFifo.capacity

theorem frames_append (xs ys : List PcanfdRxmsg) : frames (xs ++ ys) = frames xs ++ frames ys := by
  simp [frames]

theorem frames_single (m : PcanfdRxmsg) :
    frames [m] = if m.msg.type.isCan then [m.content] else [] := by
  cases can : m.msg.type.isCan <;> simp [frames, can]

theorem frames_status {m : PcanfdRxmsg} (status : m.msg.type = .status) : frames [m] = [] := by
  rw [frames_single, status]
  rfl

theorem StatusPosted.frames {q q' : List PcanfdRxmsg} (posted : StatusPosted q q') :
    frames q' = frames q := by
  cases posted with
  | none => rfl
  | appended _ m status => rw [frames_append, frames_status status, List.append_nil]
  | patched older old new same =>
    rw [frames_append, frames_append, frames_status same.1, frames_status same.2.1]

theorem withOthers_overrun {dev changed : Pcandev P} (blocked : (dev.withOthers changed).overrun = true) :
    dev.overrun = true := by
  rw [overrun_iff] at blocked ⊢
  intro clear
  apply blocked
  show changed.wCANStatus &&& (dev.wCANStatus ||| ~~~canErrOverrun) &&& canErrOverrun = 0
  rw [BitVec.and_assoc, BitVec.and_or_distrib_right, clear]
  simp

theorem pcanSyncTimestamps_spec (host : Host) (dev : Pcandev P) (pf : PcanfdRxmsg) :
    SameQueueing dev (pcanSyncTimestamps host dev pf).1 ∧
      (pcanSyncTimestamps host dev pf).2.content = pf.content := by
  have set_bits : (pcanfdTimestamp ||| pcanfdHwtimestamp) &&& ~~~driverFlags = 0 := by decide
  have clear_bit : pcanfdHwtimestamp &&& ~~~driverFlags = 0 := by decide
  have stamped : ∀ f, f = pf.msg.flags ||| (pcanfdTimestamp ||| pcanfdHwtimestamp) ∨
      f = (pf.msg.flags ||| (pcanfdTimestamp ||| pcanfdHwtimestamp)) &&& ~~~pcanfdHwtimestamp →
      f &&& ~~~driverFlags = pf.msg.flags &&& ~~~driverFlags := by
    rintro f (rfl | rfl)
    · exact Masks.or_and_of_disjoint _ set_bits
    · rw [Masks.andNot_and_of_disjoint _ clear_bit, Masks.or_and_of_disjoint _ set_bits]
  unfold pcanSyncTimestamps PcanfdRxmsg.content
  simp only
  split
  · exact ⟨.refl dev, by simp [stamped]⟩
  · exact ⟨.refl dev, by simp [stamped]⟩
  · split
    · exact ⟨⟨rfl, rfl, rfl, rfl, rfl⟩, by simp [stamped]⟩
    · split <;> exact ⟨⟨rfl, rfl, rfl, rfl, rfl⟩, by simp [stamped]⟩

theorem pcanClearStatusBit_overrun (host : Host) {dev : Pcandev P}
    (room : dev.readFifo.items.length < dev.readFifo.capacity) :
    let dev' := pcanClearStatusBit host dev canErrOverrun
    StatusPosted dev.readFifo.items dev'.readFifo.items ∧ dev'.overrun = false ∧
      SameChannel dev dev' := by
  unfold pcanClearStatusBit
  split
  · rename_i clear
    exact ⟨.none _, (overrun_false_iff dev).mpr clear, rfl, rfl, rfl, rfl⟩
  · have clear : (clearBits dev canErrOverrun).overrun = false := by
      rw [overrun_false_iff]
      exact Masks.andNot_and_self _ _
    obtain ⟨effect, channel⟩ := @pcanChardevRx_effect _ host (clearBits dev canErrOverrun)
      (busStateNotice dev) (Nat.lt_of_le_of_lt (Nat.zero_le _) room)
    refine ⟨?_, ?_, channel.capacity, channel.paths, channel.plugged, channel.busState⟩
    · cases effect with
      | ignored same => exact same ▸ .none _
      | patched older old items status items' =>
        simp only [clearBits] at items
        rw [items, items']
        exact .patched older old _ status
      | queued items' _ type => exact items' ▸ .appended _ _ type
      | overflowed full => exact absurd full (Nat.ne_of_lt room)
    · cases effect with
      | ignored _ bit => exact bit.trans clear
      | patched _ _ _ _ _ bit => exact bit.trans clear
      | queued _ bit => exact bit
      | overflowed full => exact absurd full (Nat.ne_of_lt room)

section Post
variable {dev dev' : Pcandev P} {rx rx' : PcanfdRxmsg} {result : Int}

theorem RxEffect.inv (effect : RxEffect dev dev' rx rx' result) (channel : SameChannel dev dev')
    (inv : ChannelInv dev) : ChannelInv dev' where
  opened := channel.paths ▸ inv.opened
  several := channel.capacity ▸ inv.several
  blocked := by
    intro blocked
    rw [channel.capacity]
    cases effect with
    | ignored same bit =>
      rw [same]
      exact inv.blocked (bit ▸ blocked)
    | patched older old items _ items' bit =>
      have full := inv.blocked (bit ▸ blocked)
      rw [items, List.length_append] at full
      rw [items', List.length_append]
      exact full
    | queued _ bit => rw [bit] at blocked; cases blocked
    | overflowed full _ _ items' =>
      have several := inv.several
      rw [items', List.length_append, List.length_dropLast, List.length_singleton]
      omega

theorem RxEffect.frames_step (effect : RxEffect dev dev' rx rx' result)
    (positive : 0 < dev.readFifo.capacity) :
    LossyQueue.Step (frames dev.readFifo.items) (postEvent dev rx result)
      (frames dev'.readFifo.items) := by
  have nospace : ¬ (-enospc : Int) = 1 := by decide
  cases effect with
  | ignored same _ refused =>
    have quiet : postEvent dev rx result = .idle := by
      rcases refused with zero | ⟨full, blocked⟩
      · rw [zero]
        rfl
      · simp [postEvent, full, blocked, nospace]
    rw [quiet, same]
    exact .idle _
  | patched older old items status items' _ refused =>
    have quiet : postEvent dev rx result = .idle := by
      rw [refused]
      rfl
    rw [quiet, items, items', (StatusPosted.patched older old rx' status).frames]
    exact .idle _
  | queued items' _ type content accepted =>
    rw [items', frames_append, frames_single, type]
    cases can : rx.msg.type.isCan with
    | true => simpa [postEvent, accepted, can, content can] using Step.accept _ rx.content
    | false => simpa [postEvent, accepted, can] using Step.idle _
  | overflowed full clear _ items' notice refused =>
    have filled : dev.readFifo.items ≠ [] := by
      intro nil
      rw [nil, List.length_nil] at full
      omega
    obtain ⟨older, old, items⟩ : ∃ older old, dev.readFifo.items = older ++ [old] :=
      ⟨_, _, (List.dropLast_append_getLast filled).symm⟩
    have newest : dev.readFifo.newest = some old := by simp [BoundedQueue.newest, items]
    rw [items', items, List.dropLast_concat, frames_append, frames_append, frames_status notice.1,
      frames_single, List.append_nil]
    cases can : old.msg.type.isCan with
    | true =>
      simpa [postEvent, refused, nospace, clear, newest, can] using Step.lose _ old.content
    | false => simpa [postEvent, refused, nospace, clear, newest, can] using Step.idle _

end Post

section Steps
theorem room_left {dev : Pcandev P} {pf : PcanfdRxmsg} {rest : List PcanfdRxmsg}
    (items : dev.readFifo.items = pf :: rest) :
    dev.readFifo.dropOldest.items.length < dev.readFifo.dropOldest.capacity := by
  have fits := dev.readFifo.fits
  rw [items] at fits
  simp only [BoundedQueue.dropOldest_items, BoundedQueue.dropOldest_capacity, items, List.tail_cons]
  exact fits

variable {dev : Pcandev P}

/-- A read takes the oldest element; the notice that the overrun is over goes into
    the slot it leaves. -/
theorem pcanfdRecvMsg_effect (inv : ChannelInv dev) (host : Host) (nonblock : Bool) :
    let done := pcanfdRecvMsg host dev nonblock
    ChannelInv done.1 ∧ ((done.1 = dev ∧ done.2.1 = none) ∨
      ∃ pf shown rest, dev.readFifo.items = pf :: rest ∧ done.2 = (some shown, some 0) ∧
        shown.content = pf.content ∧ StatusPosted rest done.1.readFifo.items) := by
  unfold pcanfdRecvMsg
  split
  · exact ⟨inv, .inl ⟨rfl, rfl⟩⟩
  · split
    · rename_i pf oldest
      obtain ⟨rest, items⟩ : ∃ rest, dev.readFifo.items = pf :: rest :=
        List.head?_eq_some_iff.mp oldest
      obtain ⟨posted, clear, channel⟩ := @pcanClearStatusBit_overrun _ host
        { dev with readFifo := dev.readFifo.dropOldest } (room_left items)
      obtain ⟨same, content⟩ := pcanSyncTimestamps_spec host
        (pcanClearStatusBit host { dev with readFifo := dev.readFifo.dropOldest } canErrOverrun) pf
      refine ⟨⟨?_, ?_, ?_⟩, .inr ⟨pf, _, rest, items, rfl, content, ?_⟩⟩
      · rw [same.paths, channel.paths]
        exact inv.opened
      · rw [same.readFifo, channel.capacity]
        exact inv.several
      · intro blocked
        rw [same.overrun, clear] at blocked
        cases blocked
      · rw [same.readFifo]
        simpa only [BoundedQueue.dropOldest_items, items, List.tail_cons] using posted
    · exact ⟨inv, .inl ⟨rfl, rfl⟩⟩

theorem pcanfdDevReset_effect (inv : ChannelInv dev) (released : Pcandev P) :
    let dev' := (pcanfdDevReset (·.withOthers released) dev).1
    ChannelInv dev' ∧ dev'.readFifo.items = [] := by
  have opened : (pcanSetTxEngine dev .closed).nOpenPaths ≠ 0 := by
    have := inv.opened
    simp only [pcanSetTxEngine]
    omega
  simp only [pcanfdDevReset, opened, ne_eq, not_false_eq_true, if_true]
  obtain ⟨fifo, paths, -, -⟩ := pcanSetBusState_frame
    { (pcanSetTxEngine dev .closed).withOthers released with
      flags := ((pcanSetTxEngine dev .closed).withOthers released).flags &&& ~~~pcanDevOpened }
    .unknown
  refine ⟨⟨?_, ?_, ?_⟩, rfl⟩
  · rw [paths]
    exact inv.opened
  · rw [BoundedQueue.clear_capacity, fifo]
    exact inv.several
  · intro blocked
    rw [overrun_iff] at blocked
    exact absurd (Masks.andNot_or_and_left _ _ _) blocked

/-- The timer only adds a STATUS, and only to a queue that has room. -/
theorem pcanPushBusLoadInd_effect (inv : ChannelInv dev) (host : Host) :
    ChannelInv (pcanPushBusLoadInd host dev) ∧
      ((pcanPushBusLoadInd host dev).readFifo.items = dev.readFifo.items ∨
        ∃ notice, notice.msg.type = .status ∧
          (pcanPushBusLoadInd host dev).readFifo.items = dev.readFifo.items ++ [notice]) := by
  unfold pcanPushBusLoadInd
  simp only
  split
  · exact ⟨inv, .inl rfl⟩
  · split
    · exact ⟨inv, .inl rfl⟩
    · by_cases room : dev.readFifo.items.length < dev.readFifo.capacity
      · obtain ⟨items', capacity, -⟩ :=
          fifoPut_room (busLoadNotice host dev (averageBusLoad dev)) room
        refine ⟨⟨inv.opened, ?_, ?_⟩, .inr ⟨_, ?_, items'⟩⟩
        · exact capacity ▸ inv.several
        · intro blocked
          exact absurd (inv.blocked blocked) (Nat.ne_of_lt room)
        · rfl
      · have full : dev.readFifo.items.length = dev.readFifo.capacity := by
          have := dev.readFifo.fits
          omega
        simp only [fifoPut_full _ full, true_or, and_true]
        exact ⟨inv.opened, inv.several, inv.blocked⟩

theorem withOthers_inv (inv : ChannelInv dev) (changed : Pcandev P) :
    ChannelInv (dev.withOthers changed) :=
  ⟨inv.opened, inv.several, fun blocked => inv.blocked (withOthers_overrun blocked)⟩

theorem channelStep_change (inv : ChannelInv dev) (call : ChannelCall P) :
    let t : ChannelTransition P := ⟨dev, call, (channelStep dev call).2, (channelStep dev call).1⟩
    ChannelInv t.after ∧ QueueChange t ∧
      LossyQueue.Step (frames dev.readFifo.items) (frameEvent t)
        (frames t.after.readFifo.items) := by
  cases call with
  | chardevRx host rx =>
    have positive : 0 < dev.readFifo.capacity := Nat.lt_of_lt_of_le (by decide) inv.several
    obtain ⟨effect, channel⟩ := pcanChardevRx_effect host rx positive
    refine ⟨effect.inv channel inv, ?_, effect.frames_step positive⟩
    cases effect with
    | ignored same => exact .unchanged (congrArg _ same)
    | patched older old items status items' =>
      exact .patched host rx _ old older rfl items status items'
    | queued items' _ _ content accepted =>
      exact .posted host rx _ rfl (congrArg _ accepted) items' content
    | overflowed full clear _ items' notice refused =>
      exact .overflowed host rx _ rfl (congrArg _ refused) clear full items' notice
  | recvMsg host nonblock =>
    obtain ⟨inv', effect⟩ := pcanfdRecvMsg_effect inv host nonblock
    refine ⟨inv', ?_⟩
    rcases effect with ⟨same, nothing⟩ | ⟨pf, shown, rest, items, result, content, posted⟩
    · refine ⟨.unchanged (by simp only [channelStep, same]), ?_⟩
      simp only [channelStep, frameEvent, nothing, same]
      exact .idle _
    · refine ⟨.read pf shown rest (by simp only [channelStep, result]) items content posted, ?_⟩
      have type : shown.msg.type = pf.msg.type := congrArg FrameContent.type content
      simp only [channelStep, frameEvent, result, items]
      rw [posted.frames, ← List.singleton_append, frames_append, frames_single, type, content]
      cases pf.msg.type.isCan with
      | true => exact .deliver _ _
      | false => exact .idle _
  | devReset released =>
    obtain ⟨inv', empty⟩ := pcanfdDevReset_effect inv released
    refine ⟨inv', .reset released rfl empty, ?_⟩
    simp only [channelStep, frameEvent, empty]
    exact .flush _
  | busLoadTimer host =>
    obtain ⟨inv', effect⟩ := pcanPushBusLoadInd_effect inv host
    refine ⟨inv', ?_⟩
    rcases effect with same | ⟨notice, status, items'⟩
    · refine ⟨.unchanged same, ?_⟩
      simp only [channelStep, frameEvent, same]
      exact .idle _
    · refine ⟨.timer host notice rfl items' status, ?_⟩
      simp only [channelStep, frameEvent, items', frames_append, frames_status status,
        List.append_nil]
      exact .idle _
  | other changed =>
    exact ⟨withOthers_inv inv changed, .unchanged rfl, .idle _⟩

end Steps

theorem transitions_chain {dev : Pcandev P} (inv : ChannelInv dev) (calls : List (ChannelCall P)) :
    Chain (frames dev.readFifo.items) ((transitions channelStep dev calls).map frameEvent)
      (frames (run channelStep dev calls).1.readFifo.items) := by
  induction calls generalizing dev with
  | nil => exact .nil _
  | cons call rest ih =>
    obtain ⟨inv', -, step⟩ := channelStep_change inv call
    exact .cons step (ih inv')

/-- On a freshly opened channel: every step changes the queue in one of the listed
    ways, every accepted frame has exactly one fate, delivery keeps the order, and
    an overrun always leaves something to read. -/
theorem received_frames_accounted {dev : Pcandev P} (opened : 0 < dev.nOpenPaths)
    (several : 2 ≤ dev.readFifo.capacity) (fresh : dev.readFifo.items = [])
    (clear : dev.overrun = false) (calls : List (ChannelCall P)) :
    let ts := transitions channelStep dev calls
    let events := ts.map frameEvent
    let finish := (run channelStep dev calls).1
    (∀ t ∈ ts, QueueChange t) ∧
      (∃ fates, Account [] events (frames finish.readFifo.items) fates) ∧
      (delivered events).Sublist (accepted events) ∧
      ∀ s ∈ states channelStep dev calls, s.overrun = true → s.readFifo.items ≠ [] := by
  intro ts events finish
  have inv : ChannelInv dev :=
    ⟨opened, several, fun blocked => by rw [clear] at blocked; cases blocked⟩
  have keep : ∀ (s : Pcandev P) (c : ChannelCall P), ChannelInv s → True →
      ChannelInv (channelStep s c).1 := fun s c h _ => (channelStep_change h c).1
  have always := admitted_true channelStep dev calls
  have chain := transitions_chain inv calls
  rw [fresh] at chain
  obtain ⟨fates, account⟩ := chain_account chain
  refine ⟨?_, ⟨fates, account⟩, delivered_sublist account, ?_⟩
  · exact transitions_invariant keep (fun s c h _ => (channelStep_change h c).2.1) inv always
  · intro s mem blocked nil
    have reached := states_invariant keep inv always s mem
    have full := reached.blocked blocked
    have several' := reached.several
    rw [nil, List.length_nil] at full
    omega

/-- Three frames for two slots: the second is overwritten, the first delivered. -/
theorem received_frames_two_slots :
    let frame : U32 → PcanfdRxmsg := fun id =>
      { PcanfdRxmsg.zero with msg := { PcanfdMsg.zero with type := .can20Msg, id := id } }
    let dev : Pcandev Unit := openedChannel () 2 2 0
    let host : Host := ⟨⟨1, 0⟩, ⟨0, 0⟩⟩
    let calls : List (ChannelCall Unit) := [.chardevRx host (frame 1), .chardevRx host (frame 2),
      .chardevRx host (frame 3), .chardevRx host (frame 4), .recvMsg host true]
    let events := (transitions channelStep dev calls).map frameEvent
    (delivered events).Sublist (accepted events) ∧
      events = [.accept (frame 1).content, .accept (frame 2).content, .lose (frame 2).content,
        .idle, .deliver (frame 1).content] := by
  intro frame dev host calls events
  exact ⟨(@received_frames_accounted _ dev (by decide) (by decide) rfl (by decide) calls).2.2.1,
    by decide +kernel⟩

end PcanDriver

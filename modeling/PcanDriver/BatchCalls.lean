import PcanDriver.LegacyRead
import PcanDriver.ListIoctl
import PcanDriver.TxEngine

/-!
Many messages with one call: `pcanfd_ioctl_send_msgs` and `pcanfd_ioctl_recv_msgs` of
`pcanfd_core.c`. Between two passes of a call interrupts work on the channel, and while it
sleeps, with the mutex released, so do other tasks.
-/
namespace PcanDriver
variable {P : Type}

section Source

def erestartsys : Int := 512
def eintr : Int := 4
def oNonblock : U32 := 0x800

/-- Messages have come at the end of a queue, or the newest one is brought up to date. -/
inductive QueueGrows {A : Type} (q : List A) : List A → Prop
  | same : QueueGrows q q
  | appended {q' : List A} (grown : QueueGrows q q') (m : A) : QueueGrows q (q' ++ [m])
  | updated {older : List A} {old : A} (grown : QueueGrows q (older ++ [old])) (new : A) :
      QueueGrows q (older ++ [new])

/-- Interrupts put received messages in the queue and take none out. -/
structure Interrupts (P : Type) where
  run : Pcandev P → Pcandev P
  grows : ∀ dev, QueueGrows dev.readFifo.items (run dev).readFifo.items

/-- What a pass meets: the time, what the stack holds where a notice will lie, the
    interrupts since the pass before and `pcan_task_can_wait`. -/
structure Around (P : Type) where
  host : Host
  stack : PcanfdRxmsg
  interrupts : Interrupts P
  canWait : Bool

/-- A sleep: what other tasks do meanwhile and the answer of the wait. -/
structure Sleep (P : Type) where
  others : Pcandev P → Pcandev P
  woken : Int

abbrev Section (P : Type) := Pcandev P × Pcandev P

def sendFailed (host : Host) (stack : PcanfdRxmsg) (dev : Pcandev P) (err : Int) :
    Pcandev P × Int :=
  if err = -erestartsys then (dev, -eintr)
  else if err = -eagain ∧ dev.wCANStatus &&& canErrXmtfull = 0 then
    let handled := pcanHandleErrorInternal dev stack .txOverflow
    ((pcanChardevRx host handled.1 handled.2).1, err)
  else (dev, err)

/-- The loop of `pcanfd_send_msg` up to the start of the engine in front of the wait. -/
def sendPass (host : Host) (stack : PcanfdRxmsg) (dev : Pcandev P) (ptx : PcanfdTxmsg)
    (nonblock : Bool) : Pcandev P × PcanfdTxmsg × SendResult :=
  let refuse := fun (ptx : PcanfdTxmsg) (err : Int) =>
    let failed := sendFailed host stack dev err
    (failed.1, ptx, SendResult.refused failed.2)
  if !dev.isPlugged ∨ dev.nOpenPaths = 0 then refuse ptx (-enodev)
  else if dev.busState = .errorBusoff then refuse ptx (-enetdown)
  else
    let ptx := { ptx with tv := host.now }
    let stored := fifoPut dev.writeFifo ptx
    if 0 ≤ stored.2 then
      (pcanClearStatusBit host { dev with writeFifo := stored.1 } canErrXmtfull, ptx, .queued)
    else if nonblock then refuse ptx (-eagain)
    else ({ dev with wCANStatus := dev.wCANStatus ||| canErrXmtfull }, ptx, .sleeping)

/-- A call of `pcanfd_send_msg` when it ends or falls asleep for good: `next` is the number of
    the next pass, `sleeps` are those still to come. -/
structure SendCall (P : Type) where
  dev : Pcandev P
  ptx : PcanfdTxmsg
  result : SendResult
  next : Nat
  sleeps : List (Sleep P)
  sections : List (Section P)

section Send
variable (deviceWrite : Pcandev P → Pcandev P × Int) (around : Nat → Around P) (nonblock : Bool)

def sendLoop : List (Sleep P) → Nat → Pcandev P → PcanfdTxmsg → SendCall P
  | sleeps, i, dev, ptx =>
    let before := (around i).interrupts.run dev
    let pass := sendPass (around i).host (around i).stack before ptx
      (nonblock || !(around i).canWait)
    match pass.2.2 with
    | .sleeping =>
      let started := (pcanDevStartWriting deviceWrite pass.1).1
      match sleeps with
      | [] => ⟨started, pass.2.1, .sleeping, i + 1, [], [(before, pass.1), (pass.1, started)]⟩
      | sleep :: sleeps =>
        let awake := sleep.others started
        if sleep.woken < 0 then
          let failed := sendFailed (around i).host (around i).stack awake sleep.woken
          ⟨failed.1, pass.2.1, .refused failed.2, i + 1, sleeps,
            [(before, pass.1), (pass.1, started), (awake, failed.1)]⟩
        else
          let call := sendLoop sleeps (i + 1) awake pass.2.1
          { call with sections := (before, pass.1) :: (pass.1, started) :: call.sections }
    | result => ⟨pass.1, pass.2.1, result, i + 1, sleeps, [(before, pass.1)]⟩

/-- The type of a CAN FD message is changed in the list before the length is looked at. -/
def forcedType (dev : Pcandev P) (ptx : PcanfdTxmsg) : PcanfdTxmsg :=
  match ptx.msg.type with
  | .canfdMsg =>
    if dev.initSettings.flags &&& pcanfdInitFd ≠ 0 ∧ ptx.msg.dataLen ≤ 64 then ptx
    else { ptx with msg := { ptx.msg with type := .can20Msg } }
  | _ => ptx

def sendMsg (sleeps : List (Sleep P)) (i : Nat) (dev : Pcandev P) (ptx : PcanfdTxmsg) :
    SendCall P :=
  match checkTxmsg dev ptx with
  | .error err => ⟨dev, forcedType dev ptx, .refused err, i, sleeps, []⟩
  | .ok ptx => sendLoop deviceWrite around nonblock sleeps i dev ptx

/-- A list of messages when the call is over: `count` are sent, `results` has what
    `pcanfd_send_msg` returned for each message it was called for. There is no error yet while
    the call is asleep. -/
structure BatchSent (P : Type) where
  dev : Pcandev P
  list : List PcanfdTxmsg
  count : Nat
  err : Option Int
  results : List SendResult
  sections : List (Section P)

def sendMsgs : List PcanfdTxmsg → List (Sleep P) → Nat → Pcandev P → BatchSent P
  | [], _, _, dev => ⟨dev, [], 0, some 0, [], []⟩
  | ptx :: list, sleeps, i, dev =>
    let call := sendMsg deviceWrite around nonblock sleeps i dev ptx
    match call.result with
    | .queued =>
      let sent := sendMsgs list call.sleeps call.next call.dev
      { sent with
        list := call.ptx :: sent.list
        count := sent.count + 1
        results := .queued :: sent.results
        sections := call.sections ++ sent.sections }
    | .refused err => ⟨call.dev, call.ptx :: list, 0, some err, [.refused err], call.sections⟩
    | .sleeping => ⟨call.dev, call.ptx :: list, 0, none, [.sleeping], call.sections⟩

end Send

def ioctlSendMsgs (deviceWrite : Pcandev P → Pcandev P × Int) (around : Nat → Around P)
    (openFlags : U32) (list : List PcanfdTxmsg) (sleeps : List (Sleep P)) (dev : Pcandev P) :
    BatchSent P :=
  let sent := sendMsgs deviceWrite around (openFlags &&& oNonblock ≠ 0) list sleeps 0 dev
  if sent.err ≠ none ∧ 0 < sent.count then
    let started := pcanDevStartWriting deviceWrite sent.dev
    { sent with
      dev := started.1
      err := some started.2
      sections := sent.sections ++ [(sent.dev, started.1)] }
  else sent

inductive RecvResult where
  | received (rx : PcanfdRxmsg)
  | failed (err : Int)
  | asleep

/-- `since` is the channel when the mutex has last been taken. -/
structure RecvCall (P : Type) where
  dev : Pcandev P
  result : RecvResult
  next : Nat
  sleeps : List (Sleep P)
  slept : Nat
  since : Pcandev P

section Receive
variable (around : Nat → Around P)

def recvMsg (nonblock : Bool) :
    List (Sleep P) → Nat → Pcandev P → Pcandev P → RecvCall P
  | sleeps, i, since, dev =>
    let pass := pcanfdRecvMsg (around i).host ((around i).interrupts.run dev)
      (nonblock || !(around i).canWait)
    match pass.2.2, pass.2.1 with
    | some _, some rx => ⟨pass.1, .received rx, i + 1, sleeps, 0, since⟩
    | some err, none => ⟨pass.1, .failed err, i + 1, sleeps, 0, since⟩
    | none, _ =>
      match sleeps with
      | [] => ⟨pass.1, .asleep, i + 1, [], 1, since⟩
      | sleep :: sleeps =>
        let awake := sleep.others pass.1
        if sleep.woken < 0 then
          ⟨awake, .failed (if sleep.woken = -erestartsys then -eintr else sleep.woken), i + 1,
            sleeps, 1, awake⟩
        else
          let call := recvMsg nonblock sleeps (i + 1) awake awake
          { call with slept := call.slept + 1 }

/-- A list of messages received; `slept` has `pl->count` for each time the call went to
    sleep. -/
structure BatchReceived (P : Type) where
  dev : Pcandev P
  list : List PcanfdRxmsg
  err : Option Int
  slept : List Nat
  since : Pcandev P
  openFlags : U32

/-- The loop of `pcanfd_ioctl_recv_msgs` with `count` messages in the list and room for `left`
    more. -/
def recvMsgs : Nat → Nat → U32 → List (Sleep P) → Nat → Pcandev P → Pcandev P → BatchReceived P
  | 0, _, openFlags, _, _, since, dev => ⟨dev, [], some 0, [], since, openFlags⟩
  | left + 1, count, openFlags, sleeps, i, since, dev =>
    let call := recvMsg around (openFlags &&& oNonblock ≠ 0) sleeps i since dev
    let slept := List.replicate call.slept count
    match call.result with
    | .received rx =>
      let more := recvMsgs left (count + 1) (openFlags ||| oNonblock) call.sleeps call.next
        call.since call.dev
      { more with list := rx :: more.list, slept := slept ++ more.slept }
    | .failed err => ⟨call.dev, [], some err, slept, call.since, openFlags⟩
    | .asleep => ⟨call.dev, [], none, slept, call.since, openFlags⟩

def ioctlRecvMsgs (openFlags : U32) (n : Nat) (sleeps : List (Sleep P)) (dev : Pcandev P) :
    BatchReceived P :=
  let got := recvMsgs around n 0 openFlags sleeps 0 dev dev
  { got with
    err := got.err.map fun err => if 0 < got.list.length then 0 else err
    openFlags := if got.err = none then got.openFlags else openFlags }

end Receive

end Source

section Statement

def QueuedAs (ptx frame : PcanfdTxmsg) : Prop :=
  frame = { ptx with tv := frame.tv } ∨
    ptx.msg.type = .canfdMsg ∧
      frame = { ptx with msg := { ptx.msg with type := .can20Msg }, tv := frame.tv }

/-- The frames that the parts of a call put in the FIFO, besides which the channel itself takes
    frames out when the engine is started. -/
inductive Appends (deviceWrite : Pcandev P → Pcandev P × Int) :
    List (Section P) → List PcanfdTxmsg → Prop
  | nil : Appends deviceWrite [] []
  | put {before after : Pcandev P} {frame : PcanfdTxmsg} {sections : List (Section P)}
      {frames : List PcanfdTxmsg}
      (items : after.writeFifo.items = before.writeFifo.items ++ [frame])
      (more : Appends deviceWrite sections frames) :
      Appends deviceWrite ((before, after) :: sections) (frame :: frames)
  | kept {before after : Pcandev P} {sections : List (Section P)} {frames : List PcanfdTxmsg}
      (items : after.writeFifo.items = before.writeFifo.items)
      (more : Appends deviceWrite sections frames) :
      Appends deviceWrite ((before, after) :: sections) frames
  | start {before : Pcandev P} {sections : List (Section P)} {frames : List PcanfdTxmsg}
      (more : Appends deviceWrite sections frames) :
      Appends deviceWrite ((before, (pcanDevStartWriting deviceWrite before).1) :: sections) frames

/-- Messages taken out of a queue, the oldest one each time, while it grows. -/
inductive OldestFirst {A : Type} : List A → List A → List A → Prop
  | nil {q left : List A} (grown : QueueGrows q left) : OldestFirst q [] left
  | cons {q rest taken left : List A} {m : A} (grown : QueueGrows q (m :: rest))
      (more : OldestFirst rest taken left) : OldestFirst q (m :: taken) left

/-- A message as the application is shown it: the time and the flags about it are filled in. -/
def ShownAs (P : Type) (m shown : PcanfdRxmsg) : Prop :=
  ∃ host : Host, ∀ dev : Pcandev P, shown = (pcanSyncTimestamps host dev m).2

end Statement

section Passes

theorem sendFailed_transmit (host : Host) (stack : PcanfdRxmsg) (dev : Pcandev P) (err : Int) :
    (sendFailed host stack dev err).1.transmit = dev.transmit := by
  unfold sendFailed
  split
  next => rfl
  next =>
    split
    next =>
      rw [pcanChardevRx_transmit]
      rfl
    next => rfl

theorem sendFailed_error (host : Host) (stack : PcanfdRxmsg) (dev : Pcandev P) {err : Int}
    (negative : err < 0) : (sendFailed host stack dev err).2 < 0 := by
  unfold sendFailed
  split
  next =>
    show (-eintr : Int) < 0
    decide
  next =>
    split
    next => exact negative
    next => exact negative

theorem pcanfdSendMsg_pass (deviceWrite : Pcandev P → Pcandev P × Int) (host : Host)
    (stack : PcanfdRxmsg) (dev : Pcandev P) (ptx : PcanfdTxmsg) (nonblock : Bool) :
    pcanfdSendMsg deviceWrite host stack dev ptx nonblock
      = match checkTxmsg dev ptx with
        | .error err => (dev, ptx, .refused err)
        | .ok ptx =>
          let pass := sendPass host stack dev ptx nonblock
          match pass.2.2 with
          | .sleeping => ((pcanDevStartWriting deviceWrite pass.1).1, pass.2)
          | _ => pass := by
  have absent : (-enodev : Int) ≠ -erestartsys ∧ (-enodev : Int) ≠ -eagain := by decide
  have off : (-enetdown : Int) ≠ -erestartsys ∧ (-enetdown : Int) ≠ -eagain := by decide
  have again : (-eagain : Int) ≠ -erestartsys := by decide
  unfold pcanfdSendMsg
  cases checkTxmsg dev ptx with
  | error err => rfl
  | ok ptx =>
    unfold sendPass
    dsimp only
    split
    next => simp only [sendFailed, absent, false_and, if_false]
    next =>
      split
      next => simp only [sendFailed, off, false_and, if_false]
      next =>
        split
        next => rfl
        next =>
          split
          next =>
            unfold sendFailed
            rw [if_neg again]
            by_cases full : dev.wCANStatus &&& canErrXmtfull = 0
            · simp only [full, ne_eq, not_true_eq_false, if_false, and_self, if_true]
            · simp only [full, ne_eq, not_false_eq_true, if_true, and_false, if_false]
          next => rfl

theorem sendPass_spec (host : Host) (stack : PcanfdRxmsg) (dev : Pcandev P) (ptx : PcanfdTxmsg)
    (nonblock : Bool) :
    let pass := sendPass host stack dev ptx nonblock
    pass.2.1 = { ptx with tv := pass.2.1.tv } ∧
      match pass.2.2 with
      | .queued => pass.1.writeFifo.items = dev.writeFifo.items ++ [pass.2.1]
      | .refused err => pass.1.writeFifo.items = dev.writeFifo.items ∧ err < 0
      | .sleeping => pass.1.writeFifo.items = dev.writeFifo.items ∧ nonblock = false := by
  have same : ∀ err, (sendFailed host stack dev err).1.writeFifo.items = dev.writeFifo.items :=
    fun err => congrArg (·.writeFifo.items) (sendFailed_transmit host stack dev err)
  unfold sendPass
  dsimp only
  split
  next => exact ⟨rfl, same _, sendFailed_error host stack dev (by decide)⟩
  next =>
    split
    next => exact ⟨rfl, same _, sendFailed_error host stack dev (by decide)⟩
    next =>
      split
      next stored =>
        refine ⟨rfl, ?_⟩
        have transmit := pcanClearStatusBit_transmit host
          { dev with writeFifo := (fifoPut dev.writeFifo { ptx with tv := host.now }).1 }
          canErrXmtfull
        exact (congrArg (·.writeFifo.items) transmit).trans (fifoPut_stored stored)
      next =>
        split
        next => exact ⟨rfl, same _, sendFailed_error host stack dev (by decide)⟩
        next blocking => exact ⟨rfl, rfl, by simpa using blocking⟩

theorem checkTxmsg_ok {dev : Pcandev P} {ptx checked : PcanfdTxmsg}
    (ok : checkTxmsg dev ptx = .ok checked) : checked = forcedType dev ptx := by
  have classic : ∀ ptx', checkClassic ptx' = .ok checked → checked = ptx' := by
    intro ptx' ok
    unfold checkClassic at ok
    split at ok
    next => exact (Except.ok.inj ok).symm
    next => cases ok
  have type_ok : checkTxType dev ptx = .ok checked := by
    unfold checkTxmsg at ok
    split at ok
    next => cases ok
    next ptx' type_ok =>
      split at ok
      next => cases ok
      next => rw [type_ok, Except.ok.inj ok]
  unfold checkTxType at type_ok
  unfold forcedType
  split at type_ok
  next fd =>
    rw [fd]
    split at type_ok
    next accepted => exact (Except.ok.inj type_ok).symm.trans (if_pos accepted).symm
    next refused => exact (classic _ type_ok).trans (if_neg refused).symm
  next can20 =>
    rw [can20]
    exact classic _ type_ok
  next => cases type_ok

theorem forcedType_cases (dev : Pcandev P) (ptx : PcanfdTxmsg) :
    forcedType dev ptx = ptx ∨ ptx.msg.type = .canfdMsg ∧
      forcedType dev ptx = { ptx with msg := { ptx.msg with type := .can20Msg } } := by
  unfold forcedType
  split
  next fd =>
    split
    next => exact Or.inl rfl
    next => exact Or.inr ⟨fd, rfl⟩
  next => exact Or.inl rfl

theorem checkTxmsg_error {dev : Pcandev P} {ptx : PcanfdTxmsg} {err : Int}
    (refused : checkTxmsg dev ptx = .error err) : err < 0 := by
  have classic : ∀ ptx' err', checkClassic ptx' = .error err' → err' < 0 := by
    intro ptx' err' refused
    unfold checkClassic at refused
    split at refused
    next => cases refused
    next =>
      cases refused
      decide
  have type_error : ∀ err', checkTxType dev ptx = .error err' → err' < 0 := by
    intro err' refused
    unfold checkTxType at refused
    split at refused
    next =>
      split at refused
      next => cases refused
      next => exact classic _ _ refused
    next => exact classic _ _ refused
    next =>
      cases refused
      decide
  unfold checkTxmsg at refused
  split at refused
  next err' type_refused =>
    cases refused
    exact type_error _ type_refused
  next =>
    split at refused
    next =>
      cases refused
      decide
    next => cases refused

end Passes

section SendRun
variable {deviceWrite : Pcandev P → Pcandev P × Int} {around : Nat → Around P} {nonblock : Bool}

theorem Appends.append {first second : List (Section P)} {frames frames' : List PcanfdTxmsg}
    (front : Appends deviceWrite first frames) (back : Appends deviceWrite second frames') :
    Appends deviceWrite (first ++ second) (frames ++ frames') := by
  induction front with
  | nil => exact back
  | put items _ ih => exact .put items ih
  | kept items _ ih => exact .kept items ih
  | start _ ih => exact .start ih

/-- What a call of `pcanfd_send_msg` puts in the FIFO: its message when it succeeds, otherwise
    nothing. -/
structure SendsOne (deviceWrite : Pcandev P → Pcandev P × Int) (nonblock : Bool)
    (ptx : PcanfdTxmsg) (call : SendCall P) : Prop where
  queued : call.result = .queued →
    QueuedAs ptx call.ptx ∧ Appends deviceWrite call.sections [call.ptx]
  other : call.result ≠ .queued → Appends deviceWrite call.sections []
  error : ∀ err, call.result = .refused err → err < 0
  asleep : call.result = .sleeping → nonblock = false

/-- The same for the loop, where the message is checked already. -/
structure LoopSends (deviceWrite : Pcandev P → Pcandev P × Int) (nonblock : Bool)
    (ptx : PcanfdTxmsg) (call : SendCall P) : Prop where
  stamped : call.ptx = { ptx with tv := call.ptx.tv }
  queued : call.result = .queued → Appends deviceWrite call.sections [call.ptx]
  other : call.result ≠ .queued → Appends deviceWrite call.sections []
  error : ∀ err, call.result = .refused err → err < 0
  asleep : call.result = .sleeping → nonblock = false

theorem sendLoop_awake (sleeps : List (Sleep P)) (i : Nat) (dev : Pcandev P) (ptx : PcanfdTxmsg)
    (awake : (sendPass (around i).host (around i).stack ((around i).interrupts.run dev) ptx
      (nonblock || !(around i).canWait)).2.2 ≠ .sleeping) :
    LoopSends deviceWrite nonblock ptx
      (sendLoop deviceWrite around nonblock sleeps i dev ptx) := by
  obtain ⟨stamped, effect⟩ := sendPass_spec (around i).host (around i).stack
    ((around i).interrupts.run dev) ptx (nonblock || !(around i).canWait)
  rw [sendLoop.eq_def]
  dsimp only
  generalize sendPass _ _ _ ptx _ = pass at awake stamped effect ⊢
  obtain ⟨dev', ptx', result⟩ := pass
  cases result with
  | queued =>
    exact ⟨stamped, fun _ => .put effect .nil, fun other => absurd rfl other,
      fun _ same => SendResult.noConfusion same, fun same => SendResult.noConfusion same⟩
  | refused err =>
    refine ⟨stamped, fun same => SendResult.noConfusion same, fun _ => .kept effect.1 .nil, ?_,
      fun same => SendResult.noConfusion same⟩
    intro err' same
    cases same
    exact effect.2
  | sleeping => exact absurd rfl awake

theorem sendLoop_sends (sleeps : List (Sleep P)) (i : Nat) (dev : Pcandev P) (ptx : PcanfdTxmsg) :
    LoopSends deviceWrite nonblock ptx
      (sendLoop deviceWrite around nonblock sleeps i dev ptx) := by
  induction sleeps generalizing i dev ptx with
  | nil =>
    by_cases asleep : (sendPass (around i).host (around i).stack ((around i).interrupts.run dev) ptx
      (nonblock || !(around i).canWait)).2.2 = .sleeping
    · obtain ⟨stamped, effect⟩ := sendPass_spec (around i).host (around i).stack
        ((around i).interrupts.run dev) ptx (nonblock || !(around i).canWait)
      rw [asleep] at effect
      rw [sendLoop, asleep]
      exact ⟨stamped, fun same => SendResult.noConfusion same,
        fun _ => .kept effect.1 (.start .nil), fun _ same => SendResult.noConfusion same,
        fun _ => (Bool.or_eq_false_iff.mp effect.2).1⟩
    · exact sendLoop_awake [] i dev ptx asleep
  | cons sleep sleeps ih =>
    by_cases asleep : (sendPass (around i).host (around i).stack ((around i).interrupts.run dev) ptx
      (nonblock || !(around i).canWait)).2.2 = .sleeping
    · obtain ⟨stamped, effect⟩ := sendPass_spec (around i).host (around i).stack
        ((around i).interrupts.run dev) ptx (nonblock || !(around i).canWait)
      rw [asleep] at effect
      rw [sendLoop, asleep]
      generalize sendPass _ _ _ ptx _ = pass at stamped effect ⊢
      dsimp only
      by_cases woken : sleep.woken < 0
      · rw [if_pos woken]
        have kept := congrArg (·.writeFifo.items) (sendFailed_transmit (around i).host
          (around i).stack (sleep.others (pcanDevStartWriting deviceWrite pass.1).1) sleep.woken)
        refine ⟨stamped, fun same => SendResult.noConfusion same,
          fun _ => .kept effect.1 (.start (.kept kept .nil)), ?_,
          fun same => SendResult.noConfusion same⟩
        intro err same
        cases same
        exact sendFailed_error _ _ _ woken
      · rw [if_neg woken]
        obtain ⟨stamped', queued, other, error, waits⟩ :=
          ih (i + 1) (sleep.others (pcanDevStartWriting deviceWrite pass.1).1) pass.2.1
        refine ⟨?_, fun result => .kept effect.1 (.start (queued result)),
          fun result => .kept effect.1 (.start (other result)), error, waits⟩
        dsimp only at stamped' ⊢
        rw [stamped', stamped]
    · exact sendLoop_awake _ i dev ptx asleep

theorem sendMsg_sends (sleeps : List (Sleep P)) (i : Nat) (dev : Pcandev P) (ptx : PcanfdTxmsg) :
    SendsOne deviceWrite nonblock ptx (sendMsg deviceWrite around nonblock sleeps i dev ptx) := by
  unfold sendMsg
  cases checked : checkTxmsg dev ptx with
  | error err =>
    constructor
    case queued => exact nofun
    case other => exact fun _ => .nil
    case error =>
      intro err' same
      cases same
      exact checkTxmsg_error checked
    case asleep => exact nofun
  | ok ptx' =>
    have loop := @sendLoop_sends _ deviceWrite around nonblock sleeps i dev ptx'
    have stamped := loop.stamped
    constructor
    case queued =>
      intro result
      refine ⟨?_, loop.queued result⟩
      rw [checkTxmsg_ok checked] at stamped ⊢
      rcases forcedType_cases dev ptx with same | ⟨fd, forced⟩
      · left
        rw [same] at stamped ⊢
        exact stamped
      · right
        refine ⟨fd, ?_⟩
        rw [forced] at stamped ⊢
        exact stamped
    case other => exact loop.other
    case error => exact loop.error
    case asleep => exact loop.asleep

/-- What a list of messages comes to before the engine is started for it. -/
structure SendsList (deviceWrite : Pcandev P → Pcandev P × Int) (nonblock : Bool)
    (list : List PcanfdTxmsg) (sent : BatchSent P) : Prop where
  appended : ∃ frames, List.Forall₂ QueuedAs (list.take sent.count) frames ∧
    sent.list.take sent.count = frames ∧ Appends deviceWrite sent.sections frames
  outcome : sent.count = list.length ∧ sent.err = some 0 ∧
      sent.results = List.replicate sent.count .queued ∨
    sent.count < list.length ∧
      ((∃ err, err < 0 ∧ sent.err = some err ∧
          sent.results = List.replicate sent.count .queued ++ [.refused err]) ∨
        sent.err = none ∧ nonblock = false)

theorem sendMsgs_sends (list : List PcanfdTxmsg) (sleeps : List (Sleep P)) (i : Nat)
    (dev : Pcandev P) :
    SendsList deviceWrite nonblock list
      (sendMsgs deviceWrite around nonblock list sleeps i dev) := by
  induction list generalizing sleeps i dev with
  | nil =>
    constructor
    case appended => exact ⟨[], .nil, rfl, .nil⟩
    case outcome => exact Or.inl ⟨rfl, rfl, rfl⟩
  | cons ptx list ih =>
    have one := @sendMsg_sends _ deviceWrite around nonblock sleeps i dev ptx
    unfold sendMsgs
    dsimp only
    generalize sendMsg deviceWrite around nonblock sleeps i dev ptx = call at one ⊢
    cases result : call.result with
    | queued =>
      obtain ⟨same, appends⟩ := one.queued result
      obtain ⟨⟨frames, each, stored, more⟩, outcome⟩ := ih call.sleeps call.next call.dev
      constructor
      case appended =>
        refine ⟨call.ptx :: frames, .cons same each, ?_, appends.append more⟩
        rw [List.take_succ_cons, stored]
      case outcome =>
        rw [List.length_cons, List.replicate_succ]
        rcases outcome with ⟨whole, err, results⟩ | ⟨part, ended⟩
        · exact Or.inl ⟨congrArg (· + 1) whole, err, congrArg _ results⟩
        · right
          refine ⟨Nat.succ_lt_succ part, ?_⟩
          rcases ended with ⟨err, negative, same, results⟩ | asleep
          · exact Or.inl ⟨err, negative, same, congrArg _ results⟩
          · exact Or.inr asleep
    | refused err =>
      constructor
      case appended =>
        exact ⟨[], .nil, rfl, one.other (by rw [result]; exact SendResult.noConfusion)⟩
      case outcome =>
        exact Or.inr ⟨Nat.succ_pos _, Or.inl ⟨err, one.error err result, rfl, rfl⟩⟩
    | sleeping =>
      constructor
      case appended =>
        exact ⟨[], .nil, rfl, one.other (by rw [result]; exact SendResult.noConfusion)⟩
      case outcome => exact Or.inr ⟨Nat.succ_pos _, Or.inr ⟨rfl, one.asleep result⟩⟩

end SendRun

section ReceiveRun
variable {around : Nat → Around P}

theorem QueueGrows.trans {A : Type} {q q' q'' : List A} (first : QueueGrows q q')
    (later : QueueGrows q' q'') : QueueGrows q q'' := by
  induction later with
  | same => exact first
  | appended _ m ih => exact .appended ih m
  | updated _ new ih => exact .updated ih new

theorem OldestFirst.after {A : Type} {q q' taken left : List A} (grown : QueueGrows q q')
    (oldest : OldestFirst q' taken left) : OldestFirst q taken left := by
  cases oldest with
  | nil grown' => exact .nil (grown.trans grown')
  | cons grown' more => exact .cons (grown.trans grown') more

theorem StatusPosted.grows {q q' : List PcanfdRxmsg} (posted : StatusPosted q q') :
    QueueGrows q q' := by
  cases posted with
  | none => exact .same
  | appended => exact .appended .same _
  | patched => exact .updated .same _

theorem pcanfdRecvMsg_oldest (host : Host) (dev : Pcandev P) (nonblock : Bool) :
    let pass := pcanfdRecvMsg host dev nonblock
    (∃ m rest, dev.readFifo.items = m :: rest ∧ pass.2 = (some (pcanSyncTimestamps host dev m).2,
        some 0) ∧ QueueGrows rest pass.1.readFifo.items) ∨
      pass.1 = dev ∧ pass.2.1 = none ∧ (pass.2.2 = none ∧ nonblock = false ∨
        ∃ err, pass.2.2 = some err ∧ err < 0) := by
  unfold pcanfdRecvMsg
  split
  next => exact Or.inr ⟨rfl, rfl, Or.inr ⟨_, rfl, by decide⟩⟩
  next =>
    rcases items : dev.readFifo.items with _ | ⟨m, rest⟩
    · right
      have empty : dev.readFifo.oldest = none := by
        rw [BoundedQueue.oldest, items]
        rfl
      rw [empty]
      refine ⟨rfl, rfl, ?_⟩
      cases nonblock with
      | false => exact Or.inl ⟨rfl, rfl⟩
      | true => exact Or.inr ⟨_, rfl, by decide⟩
    · left
      have first : dev.readFifo.oldest = some m := by
        rw [BoundedQueue.oldest, items]
        rfl
      rw [first]
      obtain ⟨posted, _, _⟩ := @pcanClearStatusBit_overrun _ host
        { dev with readFifo := dev.readFifo.dropOldest } (room_left items)
      have same := (pcanSyncTimestamps_spec host (firstTaken host dev) m).1
      refine ⟨m, rest, rfl, ?_, ?_⟩
      · dsimp only
        rw [pcanSyncTimestamps_dev host dev (firstTaken host dev) m]
        rfl
      · dsimp only
        have grown := posted.grows
        simp only [BoundedQueue.dropOldest_items, items, List.tail_cons] at grown
        rw [← firstTaken, same.readFifo]
        exact grown

/-- What a call of `pcanfd_recv_msg` takes out of a queue `q` that was there at `since`. If it
    has slept, `base` is what was there afterwards. -/
structure ReceivesOne (P : Type) (q : List PcanfdRxmsg) (since : Pcandev P) (nonblock : Bool)
    (base : List PcanfdRxmsg) (call : RecvCall P) : Prop where
  based : base = q ∧ call.since = since ∨
    nonblock = false ∧ base = call.since.readFifo.items
  slept : nonblock = true → call.slept = 0
  received : ∀ rx, call.result = .received rx → ∃ m rest, ShownAs P m rx ∧
    QueueGrows base (m :: rest) ∧ QueueGrows rest call.dev.readFifo.items
  other : (∀ rx, call.result ≠ .received rx) → QueueGrows base call.dev.readFifo.items
  error : ∀ err, call.result = .failed err → err < 0
  asleep : call.result = .asleep → nonblock = false

section One
variable {q base : List PcanfdRxmsg} {since dev : Pcandev P} {nonblock : Bool}

theorem ReceivesOne.of_received {m : PcanfdRxmsg} {rest : List PcanfdRxmsg} {next : Nat}
    {sleeps : List (Sleep P)} (host : Host) (dev' : Pcandev P)
    (first : QueueGrows q (m :: rest)) (grown : QueueGrows rest dev.readFifo.items) :
    ReceivesOne P q since nonblock q
      ⟨dev, .received (pcanSyncTimestamps host dev' m).2, next, sleeps, 0, since⟩ := by
  constructor
  case based => exact Or.inl ⟨rfl, rfl⟩
  case slept => exact fun _ => rfl
  case received =>
    intro rx same
    cases same
    exact ⟨m, rest, ⟨host, fun other => pcanSyncTimestamps_dev host dev' other m⟩, first, grown⟩
  case other => exact fun other => absurd rfl (other _)
  case error => exact fun _ same => RecvResult.noConfusion same
  case asleep => exact fun same => RecvResult.noConfusion same

theorem ReceivesOne.of_failed {since' : Pcandev P} {err : Int} {next slept : Nat}
    {sleeps : List (Sleep P)} (negative : err < 0)
    (based : base = q ∧ since' = since ∨ nonblock = false ∧ base = since'.readFifo.items)
    (sleeps_only : nonblock = true → slept = 0)
    (grown : QueueGrows base dev.readFifo.items) :
    ReceivesOne P q since nonblock base ⟨dev, .failed err, next, sleeps, slept, since'⟩ := by
  constructor
  case based => exact based
  case slept => exact sleeps_only
  case received => exact fun _ same => RecvResult.noConfusion same
  case other => exact fun _ => grown
  case error =>
    intro err' same
    cases same
    exact negative
  case asleep => exact fun same => RecvResult.noConfusion same

theorem ReceivesOne.of_slept {call : RecvCall P} {awake : Pcandev P} (blocking : nonblock = false)
    (later : ReceivesOne P awake.readFifo.items awake nonblock base call) :
    ReceivesOne P q since nonblock base { call with slept := call.slept + 1 } := by
  obtain ⟨based, _, received, other, error, asleep⟩ := later
  refine ⟨Or.inr ⟨blocking, ?_⟩, ?_, received, other, error, asleep⟩
  · rcases based with ⟨same, since_awake⟩ | ⟨_, same⟩
    · rw [same, since_awake]
    · exact same
  · exact fun never => absurd (blocking.symm.trans never) Bool.false_ne_true

end One

theorem recvMsg_awake (nonblock : Bool) (sleeps : List (Sleep P)) (i : Nat)
    {q : List PcanfdRxmsg} (since : Pcandev P) {dev : Pcandev P}
    (grown : QueueGrows q ((around i).interrupts.run dev).readFifo.items)
    (awake : (pcanfdRecvMsg (around i).host ((around i).interrupts.run dev)
      (nonblock || !(around i).canWait)).2.2 ≠ none) :
    ReceivesOne P q since nonblock q (recvMsg around nonblock sleeps i since dev) := by
  have effect := pcanfdRecvMsg_oldest (around i).host ((around i).interrupts.run dev)
    (nonblock || !(around i).canWait)
  rw [recvMsg.eq_def]
  dsimp only
  generalize (around i).interrupts.run dev = dev₀ at grown awake effect ⊢
  generalize pcanfdRecvMsg _ _ _ = pass at awake effect ⊢
  obtain ⟨dev', rx, err⟩ := pass
  dsimp only at awake effect ⊢
  rcases effect with ⟨m, rest, items, result, more⟩ |
    ⟨kept, nothing, ⟨asleep, _⟩ | ⟨_, failed, negative⟩⟩
  · obtain ⟨taken, ended⟩ := Prod.mk.inj result
    rw [taken, ended]
    rw [items] at grown
    exact .of_received _ _ grown more
  · exact absurd asleep awake
  · rw [nothing, failed]
    exact .of_failed negative (Or.inl ⟨rfl, rfl⟩) (fun _ => rfl) (kept ▸ grown)

theorem pcanfdRecvMsg_asleep (host : Host) (dev : Pcandev P) (nonblock : Bool)
    (asleep : (pcanfdRecvMsg host dev nonblock).2.2 = none) :
    pcanfdRecvMsg host dev nonblock = (dev, none, none) ∧ nonblock = false := by
  have effect := pcanfdRecvMsg_oldest host dev nonblock
  generalize pcanfdRecvMsg host dev nonblock = pass at asleep effect ⊢
  obtain ⟨dev', rx, err⟩ := pass
  dsimp only at asleep effect
  rcases effect with ⟨_, _, _, result, _⟩ | ⟨kept, nothing, ⟨_, blocking⟩ | ⟨_, failed, _⟩⟩
  · rw [asleep] at result
    cases result
  · rw [kept, nothing, asleep]
    exact ⟨rfl, blocking⟩
  · rw [asleep] at failed
    cases failed

theorem recvMsg_receives (nonblock : Bool) (sleeps : List (Sleep P)) (i : Nat)
    {q : List PcanfdRxmsg} (since : Pcandev P) {dev : Pcandev P}
    (grown : QueueGrows q dev.readFifo.items) :
    ∃ base, ReceivesOne P q since nonblock base
      (recvMsg around nonblock sleeps i since dev) := by
  induction sleeps generalizing i q since dev with
  | nil =>
    have grown' := grown.trans ((around i).interrupts.grows dev)
    by_cases asleep : (pcanfdRecvMsg (around i).host ((around i).interrupts.run dev)
      (nonblock || !(around i).canWait)).2.2 = none
    · obtain ⟨pass, blocking⟩ := pcanfdRecvMsg_asleep _ _ _ asleep
      have waits : nonblock = false := (Bool.or_eq_false_iff.mp blocking).1
      refine ⟨q, ?_⟩
      rw [recvMsg, pass]
      constructor
      case based => exact Or.inl ⟨rfl, rfl⟩
      case slept => exact fun never => absurd (waits.symm.trans never) Bool.false_ne_true
      case received => exact fun _ same => RecvResult.noConfusion same
      case other => exact fun _ => grown'
      case error => exact fun _ same => RecvResult.noConfusion same
      case asleep => exact fun _ => waits
    · exact ⟨q, recvMsg_awake nonblock [] i since grown' asleep⟩
  | cons sleep sleeps ih =>
    have grown' := grown.trans ((around i).interrupts.grows dev)
    by_cases asleep : (pcanfdRecvMsg (around i).host ((around i).interrupts.run dev)
      (nonblock || !(around i).canWait)).2.2 = none
    · obtain ⟨pass, blocking⟩ := pcanfdRecvMsg_asleep _ _ _ asleep
      have waits : nonblock = false := (Bool.or_eq_false_iff.mp blocking).1
      rw [recvMsg, pass]
      dsimp only
      by_cases woken : sleep.woken < 0
      · rw [if_pos woken]
        refine ⟨_, .of_failed ?_ (Or.inr ⟨waits, rfl⟩)
          (fun never => absurd (waits.symm.trans never) Bool.false_ne_true) .same⟩
        split
        next => decide
        next => exact woken
      · rw [if_neg woken]
        obtain ⟨base, later⟩ := ih (i + 1) (sleep.others ((around i).interrupts.run dev)) .same
        exact ⟨base, .of_slept waits later⟩
    · exact ⟨q, recvMsg_awake nonblock _ i since grown' asleep⟩

/-- What the loop of a list takes out of a queue `q`, with `count` messages in the list
    before. -/
structure ReceivesList (P : Type) (q : List PcanfdRxmsg) (since : Pcandev P) (count left : Nat)
    (openFlags : U32) (base : List PcanfdRxmsg) (got : BatchReceived P) : Prop where
  based : base = q ∧ got.since = since ∨ count = 0 ∧ base = got.since.readFifo.items
  oldest : ∃ taken, List.Forall₂ (ShownAs P) taken got.list ∧
    OldestFirst base taken got.dev.readFifo.items
  slept : ∀ k ∈ got.slept, k = 0
  outcome : got.list.length = left ∧ got.err = some 0 ∨
    got.list.length < left ∧
      ((∃ err, err < 0 ∧ got.err = some err) ∨
        got.err = none ∧ openFlags &&& oNonblock = 0 ∧ count = 0 ∧ got.list = [] ∧
          got.openFlags = openFlags)

theorem nonblock_or (openFlags : U32) : (openFlags ||| oNonblock) &&& oNonblock ≠ 0 := by
  rw [Masks.or_and_self]
  decide

/-- As soon as one message is in the list the call does not sleep any more. -/
theorem recvMsgs_receives (left count : Nat) (openFlags : U32) (sleeps : List (Sleep P)) (i : Nat)
    {q : List PcanfdRxmsg} (since : Pcandev P) {dev : Pcandev P}
    (grown : QueueGrows q dev.readFifo.items)
    (nonblock : 0 < count → openFlags &&& oNonblock ≠ 0) :
    ∃ base, ReceivesList P q since count left openFlags base
      (recvMsgs around left count openFlags sleeps i since dev) := by
  induction left generalizing count openFlags sleeps i q since dev with
  | zero =>
    refine ⟨q, ?_⟩
    constructor
    case based => exact Or.inl ⟨rfl, rfl⟩
    case oldest => exact ⟨[], .nil, .nil grown⟩
    case slept => exact nofun
    case outcome => exact Or.inl ⟨rfl, rfl⟩
  | succ left ih =>
    obtain ⟨base, one⟩ := @recvMsg_receives _ around (openFlags &&& oNonblock ≠ 0) sleeps i q since
      dev grown
    unfold recvMsgs
    dsimp only
    generalize recvMsg around _ sleeps i since dev = call at one ⊢
    have based : base = q ∧ call.since = since ∨
        count = 0 ∧ base = call.since.readFifo.items := by
      rcases one.based with same | ⟨blocking, same⟩
      · exact Or.inl same
      · right
        refine ⟨Nat.eq_zero_of_not_pos fun some_there => ?_, same⟩
        exact of_decide_eq_false blocking (nonblock some_there)
    have slept : ∀ k ∈ List.replicate call.slept count, k = 0 := by
      intro k mem
      obtain ⟨positive, rfl⟩ := List.mem_replicate.mp mem
      by_contra some_there
      exact positive (one.slept (decide_eq_true (nonblock (Nat.pos_of_ne_zero some_there))))
    cases result : call.result with
    | received rx =>
      obtain ⟨m, rest, shown, first, more⟩ := one.received rx result
      obtain ⟨base', later⟩ := @ih (count + 1) (openFlags ||| oNonblock) call.sleeps call.next rest
        call.since call.dev more fun _ => nonblock_or openFlags
      obtain ⟨same, since_same⟩ : base' = rest ∧ _ := later.based.resolve_right (by simp)
      obtain ⟨taken, each, oldest⟩ := later.oldest
      refine ⟨base, ?_⟩
      constructor
      case based =>
        rw [← since_same] at based
        exact based
      case oldest => exact ⟨m :: taken, .cons shown each, .cons first (same ▸ oldest)⟩
      case slept =>
        intro k mem
        rcases List.mem_append.mp mem with front | back
        · exact slept k front
        · exact later.slept k back
      case outcome =>
        rcases later.outcome with ⟨whole, err⟩ | ⟨part, failed | ⟨_, _, some_there, _⟩⟩
        · exact Or.inl ⟨congrArg (· + 1) whole, err⟩
        · exact Or.inr ⟨Nat.succ_lt_succ part, Or.inl failed⟩
        · exact absurd some_there (Nat.succ_ne_zero _)
    | failed err =>
      have other : ∀ rx, call.result ≠ .received rx := by
        rw [result]
        exact fun _ => RecvResult.noConfusion
      refine ⟨base, based, ⟨[], .nil, .nil (one.other other)⟩, slept, ?_⟩
      exact Or.inr ⟨Nat.succ_pos _, Or.inl ⟨err, one.error err result, rfl⟩⟩
    | asleep =>
      have other : ∀ rx, call.result ≠ .received rx := by
        rw [result]
        exact fun _ => RecvResult.noConfusion
      refine ⟨base, based, ⟨[], .nil, .nil (one.other other)⟩, slept, ?_⟩
      have blocking := of_decide_eq_false (one.asleep result)
      refine Or.inr ⟨Nat.succ_pos _, Or.inr ⟨rfl, not_not.mp blocking, ?_, rfl, rfl⟩⟩
      apply Nat.eq_zero_of_not_pos
      intro some_there
      exact blocking (nonblock some_there)

end ReceiveRun

section Result

/-- The engine is started for frames in the FIFO: `device_write` gets one that is stopped, and
    any other is left as it is. -/
structure EngineServed (deviceWrite : Pcandev P → Pcandev P × Int) (before after : Pcandev P)
    (err : Int) : Prop where
  stopped : before.lockedTxEngineState = .stopped → after = (deviceWrite before).1 ∧
    err = if (deviceWrite before).2 = -enodata then 0 else (deviceWrite before).2
  other : before.lockedTxEngineState ≠ .stopped → after = before ∧ err = 0

structure SendsInOrder (deviceWrite : Pcandev P → Pcandev P × Int) (openFlags : U32)
    (list : List PcanfdTxmsg) (done : BatchSent P) : Prop where
  count : done.count ≤ list.length
  appended : ∃ frames, List.Forall₂ QueuedAs (list.take done.count) frames ∧
    Appends deviceWrite done.sections frames
  returns : openFlags &&& oNonblock ≠ 0 → done.err ≠ none
  whole : done.count = list.length → done.results = List.replicate done.count .queued
  part : done.err ≠ none → done.count < list.length → ∃ err, err < 0 ∧
    done.results = List.replicate done.count .queued ++ [.refused err] ∧
    (done.count = 0 → done.err = some err)
  nothing : list = [] → done.err = some 0
  started : ∀ err, done.err = some err → 0 < done.count → ∃ before,
    done.sections.getLast? = some (before, done.dev) ∧
      (before.busState ≠ .unknown → EngineServed deviceWrite before done.dev err)

structure ReceivesInOrder (n : Nat) (openFlags : U32) (done : BatchReceived P) : Prop where
  count : done.list.length ≤ n
  oldest : ∃ taken, List.Forall₂ (ShownAs P) taken done.list ∧
    OldestFirst done.since.readFifo.items taken done.dev.readFifo.items
  slept : ∀ k ∈ done.slept, k = 0
  asleep : done.err = none → done.list = [] ∧ openFlags &&& oNonblock = 0
  result : ∀ err, done.err = some err → (err = 0 ↔ 0 < done.list.length ∨ n = 0)
  flags : done.openFlags = openFlags

theorem pcanDevStartWriting_served (deviceWrite : Pcandev P → Pcandev P × Int)
    {dev : Pcandev P} (known : dev.busState ≠ .unknown) :
    EngineServed deviceWrite dev (pcanDevStartWriting deviceWrite dev).1
      (pcanDevStartWriting deviceWrite dev).2 := by
  unfold pcanDevStartWriting
  rw [if_neg known]
  constructor
  case stopped =>
    intro stopped
    rw [if_pos stopped]
    exact ⟨rfl, rfl⟩
  case other =>
    intro other
    rw [if_neg other]
    exact ⟨rfl, rfl⟩

theorem ioctlSendMsgs_sends (deviceWrite : Pcandev P → Pcandev P × Int) (around : Nat → Around P)
    (openFlags : U32) (list : List PcanfdTxmsg) (sleeps : List (Sleep P)) (dev : Pcandev P) :
    SendsInOrder deviceWrite openFlags list
      (ioctlSendMsgs deviceWrite around openFlags list sleeps dev) := by
  obtain ⟨⟨frames, each, _, appends⟩, outcome⟩ := @sendMsgs_sends _ deviceWrite around
    (openFlags &&& oNonblock ≠ 0) list sleeps 0 dev
  unfold ioctlSendMsgs
  dsimp only
  generalize sendMsgs deviceWrite around _ list sleeps 0 dev = sent at each appends outcome ⊢
  have bounded : sent.count ≤ list.length := by
    rcases outcome with ⟨whole, _⟩ | ⟨part, _⟩
    · exact whole.le
    · exact part.le
  have results : sent.count = list.length →
      sent.results = List.replicate sent.count .queued := by
    intro whole
    rcases outcome with ⟨_, _, results⟩ | ⟨part, _⟩
    · exact results
    · omega
  by_cases some_sent : sent.err ≠ none ∧ 0 < sent.count
  · rw [if_pos some_sent]
    constructor
    case count => exact bounded
    case appended =>
      refine ⟨frames, each, ?_⟩
      have ended := appends.append (@Appends.start _ deviceWrite sent.dev _ _ .nil)
      rw [List.append_nil] at ended
      exact ended
    case returns => exact fun _ => nofun
    case whole => exact results
    case part =>
      intro _ part
      rcases outcome with ⟨whole, _⟩ | ⟨_, ⟨err, negative, _, results⟩ | ⟨asleep, _⟩⟩
      · exact absurd whole part.ne
      · exact ⟨err, negative, results, fun nothing => absurd nothing some_sent.2.ne'⟩
      · exact absurd asleep some_sent.1
    case nothing =>
      rintro rfl
      exact absurd some_sent.2 (Nat.not_lt.mpr bounded)
    case started =>
      intro err same _
      refine ⟨sent.dev, List.getLast?_concat .., ?_⟩
      intro known
      cases same
      exact pcanDevStartWriting_served deviceWrite known
  · rw [if_neg some_sent]
    constructor
    case count => exact bounded
    case appended => exact ⟨frames, each, appends⟩
    case returns =>
      intro never asleep
      rcases outcome with ⟨_, err, _⟩ | ⟨_, ⟨err, _, same, _⟩ | ⟨_, blocking⟩⟩
      · rw [asleep] at err
        cases err
      · rw [asleep] at same
        cases same
      · exact of_decide_eq_false blocking never
    case whole => exact results
    case part =>
      intro returned part
      rcases outcome with ⟨whole, _⟩ | ⟨_, ⟨err, negative, same, results⟩ | ⟨asleep, _⟩⟩
      · exact absurd whole part.ne
      · exact ⟨err, negative, results, fun _ => same⟩
      · exact absurd asleep returned
    case nothing =>
      rintro rfl
      rcases outcome with ⟨_, err, _⟩ | ⟨part, _⟩
      · exact err
      · exact absurd part (Nat.not_lt_zero _)
    case started =>
      intro err same some_there
      exact absurd ⟨by rw [same]; exact nofun, some_there⟩ some_sent

theorem ioctlRecvMsgs_receives (around : Nat → Around P) (openFlags : U32) (n : Nat)
    (sleeps : List (Sleep P)) (dev : Pcandev P) :
    ReceivesInOrder n openFlags (ioctlRecvMsgs around openFlags n sleeps dev) := by
  obtain ⟨base, based, oldest, slept, outcome⟩ := @recvMsgs_receives _ around n 0 openFlags sleeps
    0 dev.readFifo.items dev dev .same (fun positive => absurd positive (Nat.lt_irrefl 0))
  unfold ioctlRecvMsgs
  dsimp only
  generalize recvMsgs around n 0 openFlags sleeps 0 dev dev = got at based oldest slept outcome ⊢
  constructor
  case count =>
    rcases outcome with ⟨whole, _⟩ | ⟨part, _⟩
    · exact whole.le
    · exact part.le
  case oldest =>
    have same : base = got.since.readFifo.items := by
      rcases based with ⟨same, since⟩ | ⟨_, same⟩
      · rw [same, since]
      · exact same
    rw [← same]
    exact oldest
  case slept => exact slept
  case asleep =>
    intro none_yet
    have asleep := Option.map_eq_none_iff.mp none_yet
    rcases outcome with ⟨_, err⟩ | ⟨_, ⟨err, _, err_some⟩ | ⟨_, blocking, _, nothing, _⟩⟩
    · rw [asleep] at err
      cases err
    · rw [asleep] at err_some
      cases err_some
    · exact ⟨nothing, blocking⟩
  case result =>
    intro err returned
    obtain ⟨loop, same, rfl⟩ := Option.map_eq_some_iff.mp returned
    by_cases some_there : 0 < got.list.length
    · rw [if_pos some_there]
      exact iff_of_true rfl (Or.inl some_there)
    · rw [if_neg some_there]
      rcases outcome with ⟨whole, err⟩ | ⟨part, ⟨err, negative, err_some⟩ | ⟨asleep, _⟩⟩
      · rw [same] at err
        cases err
        exact iff_of_true rfl (Or.inr (by omega))
      · rw [same] at err_some
        cases err_some
        apply iff_of_false negative.ne
        rintro (positive | none_wanted)
        · exact some_there positive
        · omega
      · rw [asleep] at same
        cases same
  case flags =>
    dsimp only
    split
    next asleep =>
      rcases outcome with ⟨_, err⟩ | ⟨_, ⟨err, _, err_some⟩ | ⟨_, _, _, _, kept⟩⟩
      · rw [asleep] at err
        cases err
      · rw [asleep] at err_some
        cases err_some
      · exact kept
    next => rfl

/-- What `pcanfd_recv_msg` answers when these messages come, and the error after them. -/
def answersOf (list : List PcanfdRxmsg) (err : Int) (i : Nat) : Except Int PcanfdRxmsg :=
  match list[i]? with
  | some rx => .ok rx
  | none => .error err

theorem recvLoop_answers (list : List PcanfdRxmsg) (err : Int) (left i : Nat)
    (inside : i ≤ list.length) (bounded : list.length ≤ i + left) :
    recvLoop (answersOf list err) left i
      = (list.drop i, if list.length = i + left then 0 else err) := by
  induction left generalizing i with
  | zero =>
    have ended : i = list.length := by omega
    rw [recvLoop, ended, List.drop_length, if_pos (Nat.add_zero _).symm]
  | succ left ih =>
    rw [recvLoop, answersOf]
    by_cases more : i < list.length
    · rw [List.getElem?_eq_getElem more]
      dsimp only
      rw [ih (i + 1) more (by omega), ← List.drop_eq_getElem_cons more,
        show i + 1 + left = i + (left + 1) by omega]
    · have ended : i = list.length := by omega
      rw [List.getElem?_eq_none (by omega), if_neg (by omega), ended, List.drop_length]

theorem ioctlRecvMsgs_answers (around : Nat → Around P) (openFlags : U32) (count : U32)
    (sleeps : List (Sleep P)) (dev : Pcandev P) {err : Int}
    (returned : (ioctlRecvMsgs around openFlags count.toNat sleeps dev).err = some err) :
    ∃ received, pcanfdIoctlRecvMsgs received count
      = ((ioctlRecvMsgs around openFlags count.toNat sleeps dev).list, err) := by
  obtain ⟨base, _, _, _, outcome⟩ := @recvMsgs_receives _ around count.toNat 0 openFlags sleeps
    0 dev.readFifo.items dev dev .same (fun positive => absurd positive (Nat.lt_irrefl 0))
  unfold ioctlRecvMsgs at returned ⊢
  dsimp only at returned ⊢
  generalize recvMsgs around count.toNat 0 openFlags sleeps 0 dev dev = got at outcome returned ⊢
  obtain ⟨loop, same, rfl⟩ := Option.map_eq_some_iff.mp returned
  refine ⟨answersOf got.list loop, ?_⟩
  have bounded : got.list.length ≤ count.toNat := by
    rcases outcome with ⟨whole, _⟩ | ⟨part, _⟩
    · exact whole.le
    · exact part.le
  unfold pcanfdIoctlRecvMsgs
  dsimp only
  rw [recvLoop_answers _ _ _ _ (Nat.zero_le _) (by omega), List.drop_zero, Nat.zero_add]
  rcases outcome with ⟨whole, none_failed⟩ | ⟨part, _⟩
  · rw [if_pos whole]
    rw [same] at none_failed
    rw [Option.some.inj none_failed]
  · rw [if_neg part.ne]

/-- Both calls deal with the messages in order and tell how many. -/
theorem batch_calls (deviceWrite : Pcandev P → Pcandev P × Int) (around : Nat → Around P)
    (openFlags : U32) (list : List PcanfdTxmsg) (n : Nat) (sleeps : List (Sleep P))
    (dev : Pcandev P) :
    SendsInOrder deviceWrite openFlags list
        (ioctlSendMsgs deviceWrite around openFlags list sleeps dev) ∧
      ReceivesInOrder n openFlags (ioctlRecvMsgs around openFlags n sleeps dev) :=
  ⟨ioctlSendMsgs_sends deviceWrite around openFlags list sleeps dev,
    ioctlRecvMsgs_receives around openFlags n sleeps dev⟩

end Result

section Samples

def StartsTransmitter (done : BatchSent P) : Prop :=
  0 < done.count ∧ done.err ≠ none ∧ done.dev.isPlugged = true ∧ done.dev.busState ≠ .unknown ∧
    done.dev.busState ≠ .errorBusoff → done.dev.lockedTxEngineState = .started

instance (done : BatchSent P) : Decidable (StartsTransmitter done) :=
  inferInstanceAs (Decidable (_ → _))

def quietAround (_ : Nat) : Around P :=
  { host := sampleHost, stack := .zero, interrupts := ⟨id, fun _ => .same⟩, canWait := true }

def activeChannel (engine : TxEngine) : UsbDev :=
  { openedChannel ucanPort 4 4 0 with busState := .errorActive, lockedTxEngineState := engine }

def sendOne (submit : Int) (engine : TxEngine) : BatchSent UsbPort :=
  ioctlSendMsgs (pcanUsbWrite .ucan submit sampleHost) quietAround oNonblock [sampleFrame 1] []
    (activeChannel engine)

/-- An idle engine is not started, and one whose request is refused stops again. -/
theorem transmitter_not_started :
    ((sendOne 0 .idle).count = 1 ∧ (sendOne 0 .idle).err = some 0 ∧
        (sendOne 0 .idle).dev.writeFifo.items.length = 1 ∧
        (sendOne 0 .idle).dev.port.submitted.length = 0 ∧ ¬StartsTransmitter (sendOne 0 .idle)) ∧
      (sendOne (-12) .stopped).count = 1 ∧ (sendOne (-12) .stopped).err = some (-12) ∧
        (sendOne (-12) .stopped).dev.lockedTxEngineState = .stopped ∧
        ¬StartsTransmitter (sendOne (-12) .stopped) := by
  decide +kernel

example : (sendOne 0 .stopped).dev.lockedTxEngineState = .started := by
  decide +kernel

end Samples

end PcanDriver

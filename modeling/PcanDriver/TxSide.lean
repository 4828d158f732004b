import PcanDriver.RxEffects
import PcanDriver.TxPath

/-!
The transmit side of a channel, and that nothing on the receive path touches it:
posting messages, clearing status bits and the handlers of bus events leave the
transmit FIFO, the engine, the interface and the time base alone.
-/
namespace PcanDriver
variable {P : Type}

structure TransmitSide (P : Type) where
  nOpenPaths : Int
  nChannel : Nat
  isPlugged : Bool
  initSettings : PcanfdInit
  txIframeDelayUs : U32
  port : P
  writeFifo : BoundedQueue PcanfdTxmsg
  engine : TxEngine
  busState : PcanfdStatus
  timeSync : TimeSync

def Pcandev.transmit (dev : Pcandev P) : TransmitSide P :=
  ⟨dev.nOpenPaths, dev.nChannel, dev.isPlugged, dev.initSettings, dev.txIframeDelayUs, dev.port,
    dev.writeFifo, dev.lockedTxEngineState, dev.busState, dev.timeSync⟩

theorem RxOnly.transmit {dev dev' : Pcandev P} (only : RxOnly dev dev') :
    dev'.transmit = dev.transmit :=
  only.congr Pcandev.transmit fun _ _ => rfl

@[simp]
theorem pcanChardevRx_transmit (host : Host) (dev : Pcandev P) (rx : PcanfdRxmsg) :
    (pcanChardevRx host dev rx).1.transmit = dev.transmit :=
  (pcanChardevRx_only host dev rx).transmit

@[simp]
theorem pcanClearStatusBit_transmit (host : Host) (dev : Pcandev P) (bits : U16) :
    (pcanClearStatusBit host dev bits).transmit = dev.transmit :=
  (pcanClearStatusBit_only host dev bits).transmit

@[simp]
theorem postErrorCtrl_transmit (host : Host) (dev : Pcandev P) (stack : PcanfdRxmsg)
    (errCtrlr : PcanfdStatus) :
    (postErrorCtrl host dev stack errCtrlr).transmit = dev.transmit := by
  unfold postErrorCtrl
  rw [pcanChardevRx_transmit]
  rfl

def PcanfdStatus.isBusState : PcanfdStatus → Bool
  | .unknown | .errorActive | .errorWarning | .errorPassive | .errorBusoff => true
  | _ => false

theorem pcanSetBusState_transmit (dev : Pcandev P) {busState : PcanfdStatus}
    (state : busState.isBusState = true) :
    (pcanSetBusState dev busState).transmit = { dev.transmit with busState := busState } := by
  unfold pcanSetBusState
  split
  next same => rw [same]; rfl
  next =>
    cases busState with
    | unknown | errorActive | errorWarning | errorPassive | errorBusoff => rfl
    | rxEmpty | rxOverflow | txEmpty | txOverflow | busError | busLoad => cases state

theorem pcanHandleBusoff_transmit (dev : Pcandev P) (rx : PcanfdRxmsg) :
    (pcanHandleBusoff dev rx).1.transmit = { dev.transmit with busState := .errorBusoff } := by
  unfold pcanHandleBusoff
  split
  next off => exact (congrArg (fun s => { dev.transmit with busState := s }) off :)
  next => exact pcanSetBusState_transmit dev rfl

theorem pcanHandleErrorStatus_transmit (dev : Pcandev P) (rx : PcanfdRxmsg)
    (errWarning errPassive : Bool) :
    (pcanHandleErrorStatus dev rx errWarning errPassive).1.transmit =
      { dev.transmit with busState :=
        if errPassive then .errorPassive
        else if errWarning then .errorWarning else dev.busState } := by
  unfold pcanHandleErrorStatus
  cases errPassive <;> cases errWarning
  · simp only [Bool.false_eq_true, if_false]
    split <;> rfl
  all_goals exact pcanSetBusState_transmit _ rfl

theorem pcanDevStartWriting_cases (deviceWrite : Pcandev P → Pcandev P × Int) (dev : Pcandev P) :
    ((dev.busState = .unknown ∨ dev.lockedTxEngineState ≠ .stopped) ∧
        (pcanDevStartWriting deviceWrite dev).1 = dev) ∨
      (dev.busState ≠ .unknown ∧ dev.lockedTxEngineState = .stopped ∧
        (pcanDevStartWriting deviceWrite dev).1 = (deviceWrite dev).1) := by
  unfold pcanDevStartWriting
  split
  next unknown => exact .inl ⟨.inl unknown, rfl⟩
  next known =>
    split
    next stopped => exact .inr ⟨known, stopped, rfl⟩
    next running => exact .inl ⟨.inr running, rfl⟩

theorem pcanHandleErrorActive_cases (deviceWrite : Pcandev P → Pcandev P × Int)
    (dev : Pcandev P) (rx : PcanfdRxmsg) :
    (dev.busState ≠ .unknown ∧ (pcanHandleErrorActive deviceWrite dev rx).1 =
        pcanSetBusState dev .errorActive) ∨
      (dev.busState = .unknown ∧ (pcanHandleErrorActive deviceWrite dev rx).1 =
        (pcanDevStartWriting deviceWrite (pcanSetBusState dev .errorActive)).1) := by
  unfold pcanHandleErrorActive
  simp only
  split
  next unknown => exact .inr ⟨unknown, rfl⟩
  next known => exact .inl ⟨known, rfl⟩

theorem pcanHandleErrorActive_state {deviceWrite : Pcandev P → Pcandev P × Int}
    (kept : ∀ dev, (deviceWrite dev).1.busState = dev.busState) (dev : Pcandev P)
    (rx : PcanfdRxmsg) : (pcanHandleErrorActive deviceWrite dev rx).1.busState = .errorActive := by
  have entered : (pcanSetBusState dev .errorActive).busState = .errorActive :=
    congrArg TransmitSide.busState (pcanSetBusState_transmit dev rfl)
  rcases pcanHandleErrorActive_cases deviceWrite dev rx with ⟨_, same⟩ | ⟨_, started⟩
  · rw [same, entered]
  · rw [started]
    rcases pcanDevStartWriting_cases deviceWrite (pcanSetBusState dev .errorActive) with
      ⟨_, same⟩ | ⟨_, _, written⟩
    · rw [same, entered]
    · rw [written, kept, entered]

theorem checkTxType_length {dev : Pcandev P} {ptx checked : PcanfdTxmsg}
    (accepted : checkTxType dev ptx = .ok checked) :
    checked.msg.dataLen ≤ 8 ∨
      dev.initSettings.flags &&& pcanfdInitFd ≠ 0 ∧ checked.msg.dataLen ≤ 64 := by
  have classic : ∀ tx, checkClassic tx = .ok checked → checked.msg.dataLen ≤ 8 := by
    intro tx ok
    unfold checkClassic at ok
    split at ok
    next short => cases ok; exact short
    next => cases ok
  unfold checkTxType at accepted
  split at accepted
  next =>
    split at accepted
    next fd => cases accepted; exact .inr fd
    next => exact .inl (classic _ accepted)
  next => exact .inl (classic _ accepted)
  next => cases accepted

theorem checkTxmsg_length {dev : Pcandev P} {ptx checked : PcanfdTxmsg}
    (accepted : checkTxmsg dev ptx = .ok checked) :
    checked.msg.dataLen ≤ 8 ∨
      dev.initSettings.flags &&& pcanfdInitFd ≠ 0 ∧ checked.msg.dataLen ≤ 64 := by
  unfold checkTxmsg at accepted
  split at accepted
  next => cases accepted
  next typed ok =>
    split at accepted
    next => cases accepted
    next => cases accepted; exact checkTxType_length ok

theorem checkTxmsg_flags {dev : Pcandev P} {ptx checked : PcanfdTxmsg}
    (accepted : checkTxmsg dev ptx = .ok checked) : checked.msg.flags = ptx.msg.flags := by
  have classic : ∀ tx tx', checkClassic tx = .ok tx' → tx'.msg.flags = tx.msg.flags := by
    intro tx tx' ok
    unfold checkClassic at ok
    split at ok <;> cases ok
    rfl
  have typed : ∀ tx, checkTxType dev ptx = .ok tx → tx.msg.flags = ptx.msg.flags := by
    intro tx ok
    unfold checkTxType at ok
    split at ok
    next =>
      split at ok
      next => cases ok; rfl
      next => exact (classic _ _ ok).trans rfl
    next => exact classic _ _ ok
    next => cases ok
  unfold checkTxmsg at accepted
  split at accepted
  next => cases accepted
  next tx ok =>
    split at accepted
    next => cases accepted
    next => cases accepted; exact typed _ ok

/-- What `pcanfd_send_msg` can do to the transmit side. -/
inductive SendEffect (deviceWrite : Pcandev P → Pcandev P × Int) (dev : Pcandev P)
    (ptx : PcanfdTxmsg) (sent : Pcandev P × PcanfdTxmsg × SendResult) : Prop
  | refused (same : sent.1.transmit = dev.transmit) (result : sent.2.2 ≠ .queued)
  | queued (checked : PcanfdTxmsg) (tv : Timeval) (fifo : BoundedQueue PcanfdTxmsg)
      (accepted : checkTxmsg dev ptx = .ok checked) (online : dev.busState ≠ .errorBusoff)
      (items : fifo.items = dev.writeFifo.items ++ [{ checked with tv := tv }])
      (after : sent.1.transmit = { dev.transmit with writeFifo := fifo })
      (result : sent.2 = ({ checked with tv := tv }, .queued))
  | sleeping (waiting : Pcandev P) (same : waiting.transmit = dev.transmit)
      (online : dev.busState ≠ .errorBusoff)
      (after : sent.1 = (pcanDevStartWriting deviceWrite waiting).1) (result : sent.2.2 ≠ .queued)

theorem pcanfdSendMsg_effect (deviceWrite : Pcandev P → Pcandev P × Int) (host : Host)
    (stack : PcanfdRxmsg) (dev : Pcandev P) (ptx : PcanfdTxmsg) (nonblock : Bool) :
    SendEffect deviceWrite dev ptx (pcanfdSendMsg deviceWrite host stack dev ptx nonblock) := by
  unfold pcanfdSendMsg
  split
  next err _ => exact .refused rfl (by simp)
  next checked accepted =>
    split
    next => exact .refused rfl (by simp)
    next =>
      split
      next => exact .refused rfl (by simp)
      next online =>
        simp only
        split
        next stored =>
          exact .queued checked host.now _ accepted online (fifoPut_stored stored)
            (pcanClearStatusBit_transmit host _ canErrXmtfull) rfl
        next =>
          split
          next =>
            split
            next => exact .refused rfl (by simp)
            next => exact .refused (pcanChardevRx_transmit host _ _) (by simp)
          next =>
            exact .sleeping { dev with wCANStatus := dev.wCANStatus ||| canErrXmtfull } rfl online
              rfl (by simp)

/-- Frames under way over one `pcanfd_send_msg`: what an interface has to show of
    a queued frame and of its own writing. -/
theorem sendMsg_carried {inv : TransmitSide P → Prop}
    {carried : TransmitSide P → List PcanfdTxmsg} (deviceWrite : Pcandev P → Pcandev P × Int)
    (host : Host) (stack : PcanfdRxmsg) {dev : Pcandev P} (ptx : PcanfdTxmsg) (nonblock : Bool)
    (holds : inv dev.transmit)
    (queue : ∀ checked tv (fifo : BoundedQueue PcanfdTxmsg), checkTxmsg dev ptx = .ok checked →
      fifo.items = dev.writeFifo.items ++ [{ checked with tv := tv }] →
      inv { dev.transmit with writeFifo := fifo } ∧
        carried { dev.transmit with writeFifo := fifo } =
          carried dev.transmit ++ [{ checked with tv := tv }])
    (start : ∀ waiting : Pcandev P, inv waiting.transmit →
      inv (pcanDevStartWriting deviceWrite waiting).1.transmit ∧
        carried (pcanDevStartWriting deviceWrite waiting).1.transmit = carried waiting.transmit) :
    inv (pcanfdSendMsg deviceWrite host stack dev ptx nonblock).1.transmit ∧
      carried (pcanfdSendMsg deviceWrite host stack dev ptx nonblock).1.transmit =
        carried dev.transmit ++
          (acceptedFrame (pcanfdSendMsg deviceWrite host stack dev ptx nonblock)).toList := by
  have refuse : ∀ sent : Pcandev P × PcanfdTxmsg × SendResult, sent.2.2 ≠ .queued →
      acceptedFrame sent = none := by
    intro sent result
    unfold acceptedFrame
    split
    next queued => exact absurd queued result
    next => rfl
  cases pcanfdSendMsg_effect deviceWrite host stack dev ptx nonblock with
  | refused same result =>
    rw [same, refuse _ result]
    exact ⟨holds, (List.append_nil _).symm⟩
  | sleeping waiting same _ after result =>
    rw [after, refuse _ result, Option.toList_none, List.append_nil, ← same]
    exact start waiting (same ▸ holds)
  | queued checked tv fifo accepted _ items after result =>
    rw [after, acceptedFrame, result]
    exact queue checked tv fifo accepted items

def sampleHost : Host := ⟨⟨1, 0⟩, ⟨0, 0⟩⟩

def sampleFrame (id : U32) : PcanfdTxmsg :=
  ⟨{ PcanfdMsg.zero with type := .can20Msg, id := id }, ⟨0, 0⟩⟩

end PcanDriver

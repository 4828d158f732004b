import PcanDriver.PciTxProtocol
import PcanDriver.UsbPipeline

/-!
`tx_frames_counter`, the frames written on the device since it was opened, next to those
that the interface has really been handed. The USB encoders count what they pack before
the USB core has taken it, and the SJA1000 counts in its transmit interrupt only.
-/
namespace PcanDriver
open StepSystem
variable {P C : Type}

/-- The counter holds, modulo 2^32, the number of frames handed to the hardware. -/
def Tallied (handed : P → Nat) (dev : Pcandev P) : Prop :=
  dev.txFramesCounter = BitVec.ofNat 32 (handed dev.port)

instance decidableTallied (handed : P → Nat) (dev : Pcandev P) : Decidable (Tallied handed dev) :=
  inferInstanceAs (Decidable (_ = _))

def noWrite (dev : Pcandev P) : Pcandev P × Int := (dev, 0)

/-- `__pcan_dev_start_writing` has the interface write. -/
abbrev Startable (dev : Pcandev P) : Prop :=
  dev.busState ≠ .unknown ∧ dev.lockedTxEngineState = .stopped

/-- The channel before the write that a call makes, or after the call if it makes none. -/
def TxCall.prepared (dev : Pcandev P) : TxCall C → Pcandev P
  | .sendMsg host stack ptx nonblock _ | .ioctlSendMsg host stack ptx nonblock _ =>
    (pcanfdSendMsg noWrite host stack dev ptx nonblock).1
  | .startTxEngine .. | .deviceWrite .. | .complete .. => dev
  | .errorActive .. => pcanSetBusState dev .errorActive
  | .errorStatus _ rx errWarning errPassive =>
    (pcanHandleErrorStatus dev rx errWarning errPassive).1
  | .busoff _ rx => (pcanHandleBusoff dev rx).1

/-- The call comes to `device_write`, other than from a completion. -/
def TxCall.writes (dev : Pcandev P) : TxCall C → Bool
  | .sendMsg host stack ptx nonblock _ =>
    let sent := pcanfdSendMsg noWrite host stack dev ptx nonblock
    sent.2.2 = .sleeping ∧ Startable sent.1
  | .ioctlSendMsg host stack ptx nonblock _ =>
    let sent := pcanfdSendMsg noWrite host stack dev ptx nonblock
    (sent.2.2 = .queued ∨ sent.2.2 = .sleeping) ∧ Startable sent.1
  | .startTxEngine .. => Startable dev
  | .deviceWrite .. => true
  | .errorActive .. => dev.busState = .unknown ∧ Startable (pcanSetBusState dev .errorActive)
  | .complete .. | .errorStatus .. | .busoff .. => false

/-- The part of a channel that a write changes and the counter depends on. -/
def Pcandev.counted (dev : Pcandev P) : TransmitSide P × U32 := (dev.transmit, dev.txFramesCounter)

/-- What an interface has been handed, and when a write that is answered in the way of
    the integer, or a completion of its kind, is counted right. -/
structure Counting (backend : TxBackend P C) where
  handed : P → Nat
  ready : TransmitSide P → Prop
  WriteOk : Int → Pcandev P → Prop
  CompleteOk : Int → C → Pcandev P → Prop

section Counting
variable {backend : TxBackend P C}

structure Counting.Lawful (counting : Counting backend) : Prop where
  busState : ∀ t state, counting.ready t → counting.ready { t with busState := state }
  queue : ∀ (dev : Pcandev P) ptx checked tv (fifo : BoundedQueue PcanfdTxmsg),
    counting.ready dev.transmit → checkTxmsg dev ptx = .ok checked →
    fifo.items = dev.writeFifo.items ++ [{ checked with tv := tv }] →
    fifo.capacity = dev.writeFifo.capacity →
    counting.ready { dev.transmit with writeFifo := fifo }
  write : ∀ answer host dev, counting.ready dev.transmit →
    counting.ready (backend.write answer host dev).1.transmit ∧
      (Tallied counting.handed dev →
        (Tallied counting.handed (backend.write answer host dev).1 ↔ counting.WriteOk answer dev))
  complete : ∀ answer host stack how dev, counting.ready dev.transmit →
    counting.ready (backend.complete answer host stack how dev).transmit ∧
      (Tallied counting.handed dev →
        (Tallied counting.handed (backend.complete answer host stack how dev) ↔
          counting.CompleteOk answer how dev))

/-- A call that is counted right: whatever write it makes, on the channel as it is then. -/
def Counting.Counts (counting : Counting backend) (dev : Pcandev P) (call : TxCall C) : Prop :=
  match call with
  | .complete _ _ how answer =>
    backend.outstanding dev.port = true → counting.CompleteOk answer how dev
  | call => call.writes dev = true → counting.WriteOk call.answer (call.prepared dev)

theorem counted_tallied {handed : P → Nat} {a b : Pcandev P} (same : a.counted = b.counted) :
    Tallied handed a ↔ Tallied handed b := by
  have transmit : a.transmit = b.transmit := congrArg Prod.fst same
  have port : a.port = b.port := congrArg TransmitSide.port transmit
  have counter : a.txFramesCounter = b.txFramesCounter := congrArg Prod.snd same
  unfold Tallied
  rw [port, counter]

theorem counted_transmit {a b : Pcandev P} (same : a.counted = b.counted) :
    a.transmit = b.transmit :=
  congrArg Prod.fst same

theorem RxOnly.counted {dev dev' : Pcandev P} (only : RxOnly dev dev') :
    dev'.counted = dev.counted :=
  only.congr Pcandev.counted fun _ _ => rfl

theorem pcanChardevRx_counted (host : Host) (dev : Pcandev P) (rx : PcanfdRxmsg) :
    (pcanChardevRx host dev rx).1.counted = dev.counted :=
  (pcanChardevRx_only host dev rx).counted

theorem postErrorCtrl_counted (host : Host) (dev : Pcandev P) (stack : PcanfdRxmsg)
    (errCtrlr : PcanfdStatus) : (postErrorCtrl host dev stack errCtrlr).counted = dev.counted := by
  unfold postErrorCtrl
  rw [pcanChardevRx_counted]
  rfl

theorem pcanSetBusState_counter (dev : Pcandev P) (state : PcanfdStatus) :
    (pcanSetBusState dev state).txFramesCounter = dev.txFramesCounter := by
  unfold pcanSetBusState
  split
  · rfl
  · cases state <;> rfl

theorem fifoPut_capacity {A : Type} (fifo : BoundedQueue A) (x : A) :
    (fifoPut fifo x).1.capacity = fifo.capacity := by
  by_cases room : fifo.items.length < fifo.capacity
  · exact (fifoPut_room x room).2.1
  · have full : fifo.items.length = fifo.capacity := by
      have := fifo.fits
      omega
    rw [fifoPut_full x full]

theorem startWriting_noWrite (dev : Pcandev P) : (pcanDevStartWriting noWrite dev).1 = dev := by
  rcases pcanDevStartWriting_cases noWrite dev with ⟨_, same⟩ | ⟨_, _, same⟩
  · exact same
  · exact same

theorem pcanfdSendMsg_noWrite (deviceWrite : Pcandev P → Pcandev P × Int) (host : Host)
    (stack : PcanfdRxmsg) (dev : Pcandev P) (ptx : PcanfdTxmsg) (nonblock : Bool) :
    pcanfdSendMsg deviceWrite host stack dev ptx nonblock =
      let idle := pcanfdSendMsg noWrite host stack dev ptx nonblock
      if idle.2.2 = .sleeping then ((pcanDevStartWriting deviceWrite idle.1).1, idle.2)
      else idle := by
  unfold pcanfdSendMsg
  split
  next => rfl
  next =>
    split
    next => rfl
    next =>
      split
      next => rfl
      next =>
        simp only
        split
        next => rfl
        next =>
          split
          next => split <;> rfl
          next => simp only [if_true, startWriting_noWrite]

/-- What a call may have made of the channel by the time it writes. -/
structure Prepared (dev start : Pcandev P) : Prop where
  counter : start.txFramesCounter = dev.txFramesCounter
  transmit : start.transmit = dev.transmit ∨
    (∃ ptx checked tv, ∃ fifo : BoundedQueue PcanfdTxmsg, checkTxmsg dev ptx = .ok checked ∧
      fifo.items = dev.writeFifo.items ++ [{ checked with tv := tv }] ∧
      fifo.capacity = dev.writeFifo.capacity ∧
      start.transmit = { dev.transmit with writeFifo := fifo }) ∨
    ∃ state, start.transmit = { dev.transmit with busState := state }

theorem Prepared.refl (dev : Pcandev P) : Prepared dev dev := ⟨rfl, .inl rfl⟩

theorem Prepared.of_counted {dev start : Pcandev P} (same : start.counted = dev.counted) :
    Prepared dev start :=
  ⟨congrArg Prod.snd same, .inl (congrArg Prod.fst same)⟩

theorem pcanfdSendMsg_prepared (host : Host) (stack : PcanfdRxmsg) (dev : Pcandev P)
    (ptx : PcanfdTxmsg) (nonblock : Bool) :
    Prepared dev (pcanfdSendMsg noWrite host stack dev ptx nonblock).1 := by
  unfold pcanfdSendMsg
  split
  next => exact .refl dev
  next checked accepted =>
    split
    next => exact .refl dev
    next =>
      split
      next => exact .refl dev
      next =>
        simp only
        split
        next stored =>
          have only := @pcanClearStatusBit_only _ host
            { dev with writeFifo := (fifoPut dev.writeFifo { checked with tv := host.now }).1 }
            canErrXmtfull
          refine ⟨congrArg Prod.snd only.counted, .inr (.inl ⟨ptx, checked, host.now, _, accepted,
            fifoPut_stored stored, ?_, only.transmit⟩)⟩
          exact fifoPut_capacity _ _
        next =>
          split
          next =>
            split
            next => exact .refl dev
            next => exact .of_counted (pcanChardevRx_counted host _ _)
          next =>
            rw [startWriting_noWrite]
            exact ⟨rfl, .inl rfl⟩

theorem pcanHandleErrorStatus_counter (dev : Pcandev P) (rx : PcanfdRxmsg)
    (errWarning errPassive : Bool) :
    (pcanHandleErrorStatus dev rx errWarning errPassive).1.txFramesCounter =
      dev.txFramesCounter := by
  unfold pcanHandleErrorStatus
  cases errPassive <;> cases errWarning
  · simp only [Bool.false_eq_true, if_false]
    split <;> rfl
  all_goals exact pcanSetBusState_counter _ _

theorem pcanHandleBusoff_counter (dev : Pcandev P) (rx : PcanfdRxmsg) :
    (pcanHandleBusoff dev rx).1.txFramesCounter = dev.txFramesCounter := by
  unfold pcanHandleBusoff
  split
  next => rfl
  next => exact pcanSetBusState_counter dev _

theorem prepared_prepared (dev : Pcandev P) (call : TxCall C) :
    Prepared dev (call.prepared dev) := by
  cases call with
  | sendMsg host stack ptx nonblock answer | ioctlSendMsg host stack ptx nonblock answer =>
    exact pcanfdSendMsg_prepared host stack dev ptx nonblock
  | startTxEngine | deviceWrite | complete => exact .refl dev
  | errorActive =>
    exact ⟨pcanSetBusState_counter dev .errorActive,
      .inr (.inr ⟨_, pcanSetBusState_transmit dev rfl⟩)⟩
  | errorStatus host rx errWarning errPassive =>
    exact ⟨pcanHandleErrorStatus_counter dev rx errWarning errPassive,
      .inr (.inr ⟨_, pcanHandleErrorStatus_transmit dev rx errWarning errPassive⟩)⟩
  | busoff host rx =>
    exact ⟨pcanHandleBusoff_counter dev rx, .inr (.inr ⟨_, pcanHandleBusoff_transmit dev rx⟩)⟩

theorem startWriting_eq (deviceWrite : Pcandev P → Pcandev P × Int) (dev : Pcandev P) :
    (pcanDevStartWriting deviceWrite dev).1 =
      if Startable dev then (deviceWrite dev).1 else dev := by
  rcases pcanDevStartWriting_cases deviceWrite dev with ⟨idle, same⟩ | ⟨known, stopped, same⟩
  · have blocked : ¬Startable dev := by
      rintro ⟨known, stopped⟩
      exact idle.elim known fun running => running stopped
    rw [same, if_neg blocked]
  · rw [same, if_pos ⟨known, stopped⟩]

theorem txStep_counted (backend : TxBackend P C) (dev : Pcandev P) {call : TxCall C}
    (other : ∀ host stack how answer, call ≠ .complete host stack how answer) :
    ∃ host, (txStep backend dev call).1.counted =
      if call.writes dev then (backend.write call.answer host (call.prepared dev)).1.counted
      else (call.prepared dev).counted := by
  cases call with
  | sendMsg host stack ptx nonblock answer =>
    refine ⟨host, ?_⟩
    simp only [txStep, TxCall.writes, TxCall.prepared, TxCall.answer, decide_eq_true_eq]
    rw [pcanfdSendMsg_noWrite]
    simp only [startWriting_eq]
    by_cases sleeping : (pcanfdSendMsg noWrite host stack dev ptx nonblock).2.2 = .sleeping
    · simp only [sleeping, if_true, true_and]
      split <;> rfl
    · simp only [sleeping, if_false, false_and]
  | ioctlSendMsg host stack ptx nonblock answer =>
    refine ⟨host, ?_⟩
    simp only [txStep, TxCall.writes, TxCall.prepared, TxCall.answer, decide_eq_true_eq]
    unfold pcanfdIoctlSendMsg
    rw [pcanfdSendMsg_noWrite]
    cases result : (pcanfdSendMsg noWrite host stack dev ptx nonblock).2.2 with
    | queued =>
      simp only [reduceCtorEq, if_false, result, startWriting_eq, true_or, true_and]
      split <;> rfl
    | sleeping =>
      simp only [if_true, result, startWriting_eq, or_true, true_and]
      split <;> rfl
    | refused err => simp only [reduceCtorEq, if_false, result, or_self, false_and]
  | startTxEngine host answer =>
    refine ⟨host, ?_⟩
    simp only [txStep, TxCall.writes, TxCall.prepared, TxCall.answer, startWriting_eq,
      decide_eq_true_eq]
    split <;> rfl
  | deviceWrite host answer => exact ⟨host, rfl⟩
  | complete host stack how answer => exact absurd rfl (other host stack how answer)
  | errorActive host rx answer =>
    refine ⟨host, ?_⟩
    simp only [txStep, TxCall.writes, TxCall.prepared, TxCall.answer, pcanChardevRx_counted,
      decide_eq_true_eq]
    rcases pcanHandleErrorActive_cases (backend.write answer host) dev rx with
      ⟨known, same⟩ | ⟨unknown, same⟩
    · rw [same, if_neg fun both => known both.1]
    · rw [same, startWriting_eq]
      simp only [unknown, true_and]
      split <;> rfl
  | errorStatus host rx errWarning errPassive =>
    exact ⟨host, pcanChardevRx_counted host _ _⟩
  | busoff host rx => exact ⟨host, pcanChardevRx_counted host _ _⟩

variable {counting : Counting backend}

theorem Counting.Lawful.prepared (lawful : counting.Lawful) {dev start : Pcandev P}
    (prepared : Prepared dev start) (ready : counting.ready dev.transmit) :
    counting.ready start.transmit := by
  rcases prepared.transmit with
    same | ⟨ptx, checked, tv, fifo, accepted, items, capacity, queued⟩ | ⟨state, entered⟩
  · rw [same]
    exact ready
  · rw [queued]
    exact lawful.queue dev ptx checked tv fifo ready accepted items capacity
  · rw [entered]
    exact lawful.busState _ state ready

theorem Prepared.tallied {handed : P → Nat} {dev start : Pcandev P}
    (prepared : Prepared dev start) : Tallied handed start ↔ Tallied handed dev := by
  have port : start.port = dev.port := by
    rcases prepared.transmit with same | ⟨_, _, _, _, _, _, _, same⟩ | ⟨_, same⟩ <;>
      exact congrArg TransmitSide.port same
  unfold Tallied
  rw [port, prepared.counter]

/-- One call: the interface stays fit for the next one, and the counter stays right exactly
    if the call is counted right. -/
theorem txStep_tallied (lawful : counting.Lawful) {dev : Pcandev P} (call : TxCall C)
    (ready : counting.ready dev.transmit) :
    counting.ready (txStep backend dev call).1.transmit ∧
      (Tallied counting.handed dev →
        (Tallied counting.handed (txStep backend dev call).1 ↔ counting.Counts dev call)) := by
  by_cases other : ∀ host stack how answer, call ≠ .complete host stack how answer
  · obtain ⟨host, counted⟩ := txStep_counted backend dev other
    have counts : counting.Counts dev call ↔
        (call.writes dev = true → counting.WriteOk call.answer (call.prepared dev)) := by
      cases call with
      | complete host stack how answer => exact absurd rfl (other host stack how answer)
      | sendMsg | ioctlSendMsg | startTxEngine | deviceWrite | errorActive | errorStatus
        | busoff => exact Iff.rfl
    have prepared := prepared_prepared dev call
    have fit := lawful.prepared prepared ready
    rw [counts]
    split at counted
    next writes =>
      obtain ⟨fit', written⟩ := lawful.write call.answer host _ fit
      refine ⟨counted_transmit counted ▸ fit', fun tallied => ?_⟩
      rw [counted_tallied counted, written (prepared.tallied.mpr tallied)]
      exact ⟨fun ok _ => ok, fun ok => ok writes⟩
    next idle =>
      refine ⟨counted_transmit counted ▸ fit, fun tallied => ?_⟩
      rw [counted_tallied counted, prepared.tallied]
      exact ⟨fun _ writes => absurd writes idle, fun _ => tallied⟩
  · obtain ⟨host, stack, how, answer, rfl⟩ : ∃ host stack how answer,
        call = .complete host stack how answer := by
      simpa only [not_forall, not_not] using other
    simp only [txStep, Counting.Counts]
    split
    next outstanding =>
      obtain ⟨fit, completed⟩ := lawful.complete answer host stack how dev ready
      refine ⟨fit, fun tallied => (completed tallied).trans ?_⟩
      exact ⟨fun ok _ => ok, fun ok => ok outstanding⟩
    next none_outstanding =>
      exact ⟨ready, fun tallied => ⟨fun _ writes => absurd writes none_outstanding,
        fun _ => tallied⟩⟩

theorem run_tallied (lawful : counting.Lawful) {dev : Pcandev P} (calls : List (TxCall C))
    (ready : counting.ready dev.transmit) (start : Tallied counting.handed dev) :
    (∀ s ∈ states (txStep backend) dev calls, Tallied counting.handed s) ↔
      Admitted counting.Counts (txStep backend) dev calls := by
  have everything := admitted_true (txStep backend) dev calls
  have fit : ∀ s ∈ states (txStep backend) dev calls, counting.ready s.transmit :=
    @states_invariant _ _ _ (txStep backend) (fun _ _ => True)
      (fun s : Pcandev P => counting.ready s.transmit)
      (fun _ call ready _ => (txStep_tallied lawful call ready).1) _ _ ready everything
  have kept := @states_iff_admitted _ _ _ (txStep backend) (fun _ _ => True) counting.Counts
    (fun s : Pcandev P => counting.ready s.transmit ∧ Tallied counting.handed s)
    (fun _ call holds _ =>
      have step := txStep_tallied lawful call holds.1
      ⟨fun after => (step.2 holds.2).mp after.2, fun ok => ⟨step.1, (step.2 holds.2).mpr ok⟩⟩)
    _ _ ⟨ready, start⟩ everything
  rw [← kept]
  exact ⟨fun all s mem => ⟨fit s mem, all s mem⟩, fun all s mem => (all s mem).2⟩

end Counting

theorem tallied_step {handed : P → Nat} {dev dev' : Pcandev P} (tallied : Tallied handed dev)
    {counted more : Nat}
    (counter : dev'.txFramesCounter = dev.txFramesCounter + BitVec.ofNat 32 counted)
    (added : handed dev'.port = handed dev.port + more) :
    Tallied handed dev' ↔ counted % 2 ^ 32 = more % 2 ^ 32 := by
  unfold Tallied at tallied ⊢
  rw [counter, added, tallied, ← BitVec.ofNat_add, ← BitVec.toNat_inj, BitVec.toNat_ofNat,
    BitVec.toNat_ofNat]
  omega

theorem tallied_same {handed : P → Nat} {dev dev' : Pcandev P} (tallied : Tallied handed dev)
    (counter : dev'.txFramesCounter = dev.txFramesCounter)
    (same : handed dev'.port = handed dev.port) : Tallied handed dev' := by
  unfold Tallied
  rw [counter, same]
  exact tallied

section Sja1000

/-- Only the transmit interrupt counts, so a frame that is written by anybody else is
    missing. -/
def sja1000Counting : Counting sja1000Backend where
  handed port := port.requests.length
  ready _ := True
  WriteOk _ dev := dev.port.txBusy = true ∨ dev.writeFifo.items = []
  CompleteOk _ _ _ := True

theorem sja1000WriteNext_tally (dev : Sja1000Dev) :
    dev.writeFifo.items = [] ∧ sja1000WriteNext dev = (dev, -enodata) ∨
      dev.writeFifo.items ≠ [] ∧ (sja1000WriteNext dev).2 = 0 ∧
        (sja1000WriteNext dev).1.txFramesCounter = dev.txFramesCounter ∧
        (sja1000WriteNext dev).1.port.requests.length = dev.port.requests.length + 1 := by
  unfold sja1000WriteNext BoundedQueue.oldest
  cases items : dev.writeFifo.items with
  | nil => exact .inl ⟨rfl, rfl⟩
  | cons tx rest => exact .inr ⟨List.cons_ne_nil _ _, rfl, rfl, List.length_append⟩

theorem sja1000Write_tally {dev : Sja1000Dev} (tallied : Tallied sja1000Counting.handed dev) :
    Tallied sja1000Counting.handed (sja1000Write dev).1 ↔
      (dev.port.txBusy = true ∨ dev.writeFifo.items = []) := by
  unfold sja1000Write
  by_cases busy : dev.port.txBusy = true
  · rw [if_pos busy]
    exact ⟨fun _ => .inl busy, fun _ => tallied⟩
  · rw [if_neg busy]
    rcases sja1000WriteNext_tally dev with ⟨empty, same⟩ | ⟨frames, _, counter, more⟩
    · rw [same]
      exact ⟨fun _ => .inr empty, fun _ => tallied⟩
    · rw [@tallied_step _ _ _ _ tallied 0 1 (counter.trans (BitVec.add_zero _).symm) more]
      constructor
      · intro same
        omega
      · rintro (still | nothing)
        · exact absurd still busy
        · exact absurd nothing frames

theorem sja1000TransmitInterrupt_tally {dev : Sja1000Dev}
    (tallied : Tallied sja1000Counting.handed dev) :
    Tallied sja1000Counting.handed (sja1000TransmitInterrupt dev) := by
  have free : Tallied sja1000Counting.handed
      { dev with port := { dev.port with txBusy := false } } := tallied
  unfold sja1000TransmitInterrupt
  rcases sja1000WriteNext_tally { dev with port := { dev.port with txBusy := false } } with
    ⟨_, same⟩ | ⟨_, result, counter, more⟩
  · simp only [same, if_true]
    exact tallied_same tallied rfl rfl
  · dsimp only
    rw [if_neg (by rw [result]; decide), if_pos result]
    exact Iff.mpr (@tallied_step _ _ _ _ free 1 1 (congrArg (· + 1) counter) more) rfl

theorem sja1000Counting_lawful : sja1000Counting.Lawful where
  busState _ _ _ := trivial
  queue _ _ _ _ _ _ _ _ _ := trivial
  write _ _ _ _ := ⟨trivial, sja1000Write_tally⟩
  complete _ _ _ _ _ _ := ⟨trivial, fun tallied =>
    ⟨fun _ => trivial, fun _ => sja1000TransmitInterrupt_tally tallied⟩⟩

end Sja1000

section Usb
variable {family : UsbFamily}

/-- Sizes as probed, frames as `pcanfd_send_msg` accepts them, and a FIFO whose members
    are counted in 32 bits. -/
structure UsbCountable (family : UsbFamily) (t : TransmitSide UsbPort) : Prop where
  sizes : (t.port.writePacketSize, t.port.writeBufferSize) ∈ usbWriteSizes family
  sendable : ∀ tx ∈ t.writeFifo.items, Sendable family tx
  classic : family ≠ .ucan → t.initSettings.flags &&& pcanfdInitFd = 0
  capacity : t.writeFifo.capacity < 2 ^ 32

/-- The frames of a buffer that the USB core refuses are counted and lost. -/
def UsbWriteOk (family : UsbFamily) (submit : Int) (dev : UsbDev) : Prop :=
  submit = 0 ∨ dev.isPlugged = false ∨ ∀ tx ∈ dev.writeFifo.items, Skipped family tx = true

instance decidableUsbWriteOk (family : UsbFamily) (submit : Int) (dev : UsbDev) :
    Decidable (UsbWriteOk family submit dev) :=
  inferInstanceAs (Decidable (_ ∨ _ ∨ _))

def usbCounting (family : UsbFamily) : Counting (usbBackend family) where
  handed port := (port.submitted.flatMap Submission.frames).length
  ready := UsbCountable family
  WriteOk := UsbWriteOk family
  CompleteOk submit status dev := status = 0 → UsbWriteOk family submit dev

theorem UsbCountable.usable {t : TransmitSide UsbPort} (countable : UsbCountable family t)
    (plugged : t.isPlugged = true) : UsbReady family t :=
  ⟨plugged, countable.sizes, countable.sendable, countable.classic⟩

theorem fillWriteBuffer_empty_iff {dev : UsbDev} (ready : UsbReady family dev.transmit) :
    (fillWriteBuffer family dev).length = 0 ↔
      ∀ tx ∈ dev.writeFifo.items, Skipped family tx = true := by
  have spec := fillWriteBuffer_spec ready
  rw [← spec.account]
  constructor
  · intro empty tx mem
    obtain ⟨drained, none_packed⟩ := spec.nothing empty
    rw [drained, List.append_nil] at mem
    obtain ⟨e, packet, taken⟩ := List.mem_flatMap.mp mem
    by_contra whole
    have packed : tx ∈ e.packed := by
      rw [(spec.packets e packet).packed, List.mem_filter]
      exact ⟨taken, by simpa using whole⟩
    rw [none_packed e packet] at packed
    exact absurd packed List.not_mem_nil
  · intro skipped
    by_contra some_length
    obtain ⟨e, packet, nonempty⟩ := spec.something (Nat.pos_of_ne_zero some_length)
    apply nonempty
    rw [(spec.packets e packet).packed, List.filter_eq_nil_iff]
    intro tx taken
    rw [skipped tx (List.mem_append_left _ (List.mem_flatMap.mpr ⟨e, packet, taken⟩))]
    decide

theorem packed_length (packets : List Encoded) :
    (packets.map (·.packed.length)).sum = (packets.flatMap (·.packed)).length :=
  List.length_flatMap.symm

theorem packed_le {dev : UsbDev} (ready : UsbReady family dev.transmit) :
    ((fillWriteBuffer family dev).packets.map (·.packed.length)).sum ≤
      dev.writeFifo.items.length := by
  have spec := fillWriteBuffer_spec ready
  have packed : (fillWriteBuffer family dev).packets.flatMap (·.packed) =
      ((fillWriteBuffer family dev).packets.flatMap (·.taken)).filter (!Skipped family ·) := by
    rw [List.filter_flatMap]
    exact List.flatMap_congr fun e packet => (spec.packets e packet).packed
  rw [packed_length, packed, ← spec.account, List.length_append]
  exact Nat.le_add_right_of_le (List.length_filter_le _ _)

theorem packed_pos {dev : UsbDev} (ready : UsbReady family dev.transmit)
    (some_length : 0 < (fillWriteBuffer family dev).length) :
    0 < ((fillWriteBuffer family dev).packets.map (·.packed.length)).sum := by
  obtain ⟨e, packet, nonempty⟩ := (fillWriteBuffer_spec ready).something some_length
  rw [packed_length, List.length_pos_iff]
  intro none_packed
  exact nonempty (List.flatMap_eq_nil_iff.mp none_packed e packet)

theorem packed_none {dev : UsbDev} (ready : UsbReady family dev.transmit)
    (no_length : (fillWriteBuffer family dev).length = 0) :
    ((fillWriteBuffer family dev).packets.map (·.packed.length)).sum = 0 := by
  rw [packed_length, List.flatMap_eq_nil_iff.mpr ((fillWriteBuffer_spec ready).nothing no_length).2]
  rfl

theorem encodedDev_countable {dev : UsbDev} (countable : UsbCountable family dev.transmit)
    (plugged : dev.isPlugged = true) (engine : TxEngine) {port : UsbPort}
    (packet : port.writePacketSize = dev.port.writePacketSize)
    (buffer : port.writeBufferSize = dev.port.writeBufferSize) :
    UsbCountable family { (encodedDev dev (fillWriteBuffer family dev)).transmit with
      engine := engine, port := port } where
  sizes := by
    rw [packet, buffer]
    exact countable.sizes
  sendable tx mem := by
    have spec := fillWriteBuffer_spec (countable.usable plugged)
    apply countable.sendable
    show tx ∈ dev.writeFifo.items
    rw [← spec.account]
    exact List.mem_append_right _ (encodedDev_items spec.account ▸ mem)
  classic := countable.classic
  capacity := countable.capacity

theorem startUrb_tally {dev : UsbDev} (w : WriteLoop)
    (tallied : Tallied (usbCounting family).handed dev) :
    Tallied (usbCounting family).handed (startUrb (encodedDev dev w) w) := by
  have more : (usbCounting family).handed (startUrb (encodedDev dev w) w).port =
      (usbCounting family).handed dev.port + (w.packets.map (·.packed.length)).sum := by
    show ((dev.port.submitted ++ [_]).flatMap Submission.frames).length = _
    rw [List.flatMap_append, List.length_append, packed_length, List.flatMap_singleton]
    rfl
  exact (tallied_step tallied rfl more).mpr rfl

theorem encodedDev_tally {dev : UsbDev} (w : WriteLoop)
    (tallied : Tallied (usbCounting family).handed dev) :
    Tallied (usbCounting family).handed (encodedDev dev w) ↔
      (w.packets.map (·.packed.length)).sum % 2 ^ 32 = 0 :=
  @tallied_step _ _ dev (encodedDev dev w) tallied _ 0 rfl rfl

/-- A plugged interface with frames to write counts them, whatever the USB core says. -/
theorem pcanUsbWrite_tally (submit : Int) (host : Host) {dev : UsbDev}
    (countable : UsbCountable family dev.transmit) :
    UsbCountable family (pcanUsbWrite family submit host dev).1.transmit ∧
      (Tallied (usbCounting family).handed dev →
        (Tallied (usbCounting family).handed (pcanUsbWrite family submit host dev).1 ↔
          UsbWriteOk family submit dev)) := by
  by_cases plugged : dev.isPlugged = true
  · have ready := countable.usable plugged
    have written : ¬dev.isPlugged = false := by simp [plugged]
    unfold pcanUsbWrite
    simp only [plugged, Bool.not_true, Bool.false_eq_true, if_false]
    by_cases some_length : 0 < (fillWriteBuffer family dev).length
    · have whole : ¬∀ tx ∈ dev.writeFifo.items, Skipped family tx = true := by
        rw [← fillWriteBuffer_empty_iff ready]
        omega
      have few := packed_le ready
      have counted := packed_pos ready some_length
      have fits := dev.writeFifo.fits
      have capacity : dev.writeFifo.capacity < 2 ^ 32 := countable.capacity
      rw [if_pos some_length]
      by_cases taken : submit = 0
      · rw [if_pos taken]
        have only := @pcanClearStatusBit_only _ host
          (startUrb (encodedDev dev (fillWriteBuffer family dev)) (fillWriteBuffer family dev))
          canErrQxmtfull
        refine ⟨?_, fun tallied => ?_⟩
        · rw [only.transmit]
          exact encodedDev_countable countable plugged .started rfl rfl
        rw [counted_tallied only.counted]
        refine ⟨fun _ => .inl taken, fun _ => ?_⟩
        exact startUrb_tally (fillWriteBuffer family dev) tallied
      · rw [if_neg taken]
        refine ⟨encodedDev_countable countable plugged .stopped rfl rfl, fun tallied => ?_⟩
        refine Iff.trans (encodedDev_tally (fillWriteBuffer family dev) tallied) ?_
        constructor
        · intro same
          omega
        · rintro (accepted | unplugged | skipped)
          · exact absurd accepted taken
          · exact absurd unplugged written
          · exact absurd skipped whole
    · have no_length : (fillWriteBuffer family dev).length = 0 := by omega
      rw [if_neg some_length]
      refine ⟨encodedDev_countable countable plugged .stopped rfl rfl, fun tallied => ?_⟩
      refine ⟨fun _ => .inr (.inr ((fillWriteBuffer_empty_iff ready).mp no_length)), fun _ => ?_⟩
      refine Iff.mpr (encodedDev_tally (fillWriteBuffer family dev) tallied) ?_
      rw [packed_none ready no_length, Nat.zero_mod]
  · rw [Bool.not_eq_true] at plugged
    unfold pcanUsbWrite
    simp only [plugged, Bool.not_false, if_true]
    exact ⟨countable, fun tallied => ⟨fun _ => .inr (.inl plugged), fun _ => tallied⟩⟩

theorem pcanUsbWriteNotify_tally (submit : Int) (host : Host) (stack : PcanfdRxmsg) (status : Int)
    {dev : UsbDev} (countable : UsbCountable family dev.transmit) :
    UsbCountable family (pcanUsbWriteNotify family submit host stack status dev).transmit ∧
      (Tallied (usbCounting family).handed dev →
        (Tallied (usbCounting family).handed
            (pcanUsbWriteNotify family submit host stack status dev) ↔
          (status = 0 → UsbWriteOk family submit dev))) := by
  have released : UsbCountable family (releaseUrb dev).transmit :=
    ⟨countable.sizes, countable.sendable, countable.classic, countable.capacity⟩
  unfold pcanUsbWriteNotify
  by_cases success : status = 0
  · obtain ⟨fit, written⟩ := pcanUsbWrite_tally submit host released
    have posted : ∀ written : UsbDev × Int,
        Pcandev.counted (if written.2 = 0 ∨ written.2 = -enodata then written.1
          else if written.1.wCANStatus &&& canErrQxmtfull = 0 then
            postErrorCtrl host written.1 stack .txOverflow
          else written.1) = written.1.counted := by
      intro written
      split
      next => rfl
      next =>
        split
        next => exact postErrorCtrl_counted host written.1 stack .txOverflow
        next => rfl
    have same := posted (pcanUsbWrite family submit host (releaseUrb dev))
    simp only [success, if_true, forall_const]
    refine ⟨counted_transmit same ▸ fit, fun tallied => ?_⟩
    rw [counted_tallied same]
    exact written tallied
  · simp only [success, if_false, false_implies, iff_true]
    obtain ⟨sizes, sendable, classic, capacity⟩ := released
    split
    next => exact ⟨⟨sizes, sendable, classic, capacity⟩, fun tallied => tallied⟩
    next => exact ⟨⟨sizes, sendable, classic, capacity⟩, fun tallied => tallied⟩

theorem usbCounting_lawful (family : UsbFamily) : (usbCounting family).Lawful where
  busState t _ ready := ⟨ready.sizes, ready.sendable, ready.classic, ready.capacity⟩
  queue dev ptx checked tv fifo ready accepted items capacity := by
    refine ⟨ready.sizes, fun tx mem => ?_, ready.classic, capacity ▸ ready.capacity⟩
    rw [items, List.mem_append, List.mem_singleton] at mem
    rcases mem with before | rfl
    · exact ready.sendable tx before
    · exact (checkTxmsg_sendable ready.classic accepted : Sendable family checked)
  write submit host dev ready := pcanUsbWrite_tally submit host ready
  complete submit host stack status dev ready :=
    pcanUsbWriteNotify_tally submit host stack status ready

end Usb

section Pci

inductive PciEvent where
  | lnkIrq
  | rxBarrier
  | followLink
deriving Repr, DecidableEq

/-- `device_write` is only called on a stopped engine. Nothing answers a write into a DMA
    page; the integer merely tells in which memory a notice of the write is made. -/
def pciBackend (memory : Int → PcanfdRxmsg) : TxBackend PciPort PciEvent where
  write answer host dev :=
    if dev.lockedTxEngineState = .stopped then pcifdDeviceWrite host (memory answer) dev
    else (dev, 0)
  complete _ host stack event dev :=
    match event with
    | .lnkIrq => if 0 < dev.port.lnkRaised then pcifdLnkIrq host stack dev else dev
    | .rxBarrier => pcifdHandleBarrier host stack dev
    | .followLink => if 0 < dev.port.unfollowed then hwFollowLink dev else dev
  outstanding _ := true

/-- Every frame is counted as it is stored. The pages are set up anew only while the
    engine has not left the state that the open puts it in. -/
def pciCounting (memory : Int → PcanfdRxmsg) : Counting (pciBackend memory) where
  handed port := (port.written.flatMap TxWrite.frames).length
  ready t := t.engine = .idle → t.port.written = []
  WriteOk _ _ := True
  CompleteOk _ _ _ := True

variable {memory : Int → PcanfdRxmsg}

theorem storeFrame_tally {dev : PciDev} {tx : PcanfdTxmsg} (bytes : List U8) (size : Nat)
    (tallied : Tallied (pciCounting memory).handed dev) :
    Tallied (pciCounting memory).handed (storeFrame dev tx bytes size) := by
  refine Iff.mpr (@tallied_step _ _ _ _ tallied 1 1 rfl ?_) rfl
  show ((dev.port.written ++ [_]).flatMap TxWrite.frames).length = _
  rw [List.flatMap_append, List.length_append, List.flatMap_singleton]
  rfl

theorem linkPage_tally {dev : PciDev} (tallied : Tallied (pciCounting memory).handed dev) :
    Tallied (pciCounting memory).handed (linkPage dev) := by
  refine @tallied_same _ _ dev (linkPage dev) tallied rfl ?_
  show ((dev.port.written ++ [_]).flatMap TxWrite.frames).length = _
  rw [List.flatMap_append, List.length_append, List.flatMap_singleton]
  rfl

theorem pciWriteLoop_tally (host : Host) (stack : PcanfdRxmsg) (fuel : Nat) {dev : PciDev}
    (lk : Bool) (enabled : dev.lockedTxEngineState ≠ .idle) :
    (pciWriteLoop host stack fuel dev lk).dev.lockedTxEngineState ≠ .idle ∧
      (Tallied (pciCounting memory).handed dev →
        Tallied (pciCounting memory).handed (pciWriteLoop host stack fuel dev lk).dev) := by
  induction fuel generalizing dev lk with
  | zero => exact ⟨enabled, fun tallied => tallied⟩
  | succ fuel ih =>
    unfold pciWriteLoop
    split
    next tx bytes size _ =>
      obtain ⟨still, kept⟩ := @ih (storeFrame dev tx bytes size.toNat) lk enabled
      exact ⟨still, fun tallied => kept (storeFrame_tally bytes size.toNat tallied)⟩
    next err _ =>
      split
      next => exact ⟨enabled, fun tallied => tallied⟩
      next =>
        split
        next =>
          have posted : Pcandev.counted (if dev.wCANStatus &&& canErrQxmtfull = 0 then
              postErrorCtrl host dev stack .txOverflow else dev) = dev.counted := by
            split
            next => exact postErrorCtrl_counted host dev stack .txOverflow
            next => rfl
          refine ⟨?_, (counted_tallied posted).mpr⟩
          exact (congrArg TransmitSide.engine (counted_transmit posted)).trans_ne enabled
        next =>
          obtain ⟨still, kept⟩ := @ih (linkPage dev) true TxEngine.noConfusion
          exact ⟨still, fun tallied => kept (linkPage_tally tallied)⟩

theorem pcifdDeviceWrite_tally (host : Host) (stack : PcanfdRxmsg) {dev : PciDev}
    (enabled : dev.lockedTxEngineState ≠ .idle) :
    (pcifdDeviceWrite host stack dev).1.lockedTxEngineState ≠ .idle ∧
      (Tallied (pciCounting memory).handed dev →
        Tallied (pciCounting memory).handed (pcifdDeviceWrite host stack dev).1) := by
  obtain ⟨still, kept⟩ := @pciWriteLoop_tally memory host stack
    (dev.writeFifo.items.length + dev.port.txPagesFree + 1) dev false enabled
  unfold pcifdDeviceWrite
  simp only
  split
  next => exact ⟨still, kept⟩
  next => exact ⟨TxEngine.noConfusion, kept⟩

theorem pcifdHandleBarrier_tally (host : Host) (stack : PcanfdRxmsg) {dev : PciDev}
    (ready : (pciCounting memory).ready dev.transmit) :
    (pciCounting memory).ready (pcifdHandleBarrier host stack dev).transmit ∧
      (Tallied (pciCounting memory).handed dev →
        Tallied (pciCounting memory).handed (pcifdHandleBarrier host stack dev)) := by
  unfold pcifdHandleBarrier
  by_cases idle : dev.lockedTxEngineState = .idle
  · rw [if_pos idle]
    have unused : dev.port.written = [] := ready idle
    have enabled : (pcifdEnableTxPath dev).lockedTxEngineState ≠ .idle := TxEngine.noConfusion
    have handed : (pciCounting memory).handed (pcifdEnableTxPath dev).port =
        (pciCounting memory).handed dev.port := by
      show ((pcifdEnableTxPath dev).port.written.flatMap TxWrite.frames).length = _
      unfold pcifdEnableTxPath
      split
      next =>
        show _ = (dev.port.written.flatMap TxWrite.frames).length
        rw [unused]
        rfl
      next => rfl
    have counter : (pcifdEnableTxPath dev).txFramesCounter = dev.txFramesCounter := by
      unfold pcifdEnableTxPath
      split <;> rfl
    obtain ⟨still, kept⟩ := pcifdDeviceWrite_tally host stack enabled
    exact ⟨fun idle => absurd idle still, fun tallied =>
      kept (tallied_same tallied counter handed)⟩
  · rw [if_neg idle]
    exact ⟨ready, fun tallied => tallied⟩

theorem pcifdLnkIrq_tally (host : Host) (stack : PcanfdRxmsg) {dev : PciDev}
    (ready : (pciCounting memory).ready dev.transmit) :
    (pciCounting memory).ready (pcifdLnkIrq host stack dev).transmit ∧
      (Tallied (pciCounting memory).handed dev →
        Tallied (pciCounting memory).handed (pcifdLnkIrq host stack dev)) := by
  unfold pcifdLnkIrq
  dsimp only
  split
  next started =>
    have only := pcanClearStatusBit_only host (returnPage (takeLnk dev)) canErrQxmtfull
    have enabled : (pcanClearStatusBit host (returnPage (takeLnk dev))
        canErrQxmtfull).lockedTxEngineState ≠ .idle := by
      have same := congrArg TransmitSide.engine only.transmit
      exact (same.trans started).trans_ne TxEngine.noConfusion
    obtain ⟨still, kept⟩ := pcifdDeviceWrite_tally host stack enabled
    refine ⟨fun idle => absurd idle still, fun tallied => kept ?_⟩
    rw [counted_tallied only.counted]
    exact tallied
  next => exact ⟨ready, fun tallied => tallied⟩

theorem pciCounting_lawful (memory : Int → PcanfdRxmsg) : (pciCounting memory).Lawful where
  busState _ _ ready := ready
  queue _ _ _ _ _ ready _ _ _ := ready
  write answer host dev ready := by
    simp only [pciBackend]
    split
    next stopped =>
      have enabled : dev.lockedTxEngineState ≠ .idle := by
        rw [stopped]
        exact TxEngine.noConfusion
      obtain ⟨still, kept⟩ := pcifdDeviceWrite_tally host (memory answer) enabled
      exact ⟨fun idle => absurd idle still,
        fun tallied => ⟨fun _ => trivial, fun _ => kept tallied⟩⟩
    next => exact ⟨ready, fun tallied => ⟨fun _ => trivial, fun _ => tallied⟩⟩
  complete answer host stack event dev ready := by
    have right : ∀ {dev' : PciDev}, (pciCounting memory).ready dev'.transmit ∧
        (Tallied (pciCounting memory).handed dev → Tallied (pciCounting memory).handed dev') →
        (pciCounting memory).ready dev'.transmit ∧ (Tallied (pciCounting memory).handed dev →
          (Tallied (pciCounting memory).handed dev' ↔ True)) :=
      fun both => ⟨both.1, fun tallied => iff_true_intro (both.2 tallied)⟩
    cases event with
    | lnkIrq =>
      apply right
      simp only [pciBackend]
      split
      next => exact pcifdLnkIrq_tally host stack ready
      next => exact ⟨ready, fun tallied => tallied⟩
    | rxBarrier => exact right (pcifdHandleBarrier_tally host stack ready)
    | followLink =>
      apply right
      simp only [pciBackend]
      split
      next => exact ⟨ready, fun tallied => tallied⟩
      next => exact ⟨ready, fun tallied => tallied⟩

theorem pciCounting_counts (dev : PciDev) (call : TxCall PciEvent) :
    (pciCounting memory).Counts dev call := by
  unfold Counting.Counts
  split
  next => exact fun _ => trivial
  next => exact fun _ => trivial

end Pci

section BusOff

def pcanDevBusOn : U32 := 0x80

/-- What `ucan_set_bus_off` does besides preparing the command, in its order. -/
inductive BusOffStep where
  | wait
  | sendReset
deriving Repr, DecidableEq

/-- `cmdSize` is the size of the channel's command buffer, of which the reset command takes
    8 bytes; `sendCmd` is what `send_cmd` answers. -/
def ucanSetBusOff (cmdSize : Nat) (sendCmd : Int) (dev : Pcandev P) :
    Pcandev P × List BusOffStep × Int :=
  if cmdSize < 8 then (dev, [], -einval)
  else
    let waits : List BusOffStep := if 0 < dev.txFramesCounter then [.wait] else []
    (if sendCmd = 0 then { dev with flags := dev.flags &&& ~~~pcanDevBusOn } else dev,
      waits ++ [.sendReset], sendCmd)

/-- The reset command goes out at once only after a multiple of 2^32 frames. -/
theorem ucanSetBusOff_hasty_iff {handed : P → Nat} {dev : Pcandev P} (cmdSize : Nat)
    (sendCmd : Int) (tallied : Tallied handed dev) :
    (ucanSetBusOff cmdSize sendCmd dev).2.1 = [.sendReset] ↔
      8 ≤ cmdSize ∧ 2 ^ 32 ∣ handed dev.port := by
  have counted : (0 < dev.txFramesCounter) ↔ ¬2 ^ 32 ∣ handed dev.port := by
    have value : dev.txFramesCounter.toNat = handed dev.port % 2 ^ 32 := by
      rw [tallied, BitVec.toNat_ofNat]
    have nothing : BitVec.toNat (0 : U32) = 0 := rfl
    rw [BitVec.lt_def, value, nothing, Nat.dvd_iff_mod_eq_zero]
    omega
  unfold ucanSetBusOff
  by_cases small : cmdSize < 8
  · rw [if_pos small]
    exact ⟨nofun, fun both => absurd both.1 (by omega)⟩
  · rw [if_neg small]
    by_cases waits : 0 < dev.txFramesCounter
    · simp only [if_pos waits]
      exact ⟨nofun, fun both => absurd both.2 (counted.mp waits)⟩
    · simp only [if_neg waits]
      exact ⟨fun _ => ⟨by omega, Decidable.not_not.mp fun none => waits (counted.mpr none)⟩,
        fun _ => rfl⟩

end BusOff

structure Counting.Fresh {backend : TxBackend P C} (counting : Counting backend)
    (dev : Pcandev P) : Prop where
  ready : counting.ready dev.transmit
  counter : dev.txFramesCounter = 0
  unused : counting.handed dev.port = 0

theorem Counting.Fresh.tallied {backend : TxBackend P C} {counting : Counting backend}
    {dev : Pcandev P} (fresh : counting.Fresh dev) : Tallied counting.handed dev := by
  unfold Tallied
  rw [fresh.counter, fresh.unused]
  rfl

theorem tx_frames_tallied_iff (family : UsbFamily) (memory : Int → PcanfdRxmsg) {usb : UsbDev}
    {sja1000 : Sja1000Dev} {pci : PciDev} (usbFresh : (usbCounting family).Fresh usb)
    (sjaFresh : sja1000Counting.Fresh sja1000) (pciFresh : (pciCounting memory).Fresh pci)
    (usbCalls : List (TxCall Int)) (sjaCalls : List (TxCall Unit))
    (pciCalls : List (TxCall PciEvent)) :
    ((∀ s ∈ states (txStep (usbBackend family)) usb usbCalls,
        Tallied (usbCounting family).handed s) ↔
      Admitted (usbCounting family).Counts (txStep (usbBackend family)) usb usbCalls) ∧
    ((∀ s ∈ states (txStep sja1000Backend) sja1000 sjaCalls, Tallied sja1000Counting.handed s) ↔
      Admitted sja1000Counting.Counts (txStep sja1000Backend) sja1000 sjaCalls) ∧
    (∀ s ∈ states (txStep (pciBackend memory)) pci pciCalls,
      Tallied (pciCounting memory).handed s) ∧
    ∀ {P : Type} {handed : P → Nat} {s : Pcandev P} (cmdSize : Nat) (sendCmd : Int),
      Tallied handed s → ((ucanSetBusOff cmdSize sendCmd s).2.1 = [.sendReset] ↔
        8 ≤ cmdSize ∧ 2 ^ 32 ∣ handed s.port) := by
  refine ⟨run_tallied (usbCounting_lawful family) usbCalls usbFresh.ready usbFresh.tallied,
    run_tallied sja1000Counting_lawful sjaCalls sjaFresh.ready sjaFresh.tallied, ?_,
    fun cmdSize sendCmd tallied => ucanSetBusOff_hasty_iff cmdSize sendCmd tallied⟩
  rw [run_tallied (pciCounting_lawful memory) pciCalls pciFresh.ready pciFresh.tallied]
  exact admitted_all pciCounting_counts _ _ _

section Samples

def countedUsb : UsbDev := openedChannel ucanPort 4 4 0

def countedSja1000 : Sja1000Dev := openedChannel ⟨false, []⟩ 4 4 0

def countedPci : PciDev := idlePciDev (BoundedQueue.empty 4)

theorem tx_frames_tallied_two_buffers :
    (∀ s ∈ states (txStep (usbBackend .ucan)) countedUsb (sampleCalls 0),
      Tallied (usbCounting .ucan).handed s) ∧
    (∀ s ∈ states (txStep sja1000Backend) countedSja1000 [.complete sampleHost .zero () 0],
      Tallied sja1000Counting.handed s) ∧
    (∀ s ∈ states (txStep (pciBackend fun _ => .zero)) countedPci (sampleCalls .rxBarrier),
      Tallied (pciCounting fun _ => .zero).handed s) ∧
    (run (txStep (pciBackend fun _ => .zero)) countedPci (sampleCalls .rxBarrier)).1.txFramesCounter
      = 2 := by
  have usbFresh : (usbCounting .ucan).Fresh countedUsb := by
    refine ⟨⟨by decide, fun _ mem => absurd mem List.not_mem_nil,
      fun other => absurd rfl other, ?_⟩, rfl, rfl⟩
    decide
  have tallied := tx_frames_tallied_iff .ucan (fun _ => .zero) usbFresh
    (⟨trivial, rfl, rfl⟩ : sja1000Counting.Fresh countedSja1000)
    (⟨fun _ => rfl, rfl, rfl⟩ : (pciCounting fun _ => .zero).Fresh countedPci)
    (sampleCalls 0) [.complete sampleHost .zero () 0] (sampleCalls .rxBarrier)
  refine ⟨tallied.1.mpr ?_, tallied.2.1.mpr ?_, tallied.2.2.1, by decide +kernel⟩
  · exact ⟨fun _ => .inl rfl, fun _ => .inl rfl, fun _ => .inl rfl, fun _ => .inl rfl,
      fun _ _ => .inl rfl, trivial⟩
  · exact ⟨fun _ => trivial, trivial⟩

def oneFrame {C : Type} (answer : Int) : List (TxCall C) :=
  [.errorActive sampleHost .zero 0, .ioctlSendMsg sampleHost .zero (sampleFrame 1) true answer]

/-- The first frame goes to the SJA1000 from `sja1000_write`, which does not count it, and a
    frame that the USB core refuses is counted all the same. -/
theorem first_frame_is_not_counted :
    (sja1000Counting.handed (run (txStep sja1000Backend) countedSja1000 (oneFrame 0)).1.port = 1 ∧
      (run (txStep sja1000Backend) countedSja1000 (oneFrame 0)).1.txFramesCounter = 0) ∧
    ¬Tallied sja1000Counting.handed
      (run (txStep sja1000Backend) countedSja1000 (oneFrame 0)).1 ∧
    ¬Tallied (usbCounting .ucan).handed
      (run (txStep (usbBackend .ucan)) countedUsb (oneFrame (-12))).1 := by
  decide +kernel

end Samples

end PcanDriver

import PcanDriver.BusReports
import PcanDriver.Sja1000Irq

/-!
What the application is told of overflows. A status record of a PCAN-USB (`pcan_usb.c`) or a
USB-Pro (`pcan_usbpro.c`), and the interrupts of an SJA1000 (`pcan_sja1000.c`), fill one
message: the handler that writes it last decides what it is about.
-/
namespace PcanDriver
variable {P : Type}

section Statement

/-- A record or a set of interrupts, with the channel that it is for. `rx` and `ef` are the
    message as it is before the handlers write it. -/
inductive OverflowSource where
  | pcanUsb (submit : Int) (dev : UsbDev) (rx : PcanfdRxmsg) (ucNumber : U8) (bytes : List U8)
  | sja1000 (irqmaxrmsg : Nat) (irq : Sja1000Irq) (dev : Sja1000Dev) (ef : PcanfdRxmsg)
  | usbPro (submit : Int) (time : UsbTime) (dev : UsbDev) (rawStatus errorFrame timestamp32 : U32)

/-- A channel in use that lets STATUS messages through, with room for `slots` of them. -/
structure Pcandev.ReadyFor (dev : Pcandev P) (slots : Nat) : Prop where
  inv : ChannelInv dev
  allowed : dev.allowedMsgs &&& pcanfdAllowedMsgStatus ≠ 0
  room : dev.readFifo.items.length + slots ≤ dev.readFifo.capacity

/-- The room that its messages need: the notice of a write that the record starts, and the
    frames of the same pass of the interrupt handler. -/
def OverflowSource.Ready : OverflowSource → Prop
  | .pcanUsb _ dev _ _ _ => dev.ReadyFor 2
  | .sja1000 irqmaxrmsg _ dev _ => dev.ReadyFor (irqmaxrmsg + 1)
  | .usbPro _ _ dev _ _ _ => dev.ReadyFor 2

def rxOverrunBits (ucNumber : U8) : Bool :=
  ucNumber &&& canReceiveOverrun ≠ 0 ∨ ucNumber &&& queueOverrun ≠ 0

def txFullBits (ucNumber : U8) : Bool :=
  ucNumber &&& xmtBufferFull ≠ 0 ∨ ucNumber &&& queueXmtFull ≠ 0

def OverflowSource.rxOverrun : OverflowSource → Bool
  | .pcanUsb _ _ _ ucNumber _ => rxOverrunBits ucNumber
  | .sja1000 _ irq _ _ => irq.raised dataOverrunInterrupt
  | .usbPro _ _ _ rawStatus _ _ => rawStatus &&& fwUsbproStatusMaskOverrunS ≠ 0 ∨
      rawStatus &&& fwUsbproStatusMaskQoverrunS ≠ 0

def OverflowSource.txFull : OverflowSource → Bool
  | .pcanUsb _ _ _ ucNumber _ => txFullBits ucNumber
  | _ => false

def unlessNop (rx : PcanfdRxmsg) : Option PcanfdRxmsg :=
  if rx.msg.type = .nop then none else some rx

/-- The message that is given to `pcan_chardev_rx`. -/
def OverflowSource.posted (host : Host) : OverflowSource → Option PcanfdRxmsg
  | .pcanUsb submit dev rx ucNumber bytes =>
    let errors := pcanUsbCtrlErrors dev rx ucNumber
    unlessNop ((handleBusBits (pcanUsbWrite .pcanUsb submit host) errors.1 errors.2
      (ucNumber &&& busOff ≠ 0) (ucNumber &&& busLight ≠ 0)
      (ucNumber &&& busHeavy ≠ 0)).2.withData bytes)
  | .sja1000 irqmaxrmsg irq dev ef =>
    unlessNop (sja1000Errors irq (sja1000Frames irqmaxrmsg irq dev).dev ef).2
  | .usbPro submit _ dev rawStatus errorFrame _ =>
    unlessNop (usbproStatus (pcanUsbWrite .usbPro submit host) dev rawStatus errorFrame).2

def OverflowSource.readFifo (host : Host) : OverflowSource → BoundedQueue PcanfdRxmsg
  | .pcanUsb submit dev rx ucNumber bytes => (pcanUsbDecodeStatus (pcanUsbWrite .pcanUsb submit host)
      host dev rx ucNumber bytes).1.readFifo
  | .sja1000 irqmaxrmsg irq dev ef =>
    (sja1000IrqPass irqmaxrmsg irq dev ef).dev.readFifo
  | .usbPro submit time dev rawStatus errorFrame timestamp32 => (pcanUsbproHandleStatusErrRx
      (pcanUsbWrite .usbPro submit host) host time dev rawStatus errorFrame timestamp32).1.readFifo

def IsStatus (id : PcanfdStatus) (m : PcanfdRxmsg) : Prop :=
  m.msg.type = .status ∧ m.msg.id = id.code

structure StatusStored (host : Host) (source : OverflowSource) (id : PcanfdStatus) : Prop where
  posted : ∃ m, source.posted host = some m ∧ IsStatus id m
  stored : ∃ m, (source.readFifo host).newest = some m ∧ IsStatus id m

structure OverflowsTold (host : Host) (source : OverflowSource) : Prop where
  received : source.rxOverrun = true → StatusStored host source .rxOverflow
  transmitted : source.txFull = true → StatusStored host source .txOverflow

/-- Nothing else writes the message behind the overflow. -/
def OverflowSource.Unmasked : OverflowSource → Prop
  | .pcanUsb _ _ _ ucNumber _ => rxOverrunBits ucNumber = false ∧ txFullBits ucNumber = false
  | .sja1000 _ irq _ _ => irq.raised dataOverrunInterrupt = true →
      irq.raised (errorPassivInterrupt ||| errorWarnInterrupt) = false ∧
        irq.raised busErrorInterrupt = false
  | .usbPro _ _ _ _ _ _ => True

end Statement

section Room
variable {dev : Pcandev P} {slots : Nat}

theorem Pcandev.ReadyFor.posting (ready : dev.ReadyFor slots) (positive : 1 ≤ slots) :
    Posting slots dev.rxGate :=
  ready.inv.posting ready.allowed positive ready.room

/-- A post takes one place at most, and does nothing else to the gate. -/
theorem pcanChardevRx_posting (host : Host) (rx : PcanfdRxmsg)
    (posting : Posting (slots + 1) dev.rxGate) :
    Posting slots (pcanChardevRx host dev rx).1.rxGate := by
  have room : dev.readFifo.items.length + (slots + 1) ≤ dev.readFifo.capacity := posting.room
  have clear : dev.overrun = false := posting.clear
  obtain ⟨effect, channel⟩ := @pcanChardevRx_effect _ host dev rx (by omega)
  have allowed : (pcanChardevRx host dev rx).1.allowedMsgs = dev.allowedMsgs :=
    (pcanChardevRx_only host dev rx).congr Pcandev.allowedMsgs fun _ _ => rfl
  have after : (pcanChardevRx host dev rx).1.overrun = false ∧
      (pcanChardevRx host dev rx).1.readFifo.items.length ≤ dev.readFifo.items.length + 1 := by
    cases effect with
    | ignored same bit => exact ⟨bit.trans clear, by rw [same]; omega⟩
    | patched older old items _ items' bit =>
      refine ⟨bit.trans clear, ?_⟩
      rw [items, items', List.length_append, List.length_append]
      exact Nat.le_succ _
    | queued items' bit =>
      refine ⟨bit, ?_⟩
      rw [items', List.length_append]
      exact Nat.le_refl _
    | overflowed full => omega
  refine ⟨?_, ?_, after.1, ?_⟩
  · exact lt_of_lt_of_eq posting.opened channel.paths.symm
  · exact (congrArg (· &&& pcanfdAllowedMsgStatus) allowed).trans_ne posting.allowed
  · have capacity := channel.capacity
    show (pcanChardevRx host dev rx).1.readFifo.items.length + slots ≤
      (pcanChardevRx host dev rx).1.readFifo.capacity
    omega

theorem pcanClearStatusBit_posting (host : Host) (bits : U16)
    (posting : Posting (slots + 1) dev.rxGate) :
    Posting slots (pcanClearStatusBit host dev bits).rxGate := by
  unfold pcanClearStatusBit
  split
  · exact posting.weaken (Nat.le_succ slots)
  · exact pcanChardevRx_posting host _ ((clearBits_gate bits posting.clear).symm ▸ posting)

theorem pcanUsbWrite_posting (family : UsbFamily) (submit : Int) (host : Host) {dev : UsbDev}
    (posting : Posting (slots + 1) dev.rxGate) :
    Posting slots (pcanUsbWrite family submit host dev).1.rxGate := by
  obtain ⟨dev1, gate, _, _, same | cleared⟩ := pcanUsbWrite_receive family submit host dev
  · rw [same, gate]
    exact posting.weaken (Nat.le_succ slots)
  · rw [cleared]
    exact pcanClearStatusBit_posting host _ (gate.symm ▸ posting)

/-- The bus bits take one place at most: the notice of the write that an active bus starts. -/
theorem handleBusBits_posting (family : UsbFamily) (submit : Int) (host : Host) {dev : UsbDev}
    (rx : PcanfdRxmsg) (busoff warning passive : Bool)
    (posting : Posting (slots + 1) dev.rxGate) :
    Posting slots (handleBusBits (pcanUsbWrite family submit host) dev rx busoff warning
      passive).1.rxGate := by
  have entered : ∀ state, Posting (slots + 1) (pcanSetBusState dev state).rxGate := fun state =>
    (pcanSetBusState_gate dev state).symm ▸ posting
  rcases @handleBusBits_cases _ (pcanUsbWrite family submit host) dev busoff warning passive rx with
    ⟨_, same⟩ | ⟨dev1, gate, _, entered1⟩ | ⟨_, _, rx1, active⟩
  · rw [same]
    exact posting.weaken (Nat.le_succ slots)
  · rw [entered1, (pcanSetBusState_gate dev1 _).trans gate]
    exact posting.weaken (Nat.le_succ slots)
  · rw [active]
    rcases pcanHandleErrorActive_cases (pcanUsbWrite family submit host) dev rx1 with
      ⟨_, same⟩ | ⟨_, started⟩
    · rw [same]
      exact (entered .errorActive).weaken (Nat.le_succ slots)
    · rw [started]
      rcases pcanDevStartWriting_cases (pcanUsbWrite family submit host)
        (pcanSetBusState dev .errorActive) with ⟨_, same⟩ | ⟨_, _, written⟩
      · rw [same]
        exact (entered .errorActive).weaken (Nat.le_succ slots)
      · rw [written]
        exact pcanUsbWrite_posting family submit host (entered .errorActive)

theorem sja1000Read_posting (readHost : Nat → Host) (readreg : Nat → Nat → U8) (msgs i : Nat)
    (f : PcanfdRxmsg) {dev : Sja1000Dev} (posting : Posting (slots + msgs) dev.rxGate) :
    Posting slots (sja1000Read readHost readreg msgs i f dev).dev.rxGate := by
  induction msgs generalizing i f dev with
  | zero => exact posting
  | succ msgs ih =>
    unfold sja1000Read
    split
    · exact posting.weaken (Nat.le_add_right slots (msgs + 1))
    · exact ih _ _ (pcanChardevRx_posting _ _ posting)

end Room

section Messages
variable {write : Pcandev P → Pcandev P × Int} {dev : Pcandev P} {rx m : PcanfdRxmsg}
  {id : PcanfdStatus}

def AboutBus (m : PcanfdRxmsg) : Prop :=
  m.msg.type = .nop ∨ ∃ state : PcanfdStatus, state.isKnown ∧ IsStatus state m

theorem AboutBus.other (about : AboutBus m) (overflow : id = .rxOverflow ∨ id = .txOverflow) :
    ¬IsStatus id m := by
  rintro ⟨type, code⟩
  rcases about with nop | ⟨state, known, _, named⟩
  · rw [nop] at type
    cases type
  · rw [named] at code
    rcases overflow with rfl | rfl
    · rcases known with rfl | rfl | rfl | rfl <;> exact absurd code (by decide)
    · rcases known with rfl | rfl | rfl | rfl <;> exact absurd code (by decide)

theorem withStatus_about (rx : PcanfdRxmsg) {state : PcanfdStatus} (known : state.isKnown) :
    AboutBus (rx.withStatus state) := .inr ⟨state, known, rfl, rfl⟩

theorem pcanHandleBusoff_about (dev : Pcandev P) (rx : PcanfdRxmsg) :
    AboutBus (pcanHandleBusoff dev rx).2.1 := by
  unfold pcanHandleBusoff
  split
  · exact .inl rfl
  · exact withStatus_about rx (.inr (.inr (.inr rfl)))

theorem pcanHandleErrorActive_about (write : Pcandev P → Pcandev P × Int) (dev : Pcandev P)
    (rx : PcanfdRxmsg) : AboutBus (pcanHandleErrorActive write dev rx).2 := by
  unfold pcanHandleErrorActive
  simp only
  split
  · exact .inr ⟨.errorActive, .inl rfl, rfl, rfl⟩
  · exact .inl rfl

theorem pcanHandleErrorStatus_about {warning passive : Bool}
    (handled : (pcanHandleErrorStatus dev rx warning passive).2.2 = true) :
    AboutBus (pcanHandleErrorStatus dev rx warning passive).2.1 := by
  cases passive with
  | true => exact withStatus_about rx (.inr (.inr (.inl rfl)))
  | false =>
    cases warning with
    | true => exact withStatus_about rx (.inr (.inl rfl))
    | false =>
      simp only [pcanHandleErrorStatus, Bool.false_eq_true, if_false] at handled ⊢
      split at handled
      next active =>
        rw [if_pos active]
        exact .inl rfl
      next => cases handled

theorem handleBusBits_about (write : Pcandev P → Pcandev P × Int) (dev : Pcandev P)
    (rx : PcanfdRxmsg) (busoff warning passive : Bool) :
    AboutBus (handleBusBits write dev rx busoff warning passive).2 := by
  unfold handleBusBits
  split
  · exact pcanHandleBusoff_about dev rx
  · simp only
    split
    next handled => exact pcanHandleErrorStatus_about handled
    next => exact pcanHandleErrorActive_about write _ _

theorem sja1000ErrorState_about (irq : Sja1000Irq) (dev : Sja1000Dev) (ef : PcanfdRxmsg) :
    AboutBus (sja1000ErrorState irq dev ef).2 := by
  unfold sja1000ErrorState
  simp only
  split
  · exact pcanHandleErrorActive_about _ dev ef
  · split
    · apply pcanHandleErrorStatus_about
      cases irq.raised errorPassivInterrupt <;> rfl
    · exact pcanHandleBusoff_about dev ef

theorem unlessNop_status (status : IsStatus id m) : unlessNop m = some m := by
  unfold unlessNop
  rw [if_neg fun nop => by rw [status.1] at nop; cases nop]

theorem of_withData {bytes : List U8} (status : IsStatus id (m.withData bytes)) :
    IsStatus id m := by
  simpa only [IsStatus, PcanfdRxmsg.withData] using status

theorem of_unlessNop (posted : ∃ m', unlessNop m = some m' ∧ IsStatus id m') : IsStatus id m := by
  obtain ⟨m', same, status⟩ := posted
  unfold unlessNop at same
  split at same
  · cases same
  · exact Option.some.inj same ▸ status

end Messages

section Events
variable {dev : Pcandev P} {rx : PcanfdRxmsg}

theorem overflow_newest (host : Host) (posting : Posting 1 dev.rxGate)
    (status : IsStatus .rxOverflow rx) :
    ∃ m, (pcanChardevRx host dev rx).1.readFifo.newest = some m ∧ IsStatus .rxOverflow m := by
  obtain ⟨posted, _⟩ := post_event host posting status.1 (.inl status.2)
  exact ⟨_, posted.newest, (stampRx_type host dev rx).trans status.1,
    (congrArg FrameContent.id (stampRx_content host dev rx)).trans status.2⟩

theorem sja1000WriteNext_gate (dev : Sja1000Dev) :
    (sja1000WriteNext dev).1.rxGate = dev.rxGate := by
  unfold sja1000WriteNext
  split <;> rfl

theorem sja1000TransmitInterrupt_gate (dev : Sja1000Dev) :
    (sja1000TransmitInterrupt dev).rxGate = dev.rxGate := by
  have written : (sja1000WriteNext { dev with port := { dev.port with txBusy := false } }).1.rxGate =
      dev.rxGate := sja1000WriteNext_gate _
  unfold sja1000TransmitInterrupt
  simp only
  split
  · exact written
  · split
    · exact written
    · exact (countError_gate _ (by decide)).trans written

theorem sja1000Frames_posting {slots irqmaxrmsg : Nat} (irq : Sja1000Irq) {dev : Sja1000Dev}
    (posting : Posting (slots + irqmaxrmsg) dev.rxGate) :
    Posting slots (sja1000Frames irqmaxrmsg irq dev).dev.rxGate := by
  have transmitted : (if irq.raised transmitInterrupt then sja1000TransmitInterrupt dev
      else dev).rxGate = dev.rxGate := by
    split
    · exact sja1000TransmitInterrupt_gate dev
    · rfl
  unfold sja1000Frames
  simp only
  split
  · exact sja1000Read_posting _ _ _ _ _ (transmitted.symm ▸ posting)
  · rw [transmitted]
    exact posting.weaken (Nat.le_add_right slots irqmaxrmsg)

theorem sja1000Errors_overrun {irq : Sja1000Irq} {dev : Sja1000Dev} {ef : PcanfdRxmsg}
    (overrun : irq.raised dataOverrunInterrupt = true) :
    IsStatus .rxOverflow (sja1000Errors irq dev ef).2 ↔
      irq.raised (errorPassivInterrupt ||| errorWarnInterrupt) = false ∧
        irq.raised busErrorInterrupt = false := by
  unfold sja1000Errors
  rw [if_pos overrun]
  simp only
  by_cases level : irq.raised (errorPassivInterrupt ||| errorWarnInterrupt) = true
  · rw [if_pos level]
    constructor
    · intro status
      exact absurd status ((sja1000ErrorState_about irq _ _).other (.inl rfl))
    · intro quiet
      rw [level] at quiet
      cases quiet.1
  · rw [if_neg level]
    by_cases error : irq.raised busErrorInterrupt = true
    · rw [if_pos error]
      constructor
      · intro status
        cases status.1
      · intro quiet
        rw [error] at quiet
        cases quiet.2
    · rw [if_neg error]
      exact ⟨fun _ => ⟨Bool.eq_false_iff.mpr level, Bool.eq_false_iff.mpr error⟩,
        fun _ => ⟨rfl, rfl⟩⟩

theorem sja1000Errors_gate {irq : Sja1000Irq} {dev : Sja1000Dev} {ef : PcanfdRxmsg}
    (overrun : irq.raised dataOverrunInterrupt = true)
    (status : IsStatus .rxOverflow (sja1000Errors irq dev ef).2) :
    (sja1000Errors irq dev ef).1.rxGate = dev.rxGate := by
  obtain ⟨level, error⟩ := (sja1000Errors_overrun overrun).mp status
  unfold sja1000Errors
  rw [if_pos overrun, level, error]
  exact pcanHandleErrorCtrl_gate dev ef .rxOverflow

theorem usbproOverruns_status {rawStatus : U32} (dev : Pcandev P) (f : PcanfdRxmsg)
    (overrun : rawStatus &&& fwUsbproStatusMaskOverrunS ≠ 0 ∨
      rawStatus &&& fwUsbproStatusMaskQoverrunS ≠ 0) :
    IsStatus .rxOverflow (usbproOverruns dev f rawStatus).2 := by
  unfold usbproOverruns
  simp only
  split
  · exact ⟨rfl, rfl⟩
  next clear =>
    rw [if_pos (overrun.resolve_right clear)]
    exact ⟨rfl, rfl⟩

end Events

section Sources
variable {host : Host}

theorem pcanUsb_masked {submit : Int} {dev : UsbDev} {rx : PcanfdRxmsg} {ucNumber : U8}
    {bytes : List U8} {id : PcanfdStatus} (overflow : id = .rxOverflow ∨ id = .txOverflow) :
    ¬StatusStored host (.pcanUsb submit dev rx ucNumber bytes) id := by
  intro stored
  have status := of_unlessNop stored.posted
  have about := handleBusBits_about (pcanUsbWrite .pcanUsb submit host)
    (pcanUsbCtrlErrors dev rx ucNumber).1 (pcanUsbCtrlErrors dev rx ucNumber).2
    (ucNumber &&& busOff ≠ 0) (ucNumber &&& busLight ≠ 0) (ucNumber &&& busHeavy ≠ 0)
  exact about.other overflow (of_withData status)

theorem sja1000_stored_iff {irqmaxrmsg : Nat} {irq : Sja1000Irq} {dev : Sja1000Dev}
    {ef : PcanfdRxmsg} (ready : dev.ReadyFor (irqmaxrmsg + 1))
    (overrun : irq.raised dataOverrunInterrupt = true) :
    StatusStored host (.sja1000 irqmaxrmsg irq dev ef) .rxOverflow ↔
      irq.raised (errorPassivInterrupt ||| errorWarnInterrupt) = false ∧
        irq.raised busErrorInterrupt = false := by
  rw [← @sja1000Errors_overrun irq (sja1000Frames irqmaxrmsg irq dev).dev ef overrun]
  constructor
  · intro stored
    exact of_unlessNop stored.posted
  · intro status
    have posting : Posting (1 + irqmaxrmsg) dev.rxGate :=
      Nat.add_comm 1 irqmaxrmsg ▸ ready.posting (Nat.le_add_left 1 irqmaxrmsg)
    have room := sja1000Frames_posting irq posting
    rw [← sja1000Errors_gate overrun status] at room
    refine ⟨⟨_, unlessNop_status status, status⟩, ?_⟩
    have newest := overflow_newest irq.host room status
    unfold OverflowSource.readFifo sja1000IrqPass
    simp only
    rw [if_neg fun nop => by rw [status.1] at nop; cases nop]
    exact newest

theorem usbPro_stored {submit : Int} {time : UsbTime} {dev : UsbDev}
    {rawStatus errorFrame timestamp32 : U32} (ready : dev.ReadyFor 2)
    (overrun : rawStatus &&& fwUsbproStatusMaskOverrunS ≠ 0 ∨
      rawStatus &&& fwUsbproStatusMaskQoverrunS ≠ 0) :
    StatusStored host (.usbPro submit time dev rawStatus errorFrame timestamp32) .rxOverflow := by
  obtain ⟨gate, _⟩ := @usbproErrorCounters_receive _ dev rawStatus errorFrame
  have room := handleBusBits_posting .usbPro submit host PcanfdRxmsg.zero
    (rawStatus &&& fwUsbproStatusMaskBusS ≠ 0) (rawStatus &&& fwUsbproStatusMaskErrorS ≠ 0)
    (usbproPassive errorFrame) (gate.symm ▸ ready.posting (by decide) : Posting (1 + 1) _)
  have status : IsStatus .rxOverflow
      (usbproStatus (pcanUsbWrite .usbPro submit host) dev rawStatus errorFrame).2 :=
    usbproOverruns_status _ _ overrun
  have handled : Posting 1
      (usbproStatus (pcanUsbWrite .usbPro submit host) dev rawStatus errorFrame).1.rxGate :=
    (usbproOverruns_receive _ rawStatus).1.symm ▸ room
  refine ⟨⟨_, unlessNop_status status, status⟩, ?_⟩
  obtain ⟨sync, hwtv, count, posted⟩ := @pcanUsbproHandleStatusErrRx_post _ host
    (pcanUsbWrite .usbPro submit host) dev time rawStatus errorFrame timestamp32
  have stamped : IsStatus .rxOverflow ((usbproStatus (pcanUsbWrite .usbPro submit host) dev
      rawStatus errorFrame).2.stamped hwtv) := by
    cases hwtv with
    | none => exact status
    | some tv => exact status
  obtain ⟨m, newest, told⟩ := @overflow_newest _ { (usbproStatus (pcanUsbWrite .usbPro submit host)
    dev rawStatus errorFrame).1 with timeSync := sync } _ host handled stamped
  refine ⟨m, ?_, told⟩
  unfold OverflowSource.readFifo
  simp only
  rw [posted]
  simp only [postUnlessNop]
  rw [if_neg fun nop => by rw [stamped.1] at nop; cases nop]
  exact newest

end Sources

/-- The application is told of the overflows just where nothing else writes the message. -/
theorem overflows_told_iff (host : Host) (source : OverflowSource) (ready : source.Ready) :
    OverflowsTold host source ↔ source.Unmasked := by
  cases source with
  | pcanUsb submit dev rx ucNumber bytes =>
    constructor
    · intro told
      constructor
      · apply Bool.eq_false_iff.mpr
        exact fun overrun => pcanUsb_masked (.inl rfl) (told.received overrun)
      · apply Bool.eq_false_iff.mpr
        exact fun full => pcanUsb_masked (.inr rfl) (told.transmitted full)
    · intro quiet
      constructor
      · intro overrun
        exact absurd (quiet.1.symm.trans overrun) Bool.false_ne_true
      · intro full
        exact absurd (quiet.2.symm.trans full) Bool.false_ne_true
  | sja1000 irqmaxrmsg irq dev ef =>
    constructor
    · intro told overrun
      exact (sja1000_stored_iff ready overrun).mp (told.received overrun)
    · intro unmasked
      refine ⟨fun overrun => (sja1000_stored_iff ready overrun).mpr (unmasked overrun), ?_⟩
      intro full
      cases full
  | usbPro submit time dev rawStatus errorFrame timestamp32 =>
    refine ⟨fun _ => trivial, fun _ => ⟨fun overrun => usbPro_stored ready ?_, ?_⟩⟩
    · exact of_decide_eq_true overrun
    · intro full
      cases full

section Samples

/-- A channel with a queue of four messages; its bus state is not known yet. -/
def overflowChannel : UsbDev := openedChannel ⟨512, 512, 0, 0, false, []⟩ 4 4 pcanDevErrcntRdy

theorem overflowChannel_ready : overflowChannel.ReadyFor 2 :=
  ⟨⟨by decide, by decide, fun overrun => absurd overrun (by decide)⟩, by decide, by decide⟩

/-- A USB-Pro tells of an overrun together with the warning level. -/
theorem overrun_above_warning : overflowChannel.nOpenPaths = 1 ∧ OverflowsTold sampleHost
    (.usbPro 0 default overflowChannel (fwUsbproStatusMaskErrorS ||| fwUsbproStatusMaskOverrunS)
      0 0) :=
  ⟨rfl, (overflows_told_iff sampleHost (.usbPro 0 default overflowChannel
    (fwUsbproStatusMaskErrorS ||| fwUsbproStatusMaskOverrunS) 0 0) overflowChannel_ready).mpr
    trivial⟩

/-- A PCAN-USB whose only news is the overrun tells that the bus is active. -/
theorem overrun_becomes_active : ¬∀ (host : Host) (source : OverflowSource), source.Ready →
    OverflowsTold host source := by
  intro every
  have told := every sampleHost (.pcanUsb 0 overflowChannel .zero canReceiveOverrun [])
    overflowChannel_ready
  obtain ⟨m, posted, status⟩ := (told.received (by decide)).posted
  have id : (OverflowSource.posted sampleHost
      (.pcanUsb 0 overflowChannel .zero canReceiveOverrun [])).map (·.msg.id) =
        some PcanfdStatus.errorActive.code := by decide +kernel
  rw [posted, Option.map_some, status.2] at id
  revert id
  decide

end Samples

end PcanDriver

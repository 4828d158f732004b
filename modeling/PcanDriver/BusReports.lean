import PcanDriver.PciTx
import PcanDriver.StatusPosts
import PcanDriver.TxSide
import PcanDriver.UsbWrite

/-!
Changes of the bus state reach the application. Handlers of a status record and the
writing they may start are followed up to the message that the decoder posts: if the
state has changed, the newest queued message says so.
-/
namespace PcanDriver
open StepSystem
variable {P : Type}

section Gate

theorem channelInv_gate {dev dev' : Pcandev P} (gate : dev'.rxGate = dev.rxGate)
    (inv : ChannelInv dev) : ChannelInv dev' where
  opened := by
    rw [show dev'.nOpenPaths = dev.nOpenPaths from congrArg RxGate.nOpenPaths gate]
    exact inv.opened
  several := by
    rw [show dev'.readFifo = dev.readFifo from congrArg RxGate.readFifo gate]
    exact inv.several
  blocked := by
    rw [show dev'.readFifo = dev.readFifo from congrArg RxGate.readFifo gate,
      show dev'.overrun = dev.overrun from congrArg RxGate.overrun gate]
    exact inv.blocked

theorem channelInv_counted {dev : Pcandev P} {count : U32} (inv : ChannelInv dev) :
    ChannelInv { dev with dwErrorCounter := count } :=
  ⟨inv.opened, inv.several, inv.blocked⟩

theorem pcanChardevRx_inv (host : Host) {dev : Pcandev P} (rx : PcanfdRxmsg)
    (inv : ChannelInv dev) : ChannelInv (pcanChardevRx host dev rx).1 := by
  obtain ⟨effect, channel⟩ := @pcanChardevRx_effect _ host dev rx
    (Nat.lt_of_lt_of_le (by decide) inv.several)
  exact effect.inv channel inv

theorem countError_gate (dev : Pcandev P) {bits : U16} (other : bits &&& canErrOverrun = 0) :
    (countError dev bits).rxGate = dev.rxGate := by
  have bit : (countError dev bits).overrun = dev.overrun := by
    unfold Pcandev.overrun countError
    simp only [Masks.or_and_of_disjoint _ other]
  simp only [Pcandev.rxGate, bit]
  rfl

theorem pcanHandleErrorCtrl_gate (dev : Pcandev P) (rx : PcanfdRxmsg) (err : PcanfdStatus) :
    (pcanHandleErrorCtrl dev rx err).1.rxGate = dev.rxGate := by
  unfold pcanHandleErrorCtrl
  exact countError_gate dev (by cases err <;> decide)

theorem pcanHandleErrorProtocol_gate (dev : Pcandev P) (rx : PcanfdRxmsg) (err : PcanfdStatus) :
    (pcanHandleErrorProtocol dev rx err).1.rxGate = dev.rxGate := by
  unfold pcanHandleErrorProtocol
  exact countError_gate dev (by cases err <;> decide)

theorem pcanSetBusState_gate (dev : Pcandev P) (state : PcanfdStatus) :
    (pcanSetBusState dev state).rxGate = dev.rxGate := by
  obtain ⟨fifo, paths, _, bit⟩ := pcanSetBusState_frame dev state
  have allowed : (pcanSetBusState dev state).allowedMsgs = dev.allowedMsgs := by
    unfold pcanSetBusState
    simp only
    split
    · rfl
    · cases state <;> rfl
  simp only [Pcandev.rxGate, fifo, paths, bit, allowed]

theorem Posting.weaken {slots : Nat} {gate : RxGate} (posting : Posting slots gate)
    {fewer : Nat} (le : fewer ≤ slots) : Posting fewer gate :=
  ⟨posting.opened, posting.allowed, posting.clear,
    Nat.le_trans (Nat.add_le_add_left le _) posting.room⟩

end Gate

/-- What the handlers rely on when they let an interface write: the application is
    told of an active bus by the handler's message, or has been told before it. -/
structure WriteLaw (slots : Nat) (write : Pcandev P → Pcandev P × Int) : Prop where
  positive : 1 ≤ slots
  inv : ∀ dev, ChannelInv dev → ChannelInv (write dev).1
  busState : ∀ dev, (write dev).1.busState = dev.busState
  active : ∀ dev, Posting slots dev.rxGate → dev.busState = .errorActive →
    dev.counters = ⟨0, 0, 1, 1⟩ →
    Posting 1 (write dev).1.rxGate ∧ (write dev).1.counters = ⟨0, 0, 1, 1⟩ ∨
      (write dev).1.toldActive ∧ newestReports (write dev).1

theorem errorBus_kind : pcanfdErrorBus &&& ~~~driverFlags = pcanfdErrorBus := by
  decide

section Notice
variable (host : Host) {dev : Pcandev P}

theorem clearBits_gate (bits : U16) (clear : dev.overrun = false) :
    (clearBits dev bits).rxGate = dev.rxGate := by
  have bit : (clearBits dev bits).overrun = false := by
    rw [overrun_false_iff] at clear ⊢
    show (dev.wCANStatus &&& ~~~bits) &&& canErrOverrun = 0
    rw [BitVec.and_assoc, BitVec.and_comm (~~~bits), ← BitVec.and_assoc, clear]
    exact BitVec.zero_and
  simp only [Pcandev.rxGate, bit, clear]
  rfl

theorem pcanClearStatusBit_active (bits : U16) (posting : Posting 1 dev.rxGate)
    (state : dev.busState = .errorActive) (counters : dev.counters = ⟨0, 0, 1, 1⟩) :
    Posting 1 (pcanClearStatusBit host dev bits).rxGate ∧
        (pcanClearStatusBit host dev bits).counters = ⟨0, 0, 1, 1⟩ ∨
      (pcanClearStatusBit host dev bits).toldActive ∧
        newestReports (pcanClearStatusBit host dev bits) := by
  unfold pcanClearStatusBit
  split
  · exact .inl ⟨posting, counters⟩
  · right
    have gate := clearBits_gate bits posting.clear
    have rx_zero : dev.rxErrorCounter = 0 := congrArg Counters.rx counters
    have tx_zero : dev.txErrorCounter = 0 := congrArg Counters.tx counters
    have cleared : (clearBits dev bits).counters = ⟨0, 0, 1, 1⟩ := by
      simp only [Pcandev.counters, clearBits, rx_zero, tx_zero]
      rfl
    have fresh : (clearBits dev bits).counters.Fresh := by
      rw [cleared]
      unfold Counters.Fresh
      decide
    have valid : errorCountersMismatch (clearBits dev bits) = false := by
      simp only [errorCountersMismatch, clearBits, state, rx_zero, tx_zero]
      decide
    have id : (busStateNotice dev).msg.id = PcanfdStatus.errorActive.code :=
      congrArg PcanfdStatus.code state
    obtain ⟨posted, told | ⟨mismatch, _⟩⟩ := @post_fresh _ host (clearBits dev bits)
      (busStateNotice dev) _ (gate ▸ posting) (.inl rfl) rfl id fresh
    · have still : (pcanChardevRx host (clearBits dev bits) (busStateNotice dev)).1.busState =
          .errorActive := posted.busState.trans state
      refine ⟨⟨still, ?_⟩, _, posted.newest, ?_⟩
      · rw [told]
        simp only [Pcandev.counters, clearBits, PcanDriver.told, rx_zero, tx_zero]
      · rw [still]
        exact reported_reports host rfl errorBus_kind id
    · rw [valid] at mismatch
      cases mismatch

theorem pcanClearStatusBit_inv (bits : U16) (inv : ChannelInv dev)
    (other : bits &&& canErrOverrun = 0) : ChannelInv (pcanClearStatusBit host dev bits) := by
  unfold pcanClearStatusBit
  split
  · exact inv
  · apply pcanChardevRx_inv
    have bit : (clearBits dev bits).overrun = dev.overrun := by
      unfold Pcandev.overrun clearBits
      simp only [Masks.andNot_and_of_disjoint _ other]
    exact ⟨inv.opened, inv.several, fun blocked => inv.blocked (bit ▸ blocked)⟩

end Notice

section UsbWrites
variable (family : UsbFamily) (submit : Int) (host : Host)

/-- Writing over USB touches the receive side only by clearing a status bit. -/
theorem pcanUsbWrite_receive (dev : UsbDev) :
    ∃ dev1 : UsbDev, dev1.rxGate = dev.rxGate ∧ dev1.counters = dev.counters ∧
      (dev1.busState = dev.busState ∧ dev1.timeSync = dev.timeSync) ∧
      ((pcanUsbWrite family submit host dev).1 = dev1 ∨
        (pcanUsbWrite family submit host dev).1 = pcanClearStatusBit host dev1 canErrQxmtfull) := by
  unfold pcanUsbWrite
  split
  · exact ⟨dev, rfl, rfl, ⟨rfl, rfl⟩, .inl rfl⟩
  · simp only
    split
    · split
      · exact ⟨startUrb (encodedDev dev (fillWriteBuffer family dev)) (fillWriteBuffer family dev),
          rfl, rfl, ⟨rfl, rfl⟩, .inr rfl⟩
      · refine ⟨_, ?_, ?_, ⟨?_, ?_⟩, .inl rfl⟩ <;> rfl
    · refine ⟨_, ?_, ?_, ⟨?_, ?_⟩, .inl rfl⟩ <;> rfl

theorem pcanUsbWrite_timeSync (dev : UsbDev) :
    (pcanUsbWrite family submit host dev).1.timeSync = dev.timeSync := by
  obtain ⟨dev1, _, _, ⟨_, sync⟩, same | cleared⟩ := pcanUsbWrite_receive family submit host dev
  · rw [same, sync]
  · rw [cleared, ← sync]
    exact congrArg TransmitSide.timeSync (pcanClearStatusBit_transmit host dev1 canErrQxmtfull)

theorem pcanUsbWrite_law : WriteLaw 1 (pcanUsbWrite family submit host) where
  positive := Nat.le_refl 1
  inv dev inv := by
    obtain ⟨dev1, gate, _, _, same | cleared⟩ := pcanUsbWrite_receive family submit host dev
    · rw [same]
      exact channelInv_gate gate inv
    · rw [cleared]
      exact pcanClearStatusBit_inv host _ (channelInv_gate gate inv) (by decide)
  busState dev := by
    obtain ⟨dev1, _, _, ⟨state, _⟩, same | cleared⟩ := pcanUsbWrite_receive family submit host dev
    · rw [same, state]
    · rw [cleared, show (pcanClearStatusBit host dev1 canErrQxmtfull).busState = dev1.busState from
        congrArg TransmitSide.busState (pcanClearStatusBit_transmit host dev1 canErrQxmtfull), state]
  active dev posting state counters := by
    obtain ⟨dev1, gate, same_counters, ⟨same_state, _⟩, same | cleared⟩ :=
      pcanUsbWrite_receive family submit host dev
    · rw [same]
      exact .inl ⟨gate ▸ posting, same_counters.trans counters⟩
    · rw [cleared]
      exact pcanClearStatusBit_active host _ (gate ▸ posting) (same_state.trans state)
        (same_counters.trans counters)

end UsbWrites

section PciWrites
variable (host : Host) (stack : PcanfdRxmsg)

theorem pciWriteLoop_receive (fuel : Nat) (dev : PciDev) (lk : Bool) :
    ∃ dev1 : PciDev, dev1.rxGate = dev.rxGate ∧ dev1.counters = dev.counters ∧
      dev1.busState = dev.busState ∧
      ((pciWriteLoop host stack fuel dev lk).dev = dev1 ∨
        (pciWriteLoop host stack fuel dev lk).dev = postErrorCtrl host dev1 stack .txOverflow) := by
  induction fuel generalizing dev lk with
  | zero => exact ⟨dev, rfl, rfl, rfl, .inl rfl⟩
  | succ fuel ih =>
    unfold pciWriteLoop
    split
    · obtain ⟨dev1, gate, counters, state, done⟩ := ih (storeFrame dev _ _ _) lk
      exact ⟨dev1, gate, counters, state, done⟩
    · split
      · exact ⟨dev, rfl, rfl, rfl, .inl rfl⟩
      · split
        · simp only
          split
          · exact ⟨dev, rfl, rfl, rfl, .inr rfl⟩
          · exact ⟨dev, rfl, rfl, rfl, .inl rfl⟩
        · obtain ⟨dev1, gate, counters, state, done⟩ := ih (linkPage dev) true
          exact ⟨dev1, gate, counters, state, done⟩

theorem postErrorCtrl_inv {dev : PciDev} (inv : ChannelInv dev) :
    ChannelInv (postErrorCtrl host dev stack .txOverflow) :=
  pcanChardevRx_inv host _ (channelInv_gate (pcanHandleErrorCtrl_gate dev stack .txOverflow) inv)

theorem postErrorCtrl_posting {dev : PciDev} (posting : Posting 2 dev.rxGate) :
    Posting 1 (postErrorCtrl host dev stack .txOverflow).rxGate ∧
      (postErrorCtrl host dev stack .txOverflow).counters = dev.counters := by
  have gate := pcanHandleErrorCtrl_gate dev stack .txOverflow
  have room := posting.room
  obtain ⟨posted, counters⟩ := @post_event _ host
    (pcanHandleErrorCtrl dev stack .txOverflow).1
    (pcanHandleErrorCtrl dev stack .txOverflow).2
    (gate ▸ posting.weaken (by omega)) rfl (.inr rfl)
  refine ⟨⟨?_, ?_, posted.clear, ?_⟩, counters⟩
  · exact lt_of_lt_of_eq posting.opened posted.paths.symm
  · rw [show (postErrorCtrl host dev stack .txOverflow).rxGate.allowedMsgs =
      dev.rxGate.allowedMsgs from posted.allowed]
    exact posting.allowed
  · have length := posted.length
    have capacity := posted.capacity
    simp only [Pcandev.rxGate] at room ⊢
    exact Nat.le_trans (Nat.add_le_add_right length 1) (capacity ▸ room)

theorem pcifdDeviceWrite_receive (dev : PciDev) :
    ∃ dev1 : PciDev, dev1.rxGate = dev.rxGate ∧ dev1.counters = dev.counters ∧
      dev1.busState = dev.busState ∧
      ((pcifdDeviceWrite host stack dev).1 = dev1 ∨
        ∃ engine, (pcifdDeviceWrite host stack dev).1 =
          pcanSetTxEngine (postErrorCtrl host dev1 stack .txOverflow) engine) := by
  obtain ⟨dev1, gate, counters, state, done⟩ := pciWriteLoop_receive host stack
    (dev.writeFifo.items.length + dev.port.txPagesFree + 1) dev false
  unfold pcifdDeviceWrite
  simp only
  rcases done with same | posted
  · rw [same]
    split
    · exact ⟨dev1, gate, counters, state, .inl rfl⟩
    · exact ⟨pcanSetTxEngine dev1 .stopped, gate, counters, state, .inl rfl⟩
  · rw [posted]
    split
    · exact ⟨dev1, gate, counters, state, .inr ⟨_, rfl⟩⟩
    · exact ⟨dev1, gate, counters, state, .inr ⟨_, rfl⟩⟩

theorem pcifdDeviceWrite_law : WriteLaw 2 (pcifdDeviceWrite host stack) where
  positive := by decide
  inv dev inv := by
    obtain ⟨dev1, gate, _, _, same | ⟨engine, posted⟩⟩ := pcifdDeviceWrite_receive host stack dev
    · rw [same]
      exact channelInv_gate gate inv
    · rw [posted]
      have inv1 := postErrorCtrl_inv host stack (channelInv_gate gate inv)
      exact ⟨inv1.opened, inv1.several, inv1.blocked⟩
  busState dev := by
    obtain ⟨dev1, _, _, state, same | ⟨engine, posted⟩⟩ := pcifdDeviceWrite_receive host stack dev
    · rw [same, state]
    · rw [posted]
      exact (congrArg TransmitSide.busState
        (postErrorCtrl_transmit host dev1 stack .txOverflow)).trans state
  active dev posting _ counters := by
    left
    obtain ⟨dev1, gate, same_counters, _, same | ⟨engine, posted⟩⟩ :=
      pcifdDeviceWrite_receive host stack dev
    · rw [same]
      exact ⟨gate ▸ posting.weaken (by decide), same_counters.trans counters⟩
    · rw [posted]
      obtain ⟨after, kept⟩ := @postErrorCtrl_posting host stack dev1 (gate ▸ posting)
      exact ⟨after, kept.trans (same_counters.trans counters)⟩

end PciWrites

section Handlers
variable {write : Pcandev P → Pcandev P × Int} {slots : Nat} {dev : Pcandev P}

def busBitsState (busoff warning passive : Bool) : PcanfdStatus :=
  if busoff then .errorBusoff
  else if passive then .errorPassive
  else if warning then .errorWarning
  else .errorActive

/-- The message of a decoder that has seen the state change: it is about to tell the
    new state, or an equal message has just been queued. -/
structure Announced (dev : Pcandev P) (rx : PcanfdRxmsg) : Prop where
  type : rx.msg.type = .status
  kind : rx.msg.flags &&& ~~~driverFlags = pcanfdErrorBus
  id : rx.msg.id = dev.busState.code
  known : dev.busState.isKnown
  ready : Posting 1 dev.rxGate ∧ dev.counters.Fresh ∨ dev.toldActive ∧ newestReports dev

theorem u8_succ_ne (n : U8) : ¬n = n + 1 := by
  intro same
  bv_omega

theorem pcanSetBusState_state {state : PcanfdStatus} (known : state.isKnown) :
    (pcanSetBusState dev state).busState = state := by
  unfold pcanSetBusState
  split
  next same => exact same.symm
  next => rcases known with rfl | rfl | rfl | rfl <;> rfl

theorem pcanSetBusState_fresh {state : PcanfdStatus} (known : state.isKnown)
    (changed : state ≠ dev.busState) : (pcanSetBusState dev state).counters.Fresh := by
  unfold pcanSetBusState
  rw [if_neg changed]
  rcases known with rfl | rfl | rfl | rfl
  all_goals exact fun same => u8_succ_ne _ same.1

theorem pcanSetBusState_active (changed : dev.busState ≠ .errorActive) :
    (pcanSetBusState dev .errorActive).counters = ⟨0, 0, 1, 1⟩ := by
  unfold pcanSetBusState
  rw [if_neg changed.symm]
  rfl

theorem pcanSetBusState_announced {state : PcanfdStatus} {rx : PcanfdRxmsg}
    (known : state.isKnown) (posting : Posting 1 dev.rxGate) (changed : state ≠ dev.busState) :
    Announced (pcanSetBusState dev state) (rx.withStatus state) where
  type := rfl
  kind := errorBus_kind
  id := congrArg PcanfdStatus.code (pcanSetBusState_state known).symm
  known := (@pcanSetBusState_state _ dev _ known).symm ▸ known
  ready := .inl ⟨pcanSetBusState_gate dev state ▸ posting, pcanSetBusState_fresh known changed⟩

theorem pcanHandleErrorActive_busState (law : WriteLaw slots write) (rx : PcanfdRxmsg) :
    (pcanHandleErrorActive write dev rx).1.busState = .errorActive :=
  pcanHandleErrorActive_state law.busState dev rx

theorem pcanHandleErrorActive_announced (law : WriteLaw slots write) (rx : PcanfdRxmsg)
    (posting : Posting slots dev.rxGate) (changed : dev.busState ≠ .errorActive) :
    Announced (pcanHandleErrorActive write dev rx).1 (pcanHandleErrorActive write dev rx).2 := by
  have state := @pcanHandleErrorActive_busState _ _ _ dev law rx
  have message : (pcanHandleErrorActive write dev rx).2 =
      let status := rx.withStatus .errorActive
      { status with msg := { status.msg with data := Vector.replicate 64 0 } } := by
    unfold pcanHandleErrorActive
    simp only [if_pos changed]
  have counters := pcanSetBusState_active changed
  have gate := pcanSetBusState_gate dev .errorActive
  have fresh : (⟨0, 0, 1, 1⟩ : Counters).Fresh := by
    unfold Counters.Fresh
    decide
  have ready : Posting 1 (pcanHandleErrorActive write dev rx).1.rxGate ∧
        (pcanHandleErrorActive write dev rx).1.counters = ⟨0, 0, 1, 1⟩ ∨
      (pcanHandleErrorActive write dev rx).1.toldActive ∧
        newestReports (pcanHandleErrorActive write dev rx).1 := by
    have unwritten := posting.weaken law.positive
    rcases pcanHandleErrorActive_cases write dev rx with ⟨_, same⟩ | ⟨_, started⟩
    · rw [same]
      exact .inl ⟨gate ▸ unwritten, counters⟩
    · rw [started]
      rcases pcanDevStartWriting_cases write (pcanSetBusState dev .errorActive) with
        ⟨_, same⟩ | ⟨_, _, written⟩
      · rw [same]
        exact .inl ⟨gate ▸ unwritten, counters⟩
      · rw [written]
        exact law.active _ (gate ▸ posting) (pcanSetBusState_state (.inl rfl)) counters
  refine ⟨?_, ?_, ?_, state ▸ .inl rfl, ?_⟩
  · rw [message]
    rfl
  · rw [message]
    exact errorBus_kind
  · rw [message, state]
    rfl
  · exact ready.imp_left fun ⟨after, kept⟩ => ⟨after, kept ▸ fresh⟩

variable {busoff warning passive : Bool}

theorem busBitsState_known : (busBitsState busoff warning passive).isKnown := by
  cases busoff <;> cases warning <;> cases passive <;> simp [busBitsState, PcanfdStatus.isKnown]

theorem handleBusBits_cases (rx : PcanfdRxmsg) :
    let state := busBitsState busoff warning passive
    let handled := handleBusBits write dev rx busoff warning passive
    (dev.busState = state ∧ handled.1 = dev) ∨
      (∃ dev1 : Pcandev P, dev1.rxGate = dev.rxGate ∧
        (dev1.busState = dev.busState ∧ dev1.timeSync = dev.timeSync) ∧
        handled = (pcanSetBusState dev1 state, rx.withStatus state)) ∨
      (state = .errorActive ∧ dev.busState ≠ .errorActive ∧
        ∃ rx1, handled = pcanHandleErrorActive write dev rx1) := by
  unfold handleBusBits busBitsState pcanHandleErrorStatus pcanHandleBusoff
  cases busoff <;> cases passive <;> cases warning <;>
    simp only [Bool.false_eq_true, if_false, if_true]
  · by_cases active : dev.busState = .errorActive
    · simp only [if_pos active, if_true]
      exact .inl ⟨active, trivial⟩
    · simp only [if_neg active, Bool.false_eq_true, if_false]
      exact .inr (.inr ⟨trivial, active, _, rfl⟩)
  iterate 3 exact .inr (.inl
    ⟨{ dev with dwErrorCounter := dev.dwErrorCounter + 1 }, rfl, ⟨rfl, rfl⟩, rfl⟩)
  all_goals
    by_cases off : dev.busState = .errorBusoff
    · simp only [if_pos off]
      exact .inl ⟨off, trivial⟩
    · simp only [if_neg off]
      exact .inr (.inl ⟨dev, rfl, ⟨rfl, rfl⟩, rfl⟩)

theorem handleBusBits_busState (law : WriteLaw slots write) (rx : PcanfdRxmsg) :
    (handleBusBits write dev rx busoff warning passive).1.busState =
      busBitsState busoff warning passive := by
  rcases @handleBusBits_cases _ write dev busoff warning passive rx with
    ⟨state, same⟩ | ⟨dev1, _, _, entered⟩ | ⟨state, _, rx1, active⟩
  · rw [same, state]
  · rw [entered]
    exact pcanSetBusState_state busBitsState_known
  · rw [active, state]
    exact pcanHandleErrorActive_busState law rx1

theorem handleBusBits_announced (law : WriteLaw slots write) (rx : PcanfdRxmsg)
    (posting : Posting slots dev.rxGate)
    (changed : busBitsState busoff warning passive ≠ dev.busState) :
    Announced (handleBusBits write dev rx busoff warning passive).1
      (handleBusBits write dev rx busoff warning passive).2 := by
  rcases @handleBusBits_cases _ write dev busoff warning passive rx with
    ⟨state, _⟩ | ⟨dev1, gate, ⟨kept, _⟩, entered⟩ | ⟨_, other, rx1, active⟩
  · exact absurd state.symm changed
  · rw [entered]
    exact pcanSetBusState_announced busBitsState_known
      (gate ▸ posting.weaken law.positive) (kept ▸ changed)
  · rw [active]
    exact pcanHandleErrorActive_announced law rx1 posting other

theorem handleBusBits_inv (law : WriteLaw slots write) (rx : PcanfdRxmsg) (inv : ChannelInv dev) :
    ChannelInv (handleBusBits write dev rx busoff warning passive).1 := by
  rcases @handleBusBits_cases _ write dev busoff warning passive rx with
    ⟨_, same⟩ | ⟨dev1, gate, _, entered⟩ | ⟨_, _, rx1, active⟩
  · rw [same]
    exact inv
  · rw [entered]
    exact channelInv_gate ((pcanSetBusState_gate dev1 _).trans gate) inv
  · rw [active]
    have entered := channelInv_gate (pcanSetBusState_gate dev .errorActive) inv
    rcases pcanHandleErrorActive_cases write dev rx1 with ⟨_, same⟩ | ⟨_, started⟩
    · rw [same]
      exact entered
    · rw [started]
      rcases pcanDevStartWriting_cases write (pcanSetBusState dev .errorActive) with
        ⟨_, same⟩ | ⟨_, _, written⟩
      · rw [same]
        exact entered
      · rw [written]
        exact law.inv _ entered

end Handlers

section Decoders
variable (host : Host) {write : Pcandev P → Pcandev P × Int} {slots : Nat} {dev : Pcandev P}

theorem Announced.retouched {rx rx' : PcanfdRxmsg} (announced : Announced dev rx)
    (type : rx'.msg.type = rx.msg.type) (id : rx'.msg.id = rx.msg.id)
    (flags : rx'.msg.flags &&& ~~~driverFlags = rx.msg.flags &&& ~~~driverFlags) :
    Announced dev rx' :=
  ⟨type.trans announced.type, flags.trans announced.kind, id.trans announced.id,
    announced.known, announced.ready⟩

theorem Announced.stamped {rx : PcanfdRxmsg} (announced : Announced dev rx)
    (hwtv : Option PcanTimeval) : Announced dev (rx.stamped hwtv) := by
  cases hwtv with
  | none => exact announced
  | some hwtv =>
    exact announced.retouched rfl rfl (Masks.or_and_of_disjoint _ (by decide))

theorem Announced.synced {rx : PcanfdRxmsg} (announced : Announced dev rx) (sync : TimeSync) :
    Announced { dev with timeSync := sync } rx :=
  ⟨announced.type, announced.kind, announced.id, announced.known, announced.ready⟩

theorem Announced.withData {rx : PcanfdRxmsg} (announced : Announced dev rx)
    (bytes : List U8) : Announced dev (rx.withData bytes) := by
  have flags : (rx.withData bytes).msg.flags = rx.msg.flags := by
    simp only [PcanfdRxmsg.withData]
  refine announced.retouched ?_ ?_ (by rw [flags])
  · simp only [PcanfdRxmsg.withData]
  · simp only [PcanfdRxmsg.withData]

theorem Announced.posted {rx : PcanfdRxmsg} (announced : Announced dev rx) :
    newestReports (postUnlessNop host dev rx).1 := by
  have posts : ¬rx.msg.type = .nop := by
    rw [announced.type]
    decide
  unfold postUnlessNop
  rw [if_neg posts]
  rcases announced.ready with ⟨posting, fresh⟩ | ⟨active, reports⟩
  · obtain ⟨posted, _⟩ := post_fresh host posting announced.known announced.type announced.id fresh
    refine ⟨_, posted.newest, ?_⟩
    rw [posted.busState]
    exact reported_reports host announced.type announced.kind announced.id
  · obtain ⟨m, newest, told⟩ := reports
    have id : rx.msg.id = PcanfdStatus.errorActive.code := by rw [announced.id, active.1]
    have fifo := post_repeat host active announced.type id
    have state : (pcanChardevRx host dev rx).1.busState = dev.busState :=
      congrArg TransmitSide.busState (pcanChardevRx_transmit host dev rx)
    exact ⟨m, by rw [fifo, newest], by rw [state]; exact told⟩

theorem postUnlessNop_inv (rx : PcanfdRxmsg) (inv : ChannelInv dev) :
    ChannelInv (postUnlessNop host dev rx).1 := by
  unfold postUnlessNop
  split
  · exact inv
  · exact pcanChardevRx_inv host rx inv

theorem postUnlessNop_busState (rx : PcanfdRxmsg) :
    (postUnlessNop host dev rx).1.busState = dev.busState := by
  unfold postUnlessNop
  split
  · rfl
  · exact congrArg TransmitSide.busState (pcanChardevRx_transmit host dev rx)

theorem usbproErrorCounters_receive (rawStatus errorFrame : U32) :
    (usbproErrorCounters dev rawStatus errorFrame).rxGate = dev.rxGate ∧
      (usbproErrorCounters dev rawStatus errorFrame).busState = dev.busState := by
  unfold usbproErrorCounters
  split <;> exact ⟨rfl, rfl⟩

theorem usbproOverruns_receive (f : PcanfdRxmsg) (rawStatus : U32) :
    (usbproOverruns dev f rawStatus).1.rxGate = dev.rxGate ∧
      (usbproOverruns dev f rawStatus).1.busState = dev.busState := by
  unfold usbproOverruns
  simp only
  split <;> split
  · exact ⟨(pcanHandleErrorCtrl_gate _ _ _).trans (pcanHandleErrorProtocol_gate _ _ _), rfl⟩
  · exact ⟨pcanHandleErrorCtrl_gate _ _ _, rfl⟩
  · exact ⟨pcanHandleErrorProtocol_gate _ _ _, rfl⟩
  · exact ⟨rfl, rfl⟩

theorem pcanUsbCtrlErrors_receive (rx : PcanfdRxmsg) (ucNumber : U8) :
    (pcanUsbCtrlErrors dev rx ucNumber).1.rxGate = dev.rxGate ∧
      (pcanUsbCtrlErrors dev rx ucNumber).1.busState = dev.busState := by
  unfold pcanUsbCtrlErrors
  simp only
  split <;> split
  · exact ⟨(pcanHandleErrorCtrl_gate _ _ _).trans (pcanHandleErrorCtrl_gate _ _ _), rfl⟩
  · exact ⟨pcanHandleErrorCtrl_gate _ _ _, rfl⟩
  · exact ⟨pcanHandleErrorCtrl_gate _ _ _, rfl⟩
  · exact ⟨rfl, rfl⟩

def StatusRecord.busState : StatusRecord → PcanfdStatus
  | .ucan _ busoff warning passive _ => busBitsState busoff warning passive
  | .usbPro _ rawStatus errorFrame _ => busBitsState (rawStatus &&& fwUsbproStatusMaskBusS ≠ 0)
      (rawStatus &&& fwUsbproStatusMaskErrorS ≠ 0) (usbproPassive errorFrame)
  | .pcanUsb _ ucNumber _ => busBitsState (ucNumber &&& busOff ≠ 0) (ucNumber &&& busLight ≠ 0)
      (ucNumber &&& busHeavy ≠ 0)

def StatusRecord.overrun : StatusRecord → Bool
  | .usbPro _ rawStatus _ _ => rawStatus &&& fwUsbproStatusMaskOverrunS ≠ 0 ∨
      rawStatus &&& fwUsbproStatusMaskQoverrunS ≠ 0
  | _ => false

theorem countFailure_count (dev : Pcandev P) (err : Int) :
    ∃ count, countFailure dev err = { dev with dwErrorCounter := count } := by
  unfold countFailure
  split
  · exact ⟨_, rfl⟩
  · exact ⟨dev.dwErrorCounter, rfl⟩

/-- Where the record of a USB-Pro ends, whatever it has posted. -/
theorem pcanUsbproHandleStatusErrRx_post (time : UsbTime)
    (rawStatus errorFrame timestamp32 : U32) :
    ∃ sync hwtv count,
      (pcanUsbproHandleStatusErrRx write host time dev rawStatus errorFrame timestamp32).1 =
        let handled := usbproStatus write dev rawStatus errorFrame
        { (postUnlessNop host { handled.1 with timeSync := sync } (handled.2.stamped hwtv)).1 with
          dwErrorCounter := count } := by
  unfold pcanUsbproHandleStatusErrRx
  simp only
  generalize usbproStatus write dev rawStatus errorFrame = handled
  split
  next nop =>
    refine ⟨handled.1.timeSync, none, handled.1.dwErrorCounter, ?_⟩
    simp only [postUnlessNop, PcanfdRxmsg.stamped, nop, if_true]
  next posts =>
    rw [pcanUsbproTimestampDecode_sync]
    generalize time.decodedSync host handled.1.timeSync timestamp32 = sync
    generalize (pcanUsbproTimestampDecode host time handled.1 timestamp32).2 = hwtv
    have stamped : ¬(handled.2.stamped hwtv).msg.type = .nop := by
      cases hwtv <;> exact posts
    obtain ⟨count, counted⟩ := countFailure_count
      (pcanChardevRx host { handled.1 with timeSync := sync } (handled.2.stamped hwtv)).1
      (pcanChardevRx host { handled.1 with timeSync := sync } (handled.2.stamped hwtv)).2.2
    refine ⟨sync, hwtv, count, counted.trans ?_⟩
    rw [postUnlessNop, if_neg stamped]

theorem decodeStatus_busState (law : WriteLaw slots write) (record : StatusRecord) :
    (decodeStatus write host dev record).1.busState = record.busState := by
  cases record with
  | ucan stack busoff warning passive ptv =>
    exact (postUnlessNop_busState host _).trans (handleBusBits_busState law _)
  | usbPro time rawStatus errorFrame timestamp32 =>
    obtain ⟨sync, hwtv, count, posted⟩ := @pcanUsbproHandleStatusErrRx_post _ host
      write dev time rawStatus errorFrame timestamp32
    refine (congrArg Pcandev.busState posted).trans ?_
    exact (postUnlessNop_busState host _).trans
      ((usbproOverruns_receive _ _).2.trans (handleBusBits_busState law _))
  | pcanUsb rx ucNumber bytes =>
    exact (postUnlessNop_busState host _).trans (handleBusBits_busState law _)

theorem decodeStatus_inv (law : WriteLaw slots write) (record : StatusRecord)
    (inv : ChannelInv dev) : ChannelInv (decodeStatus write host dev record).1 := by
  cases record with
  | ucan stack busoff warning passive ptv =>
    exact postUnlessNop_inv host _ (handleBusBits_inv law _ inv)
  | usbPro time rawStatus errorFrame timestamp32 =>
    obtain ⟨sync, hwtv, count, posted⟩ := @pcanUsbproHandleStatusErrRx_post _ host
      write dev time rawStatus errorFrame timestamp32
    have counted := channelInv_gate (usbproErrorCounters_receive rawStatus errorFrame).1 inv
    show ChannelInv (pcanUsbproHandleStatusErrRx write host time dev rawStatus errorFrame timestamp32).1
    rw [posted]
    exact channelInv_counted (postUnlessNop_inv host _
      (channelInv_gate (usbproOverruns_receive _ rawStatus).1 (handleBusBits_inv law _ counted)))
  | pcanUsb rx ucNumber bytes =>
    exact postUnlessNop_inv host _ (handleBusBits_inv law _
      (channelInv_gate (pcanUsbCtrlErrors_receive rx ucNumber).1 inv))

theorem decodeStatus_reports (law : WriteLaw slots write) {record : StatusRecord}
    (clean : record.overrun = false) (posting : Posting slots dev.rxGate)
    (changed : record.busState ≠ dev.busState) :
    newestReports (decodeStatus write host dev record).1 := by
  cases record with
  | ucan stack busoff warning passive ptv =>
    exact ((handleBusBits_announced law stack posting changed).stamped ptv).posted host
  | usbPro time rawStatus errorFrame timestamp32 =>
    obtain ⟨sync, hwtv, count, posted⟩ := @pcanUsbproHandleStatusErrRx_post _ host
      write dev time rawStatus errorFrame timestamp32
    obtain ⟨gate, state⟩ := @usbproErrorCounters_receive _ dev rawStatus errorFrame
    have announced := handleBusBits_announced law PcanfdRxmsg.zero (gate ▸ posting)
      (state ▸ changed)
    obtain ⟨no_overrun, no_qoverrun⟩ : ¬(rawStatus &&& fwUsbproStatusMaskOverrunS ≠ 0) ∧
        ¬(rawStatus &&& fwUsbproStatusMaskQoverrunS ≠ 0) := by
      simpa only [StatusRecord.overrun, decide_eq_false_iff_not, not_or] using clean
    obtain ⟨m, newest, reports⟩ := ((announced.synced sync).stamped hwtv).posted host
    show newestReports (pcanUsbproHandleStatusErrRx write host time dev rawStatus errorFrame timestamp32).1
    rw [posted]
    simp only [usbproStatus, usbproOverruns, if_neg no_overrun, if_neg no_qoverrun]
    exact ⟨m, newest, reports⟩
  | pcanUsb rx ucNumber bytes =>
    obtain ⟨gate, state⟩ := @pcanUsbCtrlErrors_receive _ dev rx ucNumber
    have announced := handleBusBits_announced law (pcanUsbCtrlErrors dev rx ucNumber).2
      (gate ▸ posting) (state ▸ changed)
    exact (announced.withData bytes).posted host

end Decoders

/-- A status record is decoded, letting the interface write in the way `W` tells, or
    something else happens to the channel. -/
inductive StatusCall (P W : Type) where
  | record (how : W) (host : Host) (record : StatusRecord)
  | channel (call : ChannelCall P)

def statusStep {W : Type} (write : W → Pcandev P → Pcandev P × Int) (dev : Pcandev P) :
    StatusCall P W → Pcandev P × Option Int
  | .record how host record =>
    let decoded := decodeStatus (write how) host dev record
    (decoded.1, some decoded.2)
  | .channel call => ((channelStep dev call).1, none)

/-- A record that tells of an overrun does not change the bus state. -/
def OverrunApart {W : Type} (dev : Pcandev P) : StatusCall P W → Prop
  | .record _ _ record => record.overrun = true → record.busState = dev.busState
  | .channel _ => True

/-- If STATUS messages are allowed and the queue has room for `slots` of them, a
    record that changes the bus state leaves the new one as the newest message. -/
def ChangeReported {W : Type} (slots : Nat)
    (t : Transition (Pcandev P) (StatusCall P W) (Option Int)) : Prop :=
  match t.input with
  | .record _ _ _ => t.before.allowedMsgs &&& pcanfdAllowedMsgStatus ≠ 0 →
      t.before.readFifo.items.length + slots ≤ t.before.readFifo.capacity →
      t.after.busState ≠ t.before.busState → newestReports t.after
  | .channel _ => True

section Runs
variable {W : Type} {write : W → Pcandev P → Pcandev P × Int} {slots : Nat}

theorem statusStep_inv (law : ∀ how, WriteLaw slots (write how)) {dev : Pcandev P}
    (inv : ChannelInv dev) (call : StatusCall P W) : ChannelInv (statusStep write dev call).1 := by
  cases call with
  | record how host record => exact decodeStatus_inv host (law how) record inv
  | channel call => exact (channelStep_change inv call).1

theorem ChannelInv.posting {dev : Pcandev P} (inv : ChannelInv dev)
    (allowed : dev.allowedMsgs &&& pcanfdAllowedMsgStatus ≠ 0) (positive : 1 ≤ slots)
    (room : dev.readFifo.items.length + slots ≤ dev.readFifo.capacity) :
    Posting slots dev.rxGate := by
  refine ⟨inv.opened, allowed, ?_, room⟩
  by_contra blocked
  have full := inv.blocked (by simpa [Pcandev.rxGate] using blocked)
  omega

theorem statusStep_reports (law : ∀ how, WriteLaw slots (write how)) {dev : Pcandev P}
    (inv : ChannelInv dev) {call : StatusCall P W} (apart : OverrunApart dev call) :
    ChangeReported slots
      ⟨dev, call, (statusStep write dev call).2, (statusStep write dev call).1⟩ := by
  cases call with
  | channel call => trivial
  | record how host record =>
    intro allowed room changed
    have entered : record.busState ≠ dev.busState := by
      rw [← @decodeStatus_busState _ host _ _ dev (law how) record]
      exact changed
    have clean : record.overrun = false := by
      cases bits : record.overrun
      · rfl
      · exact absurd (apart bits) entered
    exact decodeStatus_reports host (law how) clean
      (inv.posting allowed (law how).positive room) entered

theorem statusRun_reports (law : ∀ how, WriteLaw slots (write how)) {dev : Pcandev P}
    (inv : ChannelInv dev) {calls : List (StatusCall P W)}
    (apart : Admitted OverrunApart (statusStep write) dev calls) :
    ∀ t ∈ transitions (statusStep write) dev calls, ChangeReported slots t :=
  transitions_invariant (fun _ call kept _ => statusStep_inv law kept call)
    (fun _ _ kept apart => statusStep_reports law kept apart) inv apart

end Runs

/-- The integer is the answer of `__usb_submit_urb`. -/
def usbStatusWrite (family : UsbFamily) (how : Int × Host) (dev : UsbDev) : UsbDev × Int :=
  pcanUsbWrite family how.1 how.2 dev

def pciStatusWrite (how : Host × PcanfdRxmsg) (dev : PciDev) : PciDev × Int :=
  pcifdDeviceWrite how.1 how.2 dev

/-- Over any run of an opened channel the application is told every change of the bus
    state, unless a USB-Pro record brings an overrun along with it. A USB device
    needs one free slot for it; a PCIe board may use another one to tell that its
    transmit pages are full. -/
theorem bus_state_changes_reported (family : UsbFamily) (usb : UsbDev) (pci : PciDev)
    (usbCalls : List (StatusCall UsbPort (Int × Host)))
    (pciCalls : List (StatusCall PciPort (Host × PcanfdRxmsg))) :
    (0 < usb.nOpenPaths → 2 ≤ usb.readFifo.capacity → usb.overrun = false →
      Admitted OverrunApart (statusStep (usbStatusWrite family)) usb usbCalls →
      ∀ t ∈ transitions (statusStep (usbStatusWrite family)) usb usbCalls, ChangeReported 1 t) ∧
    (0 < pci.nOpenPaths → 2 ≤ pci.readFifo.capacity → pci.overrun = false →
      Admitted OverrunApart (statusStep pciStatusWrite) pci pciCalls →
      ∀ t ∈ transitions (statusStep pciStatusWrite) pci pciCalls, ChangeReported 2 t) := by
  have start : ∀ {P : Type} {dev : Pcandev P}, 0 < dev.nOpenPaths → 2 ≤ dev.readFifo.capacity →
      dev.overrun = false → ChannelInv dev := fun opened several clear =>
    ⟨opened, several, fun blocked => by rw [clear] at blocked; cases blocked⟩
  constructor
  · intro opened several clear apart
    have law : ∀ how, WriteLaw 1 (usbStatusWrite family how) :=
      fun how => pcanUsbWrite_law family how.1 how.2
    exact statusRun_reports law (start opened several clear) apart
  · intro opened several clear apart
    have law : ∀ how, WriteLaw 2 (pciStatusWrite how) :=
      fun how => pcifdDeviceWrite_law how.1 how.2
    exact statusRun_reports law (start opened several clear) apart

/-- A USB-Pro becomes active and then warns; the overrun it tells later leaves the
    state alone. -/
theorem bus_state_changes_reported_sample :
    let usb : UsbDev := openedChannel ⟨512, 512, 0, 0, false, []⟩ 4 4 pcanDevErrcntRdy
    let pci : PciDev := openedChannel ⟨0, 1, 0, Vector.replicate 2 ⟨0, 2036⟩, 0, [], 0, 0, 0⟩ 4 4 0
    let records : List (StatusCall UsbPort (Int × Host)) :=
      [.record (0, sampleHost) sampleHost (.usbPro default 0 0 0),
        .record (0, sampleHost) sampleHost (.usbPro default fwUsbproStatusMaskErrorS 0 0),
        .record (0, sampleHost) sampleHost (.usbPro default
          (fwUsbproStatusMaskErrorS ||| fwUsbproStatusMaskOverrunS) 0 0)]
    let barrier : List (StatusCall PciPort (Host × PcanfdRxmsg)) :=
      [.record (sampleHost, .zero) sampleHost (.ucan .zero true false false none)]
    (∀ t ∈ transitions (statusStep (usbStatusWrite .usbPro)) usb records, ChangeReported 1 t) ∧
      (∀ t ∈ transitions (statusStep pciStatusWrite) pci barrier, ChangeReported 2 t) ∧
      (run (statusStep (usbStatusWrite .usbPro)) usb records).1.readFifo.items.map (·.msg.id) =
        [PcanfdStatus.errorActive.code, PcanfdStatus.errorWarning.code,
          PcanfdStatus.rxOverflow.code] := by
  intro usb pci records barrier
  obtain ⟨usbReported, pciReported⟩ :=
    bus_state_changes_reported .usbPro usb pci records barrier
  refine ⟨usbReported (by decide) (by decide) (by decide) ?_,
    pciReported (by decide) (by decide) (by decide) ?_, by decide +kernel⟩
  · exact ⟨fun overrun => absurd overrun (by decide), fun overrun => absurd overrun (by decide),
      fun _ => by decide +kernel, trivial⟩
  · exact ⟨fun overrun => absurd overrun (by decide), trivial⟩

/-- The overrun bit of a USB-Pro record takes the message of the new bus state. -/
theorem overrun_hides_bus_state :
    let usb : UsbDev := openedChannel ⟨512, 512, 0, 0, false, []⟩ 4 4 pcanDevErrcntRdy
    let record : StatusRecord :=
      .usbPro default (fwUsbproStatusMaskErrorS ||| fwUsbproStatusMaskOverrunS) 0 0
    ¬∀ t ∈ transitions (statusStep (usbStatusWrite .usbPro)) usb
      [.record (0, sampleHost) sampleHost record], ChangeReported 1 t := by
  intro usb record reported
  obtain ⟨m, newest, reports⟩ := reported _ (List.mem_singleton.mpr rfl) (by decide +kernel)
    (by decide +kernel) (by decide +kernel)
  have kinds : ((statusStep (usbStatusWrite .usbPro) usb
      (.record (0, sampleHost) sampleHost record)).1.readFifo.newest.map
        (·.msg.flags &&& ~~~driverFlags)) = some pcanfdErrorProtocol := by decide +kernel
  rw [newest, Option.map_some, reports.kind] at kinds
  revert kinds
  decide

end PcanDriver

import PcanDriver.Lib.TaggedMailbox
import PcanDriver.ReceiveTimes

/-!
Reception by a PCIe FD board (`pcanfd_pci.c`). The channels of a board share one
interrupt line, and each of them has its own DMA area. The board fills the area once
for every acknowledge; the tag in its first word tells the handler whether it is new.
-/
namespace PcanDriver
open StepSystem
variable {n : Nat}

section Model

/-- `struct ucan_pci_irq_status`, the first word of a DMA area. -/
structure UcanPciIrqStatus where
  irqTag : U32
  rxCnt : Nat
  lnk : Bool
deriving Repr, DecidableEq

def irqStatus (rxDma : Nat → U8) : UcanPciIrqStatus :=
  let word := u32At rxDma 0
  ⟨word &&& 0xf, ((word >>> 4) &&& 0x7f).toNat, word &&& 0x10000 ≠ 0⟩

/-- What reception keeps of a channel beside its device. `rxCtlAck` is the register
    PCIEFD_REG_RX_CTL_ACK until the board has used the tag in it. -/
structure PcifdRx where
  irqTag : U32
  rxDma : Nat → U8
  dwInterruptCounter : U32
  rxCtlAck : Option U32

/-- `struct pcifd_adapter` with its `n + 1` channels. -/
structure PcifdAdapter (n : Nat) where
  devs : Fin (n + 1) → PciDev
  rx : Fin (n + 1) → PcifdRx

/-- What a handler takes from the outside: the clock, and uninitialised memory for a
    message. -/
structure PciEnv where
  host : Host
  stack : PcanfdRxmsg
deriving Repr, DecidableEq

/-- The same for an interrupt: when it reads the clock first, for each record, and for
    the LNK part. -/
structure PciIrqEnv where
  sync : Host
  record : Nat → PciEnv
  lnk : PciEnv

/-- What `pcifd_handlers` and `ucan_pcie_handle_private_msg` do something with. -/
def pcifdHandlers (type : U16) : Option PcifdMsg :=
  if type = ucanMsgCanRx then some .canRx
  else if type = ucanMsgError then some .error
  else if type = ucanMsgStatus then some .status
  else if type = ucanMsgBusload then some .busLoad
  else if type = 0x0102 then some .cacheCritical
  else none

def PcifdMsg.channel (msg : Nat → U8) : PcifdMsg → Nat
  | .canRx => (msg 20 &&& 0x0f).toNat
  | _ => (msg 12 &&& 0x0f).toNat

def pcifdDispatch (env : PciEnv) (devs : Fin (n + 1) → PciDev) (kind : PcifdMsg)
    (msg : Nat → U8) : (Fin (n + 1) → PciDev) × Int :=
  if h : kind.channel msg < n + 1 then
    let done := pcifdHandle env.host env.stack (devs ⟨_, h⟩) msg kind
    (Function.update devs ⟨_, h⟩ done.1, done.2)
  else (devs, 0)

/-- `ucan_handle_msg` with the handlers of a PCIe board. Messages of an unknown type
    are stepped over. -/
def pcifdHandleMsg (env : PciEnv) (devs : Fin (n + 1) → PciDev) (msg : Nat → U8) :
    (Fin (n + 1) → PciDev) × Int :=
  let size : Int := (u16At msg 0).toNat
  let type := u16At msg 2
  if u16At msg 0 = 0 ∨ type = 0 then (devs, size)
  else if type = ucanCmdEndOfCollection ∨ type = 0xffff then (devs, 0)
  else
    match pcifdHandlers type with
    | none => (devs, size)
    | some kind =>
      let done := pcifdDispatch env devs kind msg
      (done.1, if done.2 < 0 then done.2 else size)

/-- `msgCount` is the value left in `*msg_count`. -/
structure MsgsList (n : Nat) where
  devs : Fin (n + 1) → PciDev
  msgCount : Nat
  err : Int

/-- The loop of `ucan_handle_msgs_list` from the message at `ptr` on, which is number
    `i`, with `left` messages to come. -/
def ucanHandleMsgsList (env : Nat → PciEnv) (mem : Nat → U8) :
    Nat → Nat → Nat → (Fin (n + 1) → PciDev) → MsgsList n
  | 0, i, _, devs => ⟨devs, i, 0⟩
  | left + 1, i, ptr, devs =>
    let done := pcifdHandleMsg (env i) devs fun k => mem (ptr + k)
    if done.2 ≤ 0 then ⟨done.1, i, done.2⟩
    else ucanHandleMsgsList env mem left (i + 1) (ptr + align4 done.2.toNat) done.1

def rxDmaMsg (rxDma : Nat → U8) : Nat → U8 := fun k => rxDma (12 + k)

/-- What `pcifd_irq_handler` does with the content of the DMA area of channel `ci`. -/
def pcifdHandleArea (env : PciIrqEnv) (devs : Fin (n + 1) → PciDev) (ci : Fin (n + 1))
    (rxDma : Nat → U8) : Fin (n + 1) → PciDev :=
  let status := irqStatus rxDma
  let synced := Function.update devs ci
    (pcanSyncTimes env.sync (devs ci) (u32At rxDma 4) (u32At rxDma 8) 0).1
  let devs := (ucanHandleMsgsList env.record (rxDmaMsg rxDma) status.rxCnt 0 0 synced).devs
  if status.lnk then
    Function.update devs ci (pcifdLnkIrq env.lnk.host env.lnk.stack (devs ci))
  else devs

def nextIrqTag (rxDma : Nat → U8) : U32 := (u32At rxDma 0 + 1) &&& 0xf

def pcifdDmaAck (rx : PcifdRx) : PcifdRx :=
  { rx with irqTag := nextIrqTag rx.rxDma, rxCtlAck := some (nextIrqTag rx.rxDma) }

/-- The second component tells whether the interrupt was for this channel. -/
def pcifdIrqHandler (env : PciIrqEnv) (ua : PcifdAdapter n) (ci : Fin (n + 1)) :
    PcifdAdapter n × Bool :=
  let rx := ua.rx ci
  let status := irqStatus rx.rxDma
  if status.irqTag ≠ rx.irqTag then (ua, false)
  else if status.rxCnt = 0 ∧ status.lnk = false then (ua, false)
  else
    let acked := pcifdDmaAck { rx with dwInterruptCounter := rx.dwInterruptCounter + 1 }
    (⟨pcifdHandleArea env ua.devs ci rx.rxDma, Function.update ua.rx ci acked⟩, true)

/-- How `pcifd_device_open` starts reception, whatever the area holds. -/
def pcifdRxStart (rx : PcifdRx) (rxDma : Nat → U8) : PcifdRx := pcifdDmaAck { rx with rxDma := rxDma }

/-- The board writes a batch of messages, or a LNK, into the area of a channel. -/
def PcifdRx.dma (rx : PcifdRx) (rxDma : Nat → U8) : PcifdRx :=
  { rx with rxDma := rxDma, rxCtlAck := none }

end Model

section Mailbox
open TaggedMailbox

def areaTag (rxDma : Nat → U8) : U32 := (irqStatus rxDma).irqTag

def tagAfter (tag : U32) : U32 := (tag + 1) &&& 0xf

/-- Messages or a LNK; anything else is taken for a spurious interrupt. -/
def areaReady (rxDma : Nat → U8) : Bool :=
  decide ((irqStatus rxDma).rxCnt ≠ 0) || (irqStatus rxDma).lnk

/-- A DMA area and its tags are a mailbox; the acknowledge gives the next tag. -/
def PcifdRx.mailbox (rx : PcifdRx) : Mailbox (Nat → U8) U32 := ⟨rx.rxDma, rx.irqTag, rx.rxCtlAck⟩

def PcifdRx.unread (rx : PcifdRx) : Option (Nat → U8) := rx.mailbox.unread areaTag

theorem toNat_and_fifteen (w : U32) : (w &&& 0xf).toNat = w.toNat % 16 := by
  rw [BitVec.toNat_and]
  exact Nat.and_two_pow_sub_one_eq_mod w.toNat 4

theorem tagAfter_toNat (tag : U32) : (tagAfter tag).toNat = (tag.toNat + 1) % 16 := by
  rw [tagAfter, toNat_and_fifteen, BitVec.toNat_add]
  show (tag.toNat + 1) % 2 ^ 32 % 16 = _
  omega

theorem tagAfter_ne (tag : U32) : tagAfter tag ≠ tag := by
  intro same
  have values := congrArg BitVec.toNat same
  rw [tagAfter_toNat] at values
  omega

theorem nextIrqTag_eq (rxDma : Nat → U8) : nextIrqTag rxDma = tagAfter (areaTag rxDma) := by
  apply BitVec.eq_of_toNat_eq
  have word : (nextIrqTag rxDma).toNat = ((u32At rxDma 0).toNat + 1) % 16 :=
    tagAfter_toNat (u32At rxDma 0)
  have low : (areaTag rxDma).toNat = (u32At rxDma 0).toNat % 16 := toNat_and_fifteen _
  rw [word, tagAfter_toNat, low]
  omega

theorem pcifdDmaAck_mailbox (rx : PcifdRx) :
    (pcifdDmaAck rx).mailbox = opened areaTag tagAfter rx.rxDma := by
  simp only [pcifdDmaAck, PcifdRx.mailbox, opened, nextIrqTag_eq]

/-- The handler takes what the mailbox gives: it handles an unread area that holds
    something, and leaves everything as it is otherwise. -/
theorem pcifdIrqHandler_eq (env : PciIrqEnv) (ua : PcifdAdapter n) (ci : Fin (n + 1)) :
    pcifdIrqHandler env ua ci =
      match ((ua.rx ci).mailbox.take areaTag tagAfter areaReady).2 with
      | none => (ua, false)
      | some rxDma =>
        (⟨pcifdHandleArea env ua.devs ci rxDma, Function.update ua.rx ci (pcifdDmaAck
          { ua.rx ci with dwInterruptCounter := (ua.rx ci).dwInterruptCounter + 1 })⟩, true) := by
  unfold pcifdIrqHandler
  simp only
  by_cases new : (irqStatus (ua.rx ci).rxDma).irqTag = (ua.rx ci).irqTag
  · rw [if_neg (not_not.mpr new)]
    by_cases full : areaReady (ua.rx ci).rxDma = true
    · have taken : ((ua.rx ci).mailbox.take areaTag tagAfter areaReady).2 = some (ua.rx ci).rxDma :=
        congrArg Prod.snd (if_pos ⟨new, full⟩)
      rw [taken, if_neg]
      rintro ⟨no_messages, no_lnk⟩
      simp [areaReady, no_messages, no_lnk] at full
    · have kept : ((ua.rx ci).mailbox.take areaTag tagAfter areaReady).2 = none :=
        congrArg Prod.snd (if_neg fun both => full both.2)
      rw [kept, if_pos]
      simpa [areaReady] using full
  · have kept : ((ua.rx ci).mailbox.take areaTag tagAfter areaReady).2 = none :=
      congrArg Prod.snd (if_neg fun both => new both.1)
    rw [if_pos new, kept]

end Mailbox

section Runs
variable (ci cj : Fin (n + 1))

/-- What happens to a board. An interrupt calls the handler of a channel, whatever has
    raised it; a call is anything else that the driver does with a channel. -/
inductive RxEvent (n : Nat) where
  | dma (ci : Fin (n + 1)) (rxDma : Nat → U8)
  | interrupt (ci : Fin (n + 1)) (env : PciIrqEnv)
  | restart (ci : Fin (n + 1)) (rxDma : Nat → U8)
  | call (ci : Fin (n + 1)) (f : PciDev → PciDev)

/-- A batch is not in its area any more, because it was handled or by a restart. -/
structure LeftBatch (n : Nat) where
  ci : Fin (n + 1)
  rxDma : Nat → U8
  handled : Bool

def rxStep (ua : PcifdAdapter n) : RxEvent n → PcifdAdapter n × Option (LeftBatch n)
  | .dma ci rxDma => ({ ua with rx := Function.update ua.rx ci ((ua.rx ci).dma rxDma) }, none)
  | .interrupt ci env =>
    let done := pcifdIrqHandler env ua ci
    (done.1, if done.2 then some ⟨ci, (ua.rx ci).rxDma, true⟩ else none)
  | .restart ci rxDma =>
    ({ ua with rx := Function.update ua.rx ci (pcifdRxStart (ua.rx ci) rxDma) },
      (ua.rx ci).unread.map fun old => ⟨ci, old, false⟩)
  | .call ci f => ({ ua with devs := Function.update ua.devs ci (f (ua.devs ci)) }, none)

/-- The board uses every acknowledge once, with the tag it was given. -/
def TagsUsedOnce (ua : PcifdAdapter n) : RxEvent n → Prop
  | .dma ci rxDma => (ua.rx ci).rxCtlAck = some (areaTag rxDma)
  | _ => True

/-- Reception has been started on all channels, whatever the areas held. -/
def pcifdStarted (ua : PcifdAdapter n) : PcifdAdapter n :=
  { ua with rx := fun ci => pcifdRxStart (ua.rx ci) (ua.rx ci).rxDma }

/-- A board without tags: a batch is unread until its channel's handler is called. -/
structure UnreadBatches (n : Nat) where
  devs : Fin (n + 1) → PciDev
  dwInterruptCounter : Fin (n + 1) → U32
  unread : Fin (n + 1) → Option (Nat → U8)

def unreadStep (s : UnreadBatches n) : RxEvent n → UnreadBatches n × Option (LeftBatch n)
  | .dma ci rxDma => ({ s with unread := Function.update s.unread ci (some rxDma) }, none)
  | .interrupt ci env =>
    match (s.unread ci).filter areaReady with
    | none => (s, none)
    | some rxDma =>
      (⟨pcifdHandleArea env s.devs ci rxDma,
        Function.update s.dwInterruptCounter ci (s.dwInterruptCounter ci + 1),
        Function.update s.unread ci none⟩, some ⟨ci, rxDma, true⟩)
  | .restart ci _ =>
    ({ s with unread := Function.update s.unread ci none },
      (s.unread ci).map fun old => ⟨ci, old, false⟩)
  | .call ci f => ({ s with devs := Function.update s.devs ci (f (s.devs ci)) }, none)

def PcifdAdapter.batches (ua : PcifdAdapter n) : UnreadBatches n :=
  ⟨ua.devs, fun ci => (ua.rx ci).dwInterruptCounter, fun ci => (ua.rx ci).unread⟩

def RxEvent.batchFor : RxEvent n → List (Nat → U8)
  | .dma cj rxDma => if cj = ci then [rxDma] else []
  | _ => []

def leftFrom (left : Option (LeftBatch n)) : List (Nat → U8) :=
  match left with
  | some batch => if batch.ci = ci then [batch.rxDma] else []
  | none => []

def RxEvent.restarts : RxEvent n → Bool
  | .restart cj _ => decide (cj = ci)
  | _ => false

def PcifdAdapter.Kept (ua : PcifdAdapter n) : Prop := ∀ ci, (ua.rx ci).mailbox.Kept areaTag

theorem PcifdAdapter.batches_setRx (ua : PcifdAdapter n) (devs : Fin (n + 1) → PciDev)
    (rx : PcifdRx) : (PcifdAdapter.mk devs (Function.update ua.rx ci rx)).batches =
      ⟨devs, Function.update ua.batches.dwInterruptCounter ci rx.dwInterruptCounter,
        Function.update ua.batches.unread ci rx.unread⟩ := by
  have counters := Function.comp_update PcifdRx.dwInterruptCounter ua.rx ci rx
  have unread := Function.comp_update PcifdRx.unread ua.rx ci rx
  exact congrArg₂ (UnreadBatches.mk devs) counters unread

theorem PcifdAdapter.kept_setRx {ua : PcifdAdapter n} (kept : ua.Kept)
    (devs : Fin (n + 1) → PciDev) {rx : PcifdRx} (new : rx.mailbox.Kept areaTag) :
    (PcifdAdapter.mk devs (Function.update ua.rx ci rx)).Kept := by
  intro cj
  by_cases same : cj = ci
  · subst same
    simpa using new
  · simpa [Function.update_of_ne same] using kept cj

theorem pcifdDmaAck_kept (rx : PcifdRx) : (pcifdDmaAck rx).mailbox.Kept areaTag := by
  rw [pcifdDmaAck_mailbox]
  exact TaggedMailbox.opened_kept areaTag tagAfter tagAfter_ne rx.rxDma

theorem pcifdDmaAck_unread (rx : PcifdRx) : (pcifdDmaAck rx).unread = none := by
  rw [PcifdRx.unread, pcifdDmaAck_mailbox]
  exact TaggedMailbox.opened_unread areaTag tagAfter tagAfter_ne rx.rxDma

theorem pcifdStarted_kept (ua : PcifdAdapter n) : (pcifdStarted ua).Kept :=
  fun _ => pcifdDmaAck_kept _

theorem pcifdIrqHandler_taken (env : PciIrqEnv) (ua : PcifdAdapter n) :
    pcifdIrqHandler env ua ci =
      match (ua.rx ci).unread.filter areaReady with
      | none => (ua, false)
      | some rxDma =>
        (⟨pcifdHandleArea env ua.devs ci rxDma, Function.update ua.rx ci (pcifdDmaAck
          { ua.rx ci with dwInterruptCounter := (ua.rx ci).dwInterruptCounter + 1 })⟩, true) := by
  rw [pcifdIrqHandler_eq,
    (TaggedMailbox.take_unread areaTag tagAfter areaReady tagAfter_ne (ua.rx ci).mailbox).1]
  rfl

theorem unread_area {rx : PcifdRx} {rxDma : Nat → U8} (unread : rx.unread = some rxDma) :
    rx.rxDma = rxDma := by
  unfold PcifdRx.unread TaggedMailbox.Mailbox.unread at unread
  split at unread
  · exact Option.some.inj unread
  · cases unread

theorem rxStep_batches {ua : PcifdAdapter n} (kept : ua.Kept) (e : RxEvent n)
    (once : TagsUsedOnce ua e) :
    (rxStep ua e).1.Kept ∧ (rxStep ua e).1.batches = (unreadStep ua.batches e).1 ∧
      (rxStep ua e).2 = (unreadStep ua.batches e).2 := by
  cases e with
  | dma ci rxDma =>
    have filled := TaggedMailbox.fill_unread areaTag (kept ci) once
    refine ⟨ua.kept_setRx ci kept _ (TaggedMailbox.fill_kept areaTag (kept ci) once), ?_, rfl⟩
    show (PcifdAdapter.mk _ _).batches = _
    rw [ua.batches_setRx ci, show ((ua.rx ci).dma rxDma).unread = some rxDma from filled.2]
    simp only [PcifdRx.dma, unreadStep]
    congr 1
    exact Function.update_eq_self ci _
  | interrupt ci env =>
    simp only [rxStep, unreadStep]
    rw [pcifdIrqHandler_taken, show ua.batches.unread ci = (ua.rx ci).unread from rfl]
    cases found : (ua.rx ci).unread.filter areaReady with
    | none => exact ⟨kept, rfl, rfl⟩
    | some rxDma =>
      have unread : (ua.rx ci).unread = some rxDma := (Option.filter_eq_some_iff.mp found).1
      refine ⟨ua.kept_setRx ci kept _ (pcifdDmaAck_kept _), ?_, ?_⟩
      · rw [ua.batches_setRx ci, pcifdDmaAck_unread]
        rfl
      · simp only [if_true, unread_area unread]
  | restart ci rxDma =>
    refine ⟨ua.kept_setRx ci kept _ (pcifdDmaAck_kept _), ?_, rfl⟩
    show (PcifdAdapter.mk _ _).batches = _
    rw [ua.batches_setRx ci, pcifdRxStart, pcifdDmaAck_unread]
    simp only [pcifdDmaAck, unreadStep]
    congr 1
    exact Function.update_eq_self ci _
  | call ci f => exact ⟨kept, rfl, rfl⟩

theorem rxStep_conserves {ua : PcifdAdapter n} (kept : ua.Kept) (e : RxEvent n)
    (once : TagsUsedOnce ua e) :
    (ua.rx ci).unread.toList ++ e.batchFor ci =
      leftFrom ci (rxStep ua e).2 ++ ((rxStep ua e).1.rx ci).unread.toList := by
  obtain ⟨_, after, left⟩ := rxStep_batches kept e once
  have unread : ((rxStep ua e).1.rx ci).unread = (unreadStep ua.batches e).1.unread ci :=
    congrFun (congrArg UnreadBatches.unread after) ci
  have before : (ua.rx ci).unread = ua.batches.unread ci := rfl
  rw [unread, left]
  cases e with
  | dma cj rxDma =>
    by_cases same : cj = ci
    · subst same
      have empty := (TaggedMailbox.fill_unread areaTag (kept cj) once).1
      rw [show (ua.rx cj).unread = none from empty]
      simp [unreadStep, RxEvent.batchFor, leftFrom]
    · simp [unreadStep, RxEvent.batchFor, leftFrom, same, Function.update_of_ne (Ne.symm same),
        before]
  | interrupt cj env =>
    simp only [unreadStep, RxEvent.batchFor, List.append_nil]
    cases found : (ua.batches.unread cj).filter areaReady with
    | none => rfl
    | some rxDma =>
      by_cases same : cj = ci
      · subst same
        simp [leftFrom, before, (Option.filter_eq_some_iff.mp found).1]
      · simp [leftFrom, same, Function.update_of_ne (Ne.symm same), before]
  | restart cj rxDma =>
    by_cases same : cj = ci
    · subst same
      cases found : ua.batches.unread cj with
      | none => simp [unreadStep, RxEvent.batchFor, leftFrom, before, found]
      | some old => simp [unreadStep, RxEvent.batchFor, leftFrom, before, found]
    · cases found : ua.batches.unread cj <;>
        simp [unreadStep, RxEvent.batchFor, leftFrom, before, found, same,
          Function.update_of_ne (Ne.symm same)]
  | call cj f => simp [unreadStep, RxEvent.batchFor, leftFrom, before]

/-- However the interrupts of the shared line fall, every batch that the board writes for a
    channel leaves its area once, in the order of writing, and by the handler unless the
    channel is restarted. -/
theorem dma_batches_handled_once (ua : PcifdAdapter n) (events : List (RxEvent n))
    (once : Admitted TagsUsedOnce rxStep (pcifdStarted ua) events) :
    let done := run rxStep (pcifdStarted ua) events
    events.flatMap (RxEvent.batchFor ci) =
        done.2.flatMap (leftFrom ci) ++ (done.1.rx ci).unread.toList ∧
      ((∀ e ∈ events, e.restarts ci = false) →
        ∀ left ∈ done.2, ∀ batch ∈ left, batch.ci = ci → batch.handled = true) := by
  intro done
  have keep : ∀ (ua : PcifdAdapter n) (e : RxEvent n), ua.Kept → TagsUsedOnce ua e →
      (rxStep ua e).1.Kept := fun ua e kept once => (rxStep_batches kept e once).1
  constructor
  · have total := @run_conserves _ _ _ _ rxStep TagsUsedOnce PcifdAdapter.Kept
      (fun ua => (ua.rx ci).unread.toList) (RxEvent.batchFor ci) (leftFrom ci) keep
      (fun _ e kept once => rxStep_conserves ci kept e once) _ _ (pcifdStarted_kept ua) once
    have nothing : ((pcifdStarted ua).rx ci).unread = none := pcifdDmaAck_unread _
    rw [nothing] at total
    exact total
  · intro running
    have handled : ∀ (ua : PcifdAdapter n) (e : RxEvent n), e.restarts ci = false →
        ∀ batch ∈ (rxStep ua e).2, batch.ci = ci → batch.handled = true := by
      intro ua e not_restarted batch member same
      cases e with
      | dma cj rxDma => cases member
      | call cj f => cases member
      | interrupt cj env =>
        simp only [rxStep] at member
        split at member
        · cases member
          rfl
        · cases member
      | restart cj rxDma =>
        simp only [rxStep, Option.mem_def, Option.map_eq_some_iff] at member
        obtain ⟨old, _, rfl⟩ := member
        exact absurd same (of_decide_eq_false not_restarted)
    exact @run_outputs _ _ _ rxStep (fun _ e => e.restarts ci = false) (fun _ => True) _
      (fun _ _ _ _ => trivial) (fun ua e _ not_restarted => handled ua e not_restarted) _ _ trivial
      (admitted_of_forall (pcifdStarted ua) running)

/-- The driver and the board keep to the tags, and so the channels get the state that they
    would get if the handlers were told what is unread. -/
theorem tags_simulate_unread_batches (ua : PcifdAdapter n) (events : List (RxEvent n))
    (once : Admitted TagsUsedOnce rxStep (pcifdStarted ua) events) :
    (run rxStep (pcifdStarted ua) events).1.batches =
        (run unreadStep (pcifdStarted ua).batches events).1 ∧
      (run rxStep (pcifdStarted ua) events).2 =
        (run unreadStep (pcifdStarted ua).batches events).2 := by
  have simulated := @run_simulation_admitted _ _ _ _ rxStep unreadStep TagsUsedOnce
    (fun ua s => ua.Kept ∧ ua.batches = s) (by
      rintro ua _ e ⟨kept, rfl⟩ once
      obtain ⟨later, after, left⟩ := rxStep_batches kept e once
      exact ⟨⟨later, after⟩, left⟩) _ _ ⟨pcifdStarted_kept ua, rfl⟩ _ once
  exact ⟨simulated.1.2, simulated.2⟩

def firstCan : Fin 2 := ⟨0, Nat.two_pos⟩

def secondCan : Fin 2 := ⟨1, Nat.one_lt_two⟩

/-- Two channels whose areas are cleared, so that the first batches carry tag 1. -/
def samplePcifd : PcifdAdapter 1 :=
  ⟨fun _ => openedChannel
      (⟨0, 0, firstCan, Vector.replicate 2 ⟨0, 0⟩, 0, [], firstCan, 0, 0⟩ : PciPort) 4 4 0,
    fun _ => ⟨0, fun _ => 0, 0, none⟩⟩

/-- One bus load record, for the second channel. -/
def sampleArea : Nat → U8 := fun k =>
  ([0x11, 0, 0, 0] ++ List.replicate 8 0 ++ [16, 0, 4, 0] ++ List.replicate 8 0 ++
    [1, 0, 0, 2]).getD k 0

def sampleIrqEnv : PciIrqEnv := ⟨sampleHost, fun _ => ⟨sampleHost, .zero⟩, ⟨sampleHost, .zero⟩⟩

/-- The line is raised before the batch is there, and once more after it was handled. -/
def sampleRxEvents : List (RxEvent 1) :=
  [.interrupt firstCan sampleIrqEnv, .interrupt secondCan sampleIrqEnv, .dma firstCan sampleArea,
    .interrupt secondCan sampleIrqEnv, .interrupt firstCan sampleIrqEnv,
    .interrupt firstCan sampleIrqEnv]

theorem sampleRxEvents_once : Admitted TagsUsedOnce rxStep (pcifdStarted samplePcifd) sampleRxEvents :=
  ⟨trivial, trivial, by rfl, trivial, trivial, trivial, trivial⟩

theorem dma_batches_handled_once_sample :
    (run rxStep (pcifdStarted samplePcifd) sampleRxEvents).2.flatMap (leftFrom 0) = [sampleArea] := by
  have total := (dma_batches_handled_once 0 samplePcifd sampleRxEvents sampleRxEvents_once).1
  have nothing : ((run rxStep (pcifdStarted samplePcifd) sampleRxEvents).1.rx 0).unread = none := by
    rfl
  rw [nothing] at total
  exact (total.trans (List.append_nil _)).symm

theorem tags_simulate_unread_batches_sample :
    ((run unreadStep (pcifdStarted samplePcifd).batches sampleRxEvents).1.devs 1).busLoad = 1250 ∧
      ((run rxStep (pcifdStarted samplePcifd) sampleRxEvents).1.devs 1).busLoad = 1250 := by
  have same := (tags_simulate_unread_batches samplePcifd sampleRxEvents sampleRxEvents_once).1
  have load : ((run rxStep (pcifdStarted samplePcifd) sampleRxEvents).1.devs 1).busLoad = 1250 := by
    decide +kernel
  exact ⟨by rw [← same]; exact load, load⟩

end Runs

end PcanDriver

import PcanDriver.Lib.StepSystem
import PcanDriver.PciTx
import PcanDriver.TxEncodeSpec
import PcanDriver.TxSide

/-!
The protocol of the two DMA pages. A stopped engine owns the free page; a started
one has spent it on a link, and gets it back with the interrupt for that link. The
board is then in the page that is being filled, so the other one may be reused.
-/
namespace PcanDriver
open StepSystem

def TxWrite.next (w : TxWrite) : Fin 2 × Nat :=
  match w.record with
  | .frame _ => (w.page, w.offset + w.bytes.length)
  | .link target => (target, 0)

/-- Reads the records as the board does: each one starts where the last one ended,
    or at the start of the page that a link leads to, and lies inside of its page. -/
def followChain : Fin 2 × Nat → List TxWrite → Option (Fin 2 × Nat)
  | position, [] => some position
  | position, w :: rest =>
    if (w.page, w.offset) = position ∧ w.offset + w.bytes.length ≤ pciefdTxPageSize then
      followChain w.next rest
    else none

theorem followChain_snoc {start position : Fin 2 × Nat} {written : List TxWrite} {w : TxWrite}
    (chain : followChain start written = some position) (here : (w.page, w.offset) = position)
    (inside : w.offset + w.bytes.length ≤ pciefdTxPageSize) :
    followChain start (written ++ [w]) = some w.next := by
  induction written generalizing start with
  | nil =>
    cases chain
    exact if_pos ⟨here, inside⟩
  | cons first rest ih =>
    simp only [List.cons_append, followChain] at chain ⊢
    split at chain
    next ok => rw [if_pos ok]; exact ih chain
    next => cases chain

def TxWrite.frames (w : TxWrite) : List PcanfdTxmsg :=
  match w.record with
  | .frame tx => [tx]
  | .link _ => []

def pageCapacity : Nat := pciefdTxPageSize - pcifdTxLinkSize

/-- Links that the driver has inserted and not been interrupted for. -/
def PciPort.outstanding (port : PciPort) : Nat := port.unfollowed + port.lnkRaised

/-- A page is entered from its start only when the board is in the other one; the
    first record of all is where the board starts to read. -/
def EntersFreePages (written : List TxWrite) : Prop :=
  ∀ w ∈ written.tail, w.offset = 0 → w.page ≠ w.hwPage

structure PagesInv (t : TransmitSide PciPort) : Prop where
  sizes : ∀ i : Fin 2, t.port.txPages[i].size = pageCapacity
  offsets : ∀ i : Fin 2, t.port.txPages[i].offset ≤ pageCapacity
  chain : followChain (0, 0) t.port.written = some (t.port.txPageIndex, t.port.page.offset)
  entered : EntersFreePages t.port.written
  sendable : ∀ tx ∈ t.writeFifo.items, tx.msg.dataLen.toNat ≤ 64

def pciCarried (t : TransmitSide PciPort) : List PcanfdTxmsg :=
  t.port.written.flatMap TxWrite.frames ++ t.writeFifo.items

/-- The loop of `__pcifd_device_write`, which is entered with the free page. -/
structure PciFilling (t : TransmitSide PciPort) (lk : Bool) : Prop where
  pages : PagesInv t
  handled : t.port.lnkRaised = 0
  opened : t.port.page.offset = 0 → t.port.written = [] ∨ lk = true ∧ t.writeFifo.items ≠ []
  owner : if lk then t.port.txPagesFree = 0 ∧ t.port.unfollowed = 1 ∧
      t.port.hwPage ≠ t.port.txPageIndex ∧ t.engine = .started
    else t.port.txPagesFree = 1 ∧ t.port.unfollowed = 0 ∧ t.port.hwPage = t.port.txPageIndex

section Loop

theorem ucanTxNeeds_capacity (delay : U32) (tx : PcanfdTxmsg) :
    ucanTxNeeds delay tx ≤ pageCapacity := by
  have := ucanTxNeeds_le delay tx
  simp only [pageCapacity, pciefdTxPageSize, pcifdTxLinkSize]
  omega

theorem ucanEncodeMsg_cases (dev : PciDev) (bufferSize : Int) :
    (dev.writeFifo.items = [] ∧ ucanEncodeMsg dev bufferSize = (none, -enodata)) ∨
      ∃ tx rest, dev.writeFifo.items = tx :: rest ∧
        ((bufferSize < ucanTxNeeds dev.txIframeDelayUs tx ∧
          ucanEncodeMsg dev bufferSize = (none, -enospc)) ∨
        ((ucanTxNeeds dev.txIframeDelayUs tx : Int) ≤ bufferSize ∧
          ucanEncodeMsg dev bufferSize =
            (some (tx, ucanTxRecord ⟨dev.nChannel, dev.txIframeDelayUs, 0, 0⟩ tx),
              (ucanTxNeeds dev.txIframeDelayUs tx : Int)))) := by
  unfold ucanEncodeMsg BoundedQueue.oldest
  cases items : dev.writeFifo.items with
  | nil => exact .inl ⟨rfl, rfl⟩
  | cons tx rest =>
    refine .inr ⟨tx, rest, rfl, ?_⟩
    by_cases large : (ucanTxNeeds dev.txIframeDelayUs tx : Int) > bufferSize
    · exact .inl ⟨large, if_pos large⟩
    · exact .inr ⟨by omega, if_neg large⟩

theorem EntersFreePages.append {written : List TxWrite} {w : TxWrite}
    (entered : EntersFreePages written)
    (free : written = [] ∨ (w.offset = 0 → w.page ≠ w.hwPage)) :
    EntersFreePages (written ++ [w]) := by
  intro w' mem start
  cases written with
  | nil => exact absurd mem List.not_mem_nil
  | cons first rest =>
    rcases List.mem_append.1 mem with before | last
    · exact entered w' before start
    · rw [List.mem_singleton.1 last] at start ⊢
      exact free.resolve_left (List.cons_ne_nil _ _) start

theorem pages_set {pages : Vector UcanPciPage 2} {index : Fin 2} {page : UcanPciPage}
    {good : UcanPciPage → Prop} (all : ∀ i : Fin 2, good pages[i]) (new : good page) :
    ∀ i : Fin 2, good (pages.set index page)[i] := by
  intro i
  rw [Fin.getElem_fin, Vector.getElem_set]
  split
  · exact new
  · exact all i

theorem storeFrame_page (dev : PciDev) (tx : PcanfdTxmsg) (bytes : List U8) (size : Nat) :
    (storeFrame dev tx bytes size).port.page =
      ⟨dev.port.page.offset + size, dev.port.page.size⟩ := by
  simp [storeFrame, PciPort.page]

section Store
variable {dev : PciDev} {lk : Bool} {tx : PcanfdTxmsg} {rest : List PcanfdTxmsg}

/-- A frame of the FIFO goes behind the records of the current page. -/
def stored (dev : PciDev) (tx : PcanfdTxmsg) : PciDev :=
  storeFrame dev tx (ucanTxRecord ⟨dev.nChannel, dev.txIframeDelayUs, 0, 0⟩ tx)
    (ucanTxNeeds dev.txIframeDelayUs tx)

theorem stored_pages (filling : PciFilling dev.transmit lk)
    (items : dev.writeFifo.items = tx :: rest)
    (fits : dev.port.page.offset + ucanTxNeeds dev.txIframeDelayUs tx ≤ pageCapacity) :
    PagesInv (stored dev tx).transmit := by
  obtain ⟨⟨sizes, offsets, chain, entered, sendable⟩, _, opened, owner⟩ := filling
  have short : tx.msg.dataLen.toNat ≤ 64 := sendable tx (by
    show tx ∈ dev.writeFifo.items
    rw [items]
    exact List.mem_cons_self)
  have length := ucanTxRecord_length ⟨dev.nChannel, dev.txIframeDelayUs, 0, 0⟩ short
  constructor
  · exact @pages_set _ _ _ (fun page => page.size = pageCapacity) sizes
      (sizes dev.port.txPageIndex)
  · exact @pages_set _ _ _ (fun page => page.offset ≤ pageCapacity) offsets fits
  · have position : (stored dev tx).port.page.offset =
        dev.port.page.offset + (ucanTxRecord ⟨dev.nChannel, dev.txIframeDelayUs, 0, 0⟩ tx).length := by
      rw [stored, storeFrame_page, length]
    refine (followChain_snoc chain rfl ?_).trans (congrArg (fun n => some (_, n)) position.symm)
    show dev.port.page.offset + List.length _ ≤ pciefdTxPageSize
    rw [length]
    exact Nat.le_trans fits (Nat.sub_le _ _)
  · apply entered.append
    by_cases none_yet : dev.port.written = []
    · exact .inl none_yet
    · refine .inr fun start => ?_
      obtain ⟨linked, _⟩ := (opened start).resolve_left none_yet
      rw [if_pos linked] at owner
      exact fun same => owner.2.2.1 same.symm
  · intro tx' mem
    apply sendable
    exact List.mem_of_mem_tail mem

theorem stored_filling (filling : PciFilling dev.transmit lk)
    (items : dev.writeFifo.items = tx :: rest)
    (fits : dev.port.page.offset + ucanTxNeeds dev.txIframeDelayUs tx ≤ pageCapacity) :
    PciFilling (stored dev tx).transmit lk ∧ 0 < (stored dev tx).port.page.offset := by
  have moved : 0 < (stored dev tx).port.page.offset := by
    rw [stored, storeFrame_page]
    exact Nat.add_pos_right _ (ucanTxNeeds_pos _ _)
  exact ⟨⟨stored_pages filling items fits, filling.handled,
    fun start => absurd start (Nat.pos_iff_ne_zero.1 moved), filling.owner⟩, moved⟩

theorem stored_carried (items : dev.writeFifo.items = tx :: rest) :
    pciCarried (stored dev tx).transmit = pciCarried dev.transmit := by
  show (dev.port.written ++ [_]).flatMap TxWrite.frames ++ dev.writeFifo.items.tail =
    dev.port.written.flatMap TxWrite.frames ++ dev.writeFifo.items
  rw [List.flatMap_append, List.flatMap_singleton, List.append_assoc, items]
  rfl

end Store

section Link
variable {dev : PciDev} {tx : PcanfdTxmsg} {rest : List PcanfdTxmsg}

theorem linkPage_page (dev : PciDev) : (linkPage dev).port.page.offset = 0 := by
  simp [linkPage, PciPort.page, pcanSetTxEngine]

theorem other_page (i : Fin 2) : 1 - i ≠ i := by
  decide +revert

theorem linkPage_pages (filling : PciFilling dev.transmit false)
    (waiting : dev.port.page.offset ≠ 0) : PagesInv (linkPage dev).transmit := by
  obtain ⟨⟨sizes, offsets, chain, entered, sendable⟩, _, _, _⟩ := filling
  have offset : dev.port.page.offset ≤ pageCapacity := offsets dev.port.txPageIndex
  constructor
  · exact @pages_set _ _ _ (fun page => page.size = pageCapacity) sizes
      (sizes (1 - dev.port.txPageIndex))
  · exact @pages_set _ _ _ (fun page => page.offset ≤ pageCapacity) offsets (Nat.zero_le _)
  · refine (followChain_snoc chain rfl ?_).trans
      (congrArg (fun n => some (_, n)) (linkPage_page dev).symm)
    exact Nat.add_le_of_le_sub (by decide : pcifdTxLinkSize ≤ pciefdTxPageSize) offset
  · exact entered.append (.inr fun start => absurd start waiting)
  · exact sendable

theorem linkPage_filling (filling : PciFilling dev.transmit false)
    (waiting : dev.port.page.offset ≠ 0) (items : dev.writeFifo.items ≠ []) :
    PciFilling (linkPage dev).transmit true where
  pages := linkPage_pages filling waiting
  handled := filling.handled
  opened _ := .inr ⟨rfl, items⟩
  owner := by
    obtain ⟨free, unfollowed, here⟩ : _ ∧ _ ∧ _ := filling.owner
    refine ⟨?_, ?_, ?_, rfl⟩
    · show dev.port.txPagesFree - 1 = 0
      rw [show dev.port.txPagesFree = 1 from free]
    · show dev.port.unfollowed + 1 = 1
      rw [show dev.port.unfollowed = 0 from unfollowed]
    · show dev.port.hwPage ≠ 1 - dev.port.txPageIndex
      rw [show dev.port.hwPage = dev.port.txPageIndex from here]
      exact (other_page _).symm

theorem linkPage_carried (dev : PciDev) :
    pciCarried (linkPage dev).transmit = pciCarried dev.transmit := by
  show (dev.port.written ++ [_]).flatMap TxWrite.frames ++ dev.writeFifo.items = _
  rw [List.flatMap_append, List.flatMap_singleton]
  show _ ++ [] ++ _ = _
  rw [List.append_nil]
  rfl

end Link

/-- What the loop leaves behind, in either mode of the engine. -/
structure PciFilled (t t' : TransmitSide PciPort) (lk : Bool) : Prop where
  filling : PciFilling t' lk
  opened : t'.port.page.offset = 0 → t'.port.written = []
  carried : pciCarried t' = pciCarried t

theorem pciWriteLoop_spec (host : Host) (stack : PcanfdRxmsg) {fuel : Nat} {dev : PciDev}
    {lk : Bool} (enough : dev.writeFifo.items.length + dev.port.txPagesFree < fuel)
    (filling : PciFilling dev.transmit lk) :
    PciFilled dev.transmit (pciWriteLoop host stack fuel dev lk).dev.transmit
      (pciWriteLoop host stack fuel dev lk).lk := by
  induction fuel generalizing dev lk with
  | zero => omega
  | succ fuel ih =>
    have size : dev.port.page.size = pageCapacity := filling.pages.sizes dev.port.txPageIndex
    have offset : dev.port.page.offset ≤ pageCapacity := filling.pages.offsets dev.port.txPageIndex
    unfold pciWriteLoop
    rcases ucanEncodeMsg_cases dev (dev.port.page.size - dev.port.page.offset) with
      ⟨empty, result⟩ | ⟨tx, rest, items, ⟨large, result⟩ | ⟨fits, result⟩⟩
    · simp only [result]
      rw [if_pos (by decide)]
      refine ⟨filling, fun start => ?_, rfl⟩
      exact (filling.opened start).resolve_right fun linked => linked.2 empty
    · have waiting : dev.port.page.offset ≠ 0 := by
        have := ucanTxNeeds_capacity dev.txIframeDelayUs tx
        omega
      simp only [result]
      rw [if_neg (by decide)]
      by_cases free : dev.port.txPagesFree = 0
      · have same : (if dev.wCANStatus &&& canErrQxmtfull = 0 then
            postErrorCtrl host dev stack .txOverflow else dev).transmit = dev.transmit := by
          split <;> simp
        rw [if_pos free]
        dsimp only
        rw [same]
        exact ⟨filling, fun start => absurd start waiting, rfl⟩
      · have unlinked : lk = false := by
          cases lk
          · rfl
          · exact absurd filling.owner.1 free
        subst unlinked
        rw [if_neg free]
        have linked := linkPage_filling filling waiting (items ▸ List.cons_ne_nil _ _)
        obtain ⟨done, opened, carried⟩ := @ih (linkPage dev) _ (by
          show dev.writeFifo.items.length + (dev.port.txPagesFree - 1) < fuel
          omega) linked
        exact ⟨done, opened, carried.trans (linkPage_carried dev)⟩
    · have room : dev.port.page.offset + ucanTxNeeds dev.txIframeDelayUs tx ≤ pageCapacity := by
        omega
      simp only [result]
      obtain ⟨done, opened, carried⟩ := @ih (stored dev tx) _ (by
        show dev.writeFifo.items.tail.length + dev.port.txPagesFree < fuel
        rw [items] at enough ⊢
        simp only [List.length_cons, List.tail_cons] at enough ⊢
        omega) (stored_filling filling items room).1
      exact ⟨done, opened, carried.trans (stored_carried items)⟩

end Loop

/-- The engine and the pages between two steps, once the path is enabled. -/
structure PciRunning (t : TransmitSide PciPort) : Prop where
  pages : PagesInv t
  opened : t.port.page.offset = 0 → t.port.written = []
  owner : t.engine = .stopped ∧ t.port.txPagesFree = 1 ∧ t.port.unfollowed = 0 ∧
      t.port.lnkRaised = 0 ∧ t.port.hwPage = t.port.txPageIndex ∨
    t.engine = .started ∧ t.port.txPagesFree = 0 ∧
      (t.port.unfollowed = 1 ∧ t.port.lnkRaised = 0 ∧ t.port.hwPage ≠ t.port.txPageIndex ∨
        t.port.unfollowed = 0 ∧ t.port.lnkRaised = 1 ∧ t.port.hwPage = t.port.txPageIndex)

/-- After `pcifd_device_open_fd`: the pages are not set up before the RX barrier. -/
structure PciIdle (t : TransmitSide PciPort) : Prop where
  engine : t.engine = .idle
  online : t.busState ≠ .errorBusoff
  unused : t.port.written = []
  unlinked : t.port.unfollowed = 0 ∧ t.port.lnkRaised = 0
  sendable : ∀ tx ∈ t.writeFifo.items, tx.msg.dataLen.toNat ≤ 64

theorem pcifdDeviceWrite_running (host : Host) (stack : PcanfdRxmsg) {dev : PciDev}
    (filling : PciFilling dev.transmit false) :
    PciRunning (pcifdDeviceWrite host stack dev).1.transmit ∧
      pciCarried (pcifdDeviceWrite host stack dev).1.transmit = pciCarried dev.transmit := by
  have spec := @pciWriteLoop_spec host stack
    (dev.writeFifo.items.length + dev.port.txPagesFree + 1) _ _ (Nat.lt_succ_self _) filling
  unfold pcifdDeviceWrite
  simp only
  obtain ⟨⟨pages, handled, _, owner⟩, opened, carried⟩ := spec
  split
  next linked =>
    rw [if_pos linked] at owner
    exact ⟨⟨pages, opened, .inr ⟨owner.2.2.2, owner.1, .inl ⟨owner.2.1, handled, owner.2.2.1⟩⟩⟩,
      carried⟩
  next unlinked =>
    rw [if_neg unlinked] at owner
    obtain ⟨sizes, offsets, chain, entered, sendable⟩ := pages
    exact ⟨⟨⟨sizes, offsets, chain, entered, sendable⟩, opened,
      .inl ⟨rfl, owner.1, owner.2.1, handled, owner.2.2⟩⟩, carried⟩

theorem PciRunning.filling {t : TransmitSide PciPort} (running : PciRunning t)
    (stopped : t.engine = .stopped) : PciFilling t false := by
  obtain ⟨pages, opened, ⟨_, free, unfollowed, handled, here⟩ | ⟨started, _⟩⟩ := running
  · exact ⟨pages, handled, fun start => .inl (opened start), free, unfollowed, here⟩
  · rw [stopped] at started
    cases started

theorem PciRunning.not_idle {t : TransmitSide PciPort} (running : PciRunning t) :
    t.engine ≠ .idle := by
  rcases running.owner with ⟨stopped, _⟩ | ⟨started, _⟩
  · exact fun idle => absurd (stopped.symm.trans idle) (by decide)
  · exact fun idle => absurd (started.symm.trans idle) (by decide)

theorem pcifdHandleBarrier_running (host : Host) (stack : PcanfdRxmsg) {dev : PciDev}
    (idle : PciIdle dev.transmit) :
    PciRunning (pcifdHandleBarrier host stack dev).transmit ∧
      pciCarried (pcifdHandleBarrier host stack dev).transmit = pciCarried dev.transmit := by
  have engine : dev.lockedTxEngineState = .idle := idle.engine
  have online : dev.busState ≠ .errorBusoff := idle.online
  have enabled : (pcifdEnableTxPath dev).transmit =
      (pcanSetTxEngine (pcifdDmaInitTx dev) .stopped).transmit := by
    unfold pcifdEnableTxPath
    rw [if_pos online]
  have filling : PciFilling (pcifdEnableTxPath dev).transmit false := by
    rw [enabled]
    refine ⟨⟨?_, ?_, rfl, ?_, idle.sendable⟩, rfl, fun _ => .inl rfl, rfl, rfl, rfl⟩
    · intro i
      simp [pcanSetTxEngine, pcifdDmaInitTx, Pcandev.transmit, pageCapacity]
    · intro i
      simp [pcanSetTxEngine, pcifdDmaInitTx, Pcandev.transmit]
    · exact fun w mem => absurd mem List.not_mem_nil
  unfold pcifdHandleBarrier
  rw [if_pos engine]
  obtain ⟨running, carried⟩ := pcifdDeviceWrite_running host stack filling
  refine ⟨running, carried.trans ?_⟩
  rw [enabled]
  show [] ++ dev.writeFifo.items = dev.port.written.flatMap TxWrite.frames ++ dev.writeFifo.items
  rw [show dev.port.written = [] from idle.unused]
  rfl

theorem pcifdLnkIrq_running (host : Host) (stack : PcanfdRxmsg) {dev : PciDev}
    (running : PciRunning dev.transmit) (raised : 0 < dev.port.lnkRaised) :
    PciRunning (pcifdLnkIrq host stack dev).transmit ∧
      pciCarried (pcifdLnkIrq host stack dev).transmit = pciCarried dev.transmit := by
  obtain ⟨⟨sizes, offsets, chain, entered, sendable⟩, opened, owner⟩ := running
  obtain ⟨started, free, unfollowed, one, here⟩ : dev.lockedTxEngineState = .started ∧
      dev.port.txPagesFree = 0 ∧ dev.port.unfollowed = 0 ∧ dev.port.lnkRaised = 1 ∧
      dev.port.hwPage = dev.port.txPageIndex := by
    rcases owner with ⟨_, _, _, none_raised, _⟩ | ⟨started, free, ⟨_, none_raised, _⟩ | later⟩
    · exact absurd none_raised (Nat.pos_iff_ne_zero.1 raised)
    · exact absurd none_raised (Nat.pos_iff_ne_zero.1 raised)
    · exact ⟨started, free, later⟩
  have same := pcanClearStatusBit_transmit host (returnPage (takeLnk dev)) canErrQxmtfull
  have filling : PciFilling
      (pcanClearStatusBit host (returnPage (takeLnk dev)) canErrQxmtfull).transmit false := by
    rw [same]
    refine ⟨⟨sizes, offsets, chain, entered, sendable⟩, ?_, fun start => .inl (opened start), ?_,
      unfollowed, here⟩
    · exact congrArg (· - 1) one
    · exact congrArg (· + 1) free
  obtain ⟨running, carried⟩ := pcifdDeviceWrite_running host stack filling
  unfold pcifdLnkIrq
  dsimp only
  rw [if_pos (show (takeLnk dev).lockedTxEngineState = .started from started)]
  refine ⟨running, carried.trans ?_⟩
  rw [same]
  rfl

theorem hwFollowLink_running {dev : PciDev} (running : PciRunning dev.transmit)
    (linked : 0 < dev.port.unfollowed) : PciRunning (hwFollowLink dev).transmit := by
  obtain ⟨⟨sizes, offsets, chain, entered, sendable⟩, opened, owner⟩ := running
  have only_two : ∀ i j : Fin 2, i ≠ j → 1 - i = j := by decide
  refine ⟨⟨sizes, offsets, chain, entered, sendable⟩, opened, ?_⟩
  rcases owner with ⟨_, _, none_linked, _⟩ | ⟨started, free, ⟨one, none_raised, away⟩ | ⟨none_linked, _⟩⟩
  · exact absurd none_linked (Nat.pos_iff_ne_zero.1 linked)
  · exact .inr ⟨started, free, .inr ⟨congrArg (· - 1) one, congrArg (· + 1) none_raised,
      only_two _ _ away⟩⟩
  · exact absurd none_linked (Nat.pos_iff_ne_zero.1 linked)

inductive PciCall where
  | sendMsg (host : Host) (stack : PcanfdRxmsg) (ptx : PcanfdTxmsg) (nonblock : Bool)
  | deviceWrite (host : Host) (stack : PcanfdRxmsg)
  | rxBarrier (host : Host) (stack : PcanfdRxmsg)
  | followLink
  | lnkIrq (host : Host) (stack : PcanfdRxmsg)

/-- The frame that a send has accepted goes out with the step. -/
def pciStep (dev : PciDev) : PciCall → PciDev × Option PcanfdTxmsg
  | .sendMsg host stack ptx nonblock =>
    let sent := pcanfdSendMsg (pcifdDeviceWrite host stack) host stack dev ptx nonblock
    (sent.1, acceptedFrame sent)
  | .deviceWrite host stack =>
    (if dev.lockedTxEngineState = .stopped then (pcifdDeviceWrite host stack dev).1 else dev, none)
  | .rxBarrier host stack => (pcifdHandleBarrier host stack dev, none)
  | .followLink => (if 0 < dev.port.unfollowed then hwFollowLink dev else dev, none)
  | .lnkIrq host stack => (if 0 < dev.port.lnkRaised then pcifdLnkIrq host stack dev else dev, none)

def PciInv (t : TransmitSide PciPort) : Prop := PciIdle t ∨ PciRunning t

theorem PciInv.queue {dev : PciDev} (inv : PciInv dev.transmit) {tx : PcanfdTxmsg}
    {fifo : BoundedQueue PcanfdTxmsg} (short : tx.msg.dataLen.toNat ≤ 64)
    (items : fifo.items = dev.writeFifo.items ++ [tx]) :
    PciInv { dev.transmit with writeFifo := fifo } ∧
      pciCarried { dev.transmit with writeFifo := fifo } = pciCarried dev.transmit ++ [tx] := by
  have sendable : (∀ tx ∈ dev.writeFifo.items, tx.msg.dataLen.toNat ≤ 64) →
      ∀ tx ∈ fifo.items, tx.msg.dataLen.toNat ≤ 64 := by
    intro before tx' mem
    rw [items, List.mem_append, List.mem_singleton] at mem
    rcases mem with old | rfl
    · exact before tx' old
    · exact short
  constructor
  · rcases inv with ⟨engine, online, unused, unlinked, before⟩ |
      ⟨⟨sizes, offsets, chain, entered, before⟩, opened, owner⟩
    · exact .inl ⟨engine, online, unused, unlinked, sendable before⟩
    · exact .inr ⟨⟨sizes, offsets, chain, entered, sendable before⟩, opened, owner⟩
  · show _ ++ fifo.items = _
    rw [items, ← List.append_assoc]
    rfl

theorem startWriting_pci (host : Host) (stack : PcanfdRxmsg) {dev : PciDev}
    (inv : PciInv dev.transmit) :
    PciInv (pcanDevStartWriting (pcifdDeviceWrite host stack) dev).1.transmit ∧
      pciCarried (pcanDevStartWriting (pcifdDeviceWrite host stack) dev).1.transmit =
        pciCarried dev.transmit := by
  rcases pcanDevStartWriting_cases (pcifdDeviceWrite host stack) dev with
    ⟨_, same⟩ | ⟨_, stopped, same⟩
  · rw [same]
    exact ⟨inv, rfl⟩
  · rw [same]
    rcases inv with idle | running
    · exact absurd (idle.engine.symm.trans stopped) (by decide)
    · exact (pcifdDeviceWrite_running host stack (running.filling stopped)).imp .inr id

theorem pciStep_inv {dev : PciDev} {call : PciCall} (inv : PciInv dev.transmit) :
    PciInv (pciStep dev call).1.transmit ∧
      pciCarried (pciStep dev call).1.transmit =
        pciCarried dev.transmit ++ (pciStep dev call).2.toList := by
  have silent : ∀ t', pciCarried t' = pciCarried dev.transmit →
      pciCarried t' = pciCarried dev.transmit ++ (none : Option PcanfdTxmsg).toList :=
    fun t' same => same.trans (List.append_nil _).symm
  have not_idle : ∀ {state : TxEngine}, dev.lockedTxEngineState = state → state ≠ .idle →
      PciRunning dev.transmit :=
    fun engine other => inv.resolve_left fun idle => other (engine.symm.trans idle.engine)
  cases call with
  | sendMsg host stack ptx nonblock =>
    apply sendMsg_carried (pcifdDeviceWrite host stack) host stack ptx nonblock inv
    · intro checked tv fifo accepted items
      apply inv.queue _ items
      rcases checkTxmsg_length accepted with classic | ⟨_, long⟩
      · exact Nat.le_trans (BitVec.le_def.1 classic) (by decide)
      · exact BitVec.le_def.1 long
    · exact fun _ waiting => startWriting_pci host stack waiting
  | deviceWrite host stack =>
    simp only [pciStep]
    split
    next stopped =>
      have filling := (not_idle stopped (by decide)).filling stopped
      exact (pcifdDeviceWrite_running host stack filling).imp .inr (silent _)
    next => exact ⟨inv, silent _ rfl⟩
  | rxBarrier host stack =>
    simp only [pciStep]
    rcases inv with idle | running
    · exact (pcifdHandleBarrier_running host stack idle).imp .inr (silent _)
    · rw [pcifdHandleBarrier, if_neg (show ¬dev.lockedTxEngineState = .idle from running.not_idle)]
      exact ⟨.inr running, silent _ rfl⟩
  | followLink =>
    simp only [pciStep]
    split
    next linked =>
      rcases inv with idle | running
      · exact absurd idle.unlinked.1 (Nat.pos_iff_ne_zero.1 linked)
      · exact ⟨.inr (hwFollowLink_running running linked), silent _ rfl⟩
    next => exact ⟨inv, silent _ rfl⟩
  | lnkIrq host stack =>
    simp only [pciStep]
    split
    next raised =>
      rcases inv with idle | running
      · exact absurd idle.unlinked.2 (Nat.pos_iff_ne_zero.1 raised)
      · exact (pcifdLnkIrq_running host stack running raised).imp .inr (silent _)
    next => exact ⟨inv, silent _ rfl⟩

theorem PciInv.links {s : PciDev} (inv : PciInv s.transmit) :
    s.port.outstanding ≤ 1 ∧ (s.lockedTxEngineState = .started ↔ s.port.outstanding = 1) ∧
      (s.lockedTxEngineState = .stopped → s.port.txPagesFree = 1) ∧
      (s.lockedTxEngineState ≠ .idle →
        (s.port.txPagesFree = 0 ↔ s.lockedTxEngineState = .started)) := by
  unfold PciPort.outstanding
  rcases inv with idle | running
  · have engine : s.lockedTxEngineState = .idle := idle.engine
    have unlinked : s.port.unfollowed = 0 ∧ s.port.lnkRaised = 0 := idle.unlinked
    simp [engine, unlinked]
  · rcases running.owner with ⟨engine, free, unfollowed, raised, _⟩ |
      ⟨engine, free, ⟨unfollowed, raised, _⟩ | ⟨unfollowed, raised, _⟩⟩
    all_goals
      replace engine : s.lockedTxEngineState = _ := engine
      replace free : s.port.txPagesFree = _ := free
      replace unfollowed : s.port.unfollowed = _ := unfollowed
      replace raised : s.port.lnkRaised = _ := raised
      simp [engine, free, unfollowed, raised]

theorem pcifd_tx_page_protocol {dev : PciDev} (idle : PciIdle dev.transmit)
    (calls : List PciCall) :
    (∀ s ∈ states pciStep dev calls,
      s.port.outstanding ≤ 1 ∧ (s.lockedTxEngineState = .started ↔ s.port.outstanding = 1) ∧
      (s.lockedTxEngineState = .stopped → s.port.txPagesFree = 1) ∧
      EntersFreePages s.port.written ∧
      (s.lockedTxEngineState ≠ .idle →
        (s.port.txPagesFree = 0 ↔ s.lockedTxEngineState = .started) ∧
        (∀ i : Fin 2, s.port.txPages[i].size = pciefdTxPageSize - pcifdTxLinkSize ∧
          s.port.txPages[i].offset ≤ s.port.txPages[i].size) ∧
        followChain (0, 0) s.port.written = some (s.port.txPageIndex, s.port.page.offset))) ∧
    (run pciStep dev calls).1.port.written.flatMap TxWrite.frames ++
        (run pciStep dev calls).1.writeFifo.items =
      dev.writeFifo.items ++ (run pciStep dev calls).2.flatMap Option.toList := by
  have keep : ∀ (s : PciDev) (i : PciCall), PciInv s.transmit → True →
      PciInv (pciStep s i).1.transmit := fun _ _ inv _ => (pciStep_inv inv).1
  constructor
  · intro s mem
    have inv : PciInv s.transmit := @states_invariant _ _ _ _ _ (fun s : PciDev => PciInv s.transmit) keep
      _ _ (.inl idle) (admitted_true pciStep dev calls) s mem
    obtain ⟨at_most, linked, stopped, owner⟩ := inv.links
    refine ⟨at_most, linked, stopped, ?_, fun enabled => ⟨owner enabled, ?_⟩⟩
    · rcases inv with still_idle | running
      · rw [show s.port.written = [] from still_idle.unused]
        exact fun w none_written => absurd none_written List.not_mem_nil
      · exact running.pages.entered
    · have running : PciRunning s.transmit := inv.resolve_left fun still => enabled still.engine
      obtain ⟨sizes, offsets, chain, _, _⟩ := running.pages
      exact ⟨fun i => ⟨sizes i, (offsets i).trans (sizes i).ge⟩, chain⟩
  · have total := @run_accumulates _ _ _ _ _ _ (fun s : PciDev => PciInv s.transmit)
      (fun s => pciCarried s.transmit) Option.toList keep
      (fun _ _ inv _ => (pciStep_inv inv).2) _ _ (.inl idle) (admitted_true pciStep dev calls)
    have nothing : pciCarried dev.transmit = dev.writeFifo.items := by
      show dev.port.written.flatMap TxWrite.frames ++ dev.writeFifo.items = _
      rw [show dev.port.written = [] from idle.unused]
      rfl
    rw [nothing] at total
    exact total

/-- A board that has been opened and waits for the RX barrier: nothing has set the
    pages up yet. -/
def idlePciDev (queue : BoundedQueue PcanfdTxmsg) : PciDev :=
  { openedChannel (⟨0x10000000, 0, ⟨0, Nat.two_pos⟩, Vector.replicate 2 ⟨0, 0⟩, 0, [],
      ⟨0, Nat.two_pos⟩, 0, 0⟩ : PciPort) 4 4 0 with
    lockedTxEngineState := .idle
    writeFifo := queue }

/-- Frames of 84 bytes, of which 24 fit into a page. -/
def longFrames (count : Nat) : List PcanfdTxmsg :=
  List.replicate count
    ⟨{ PcanfdMsg.zero with type := .canfdMsg, dataLen := 64 }, ⟨0, 0⟩⟩

theorem pcifd_tx_page_protocol_two_pages :
    let dev := idlePciDev ⟨32, longFrames 26, by decide⟩
    let calls : List PciCall := [.rxBarrier sampleHost .zero, .deviceWrite sampleHost .zero,
      .followLink, .lnkIrq sampleHost .zero]
    (∀ s ∈ states pciStep dev calls,
      (s.lockedTxEngineState = .started ↔ s.port.outstanding = 1)) ∧
    (run pciStep dev calls).1.port.written.flatMap TxWrite.frames = longFrames 26 ∧
    (states pciStep dev calls).map
        (fun s => (s.lockedTxEngineState, s.port.txPagesFree, s.port.outstanding)) =
      [(.idle, 0, 0), (.started, 0, 1), (.started, 0, 1), (.started, 0, 1), (.stopped, 1, 0)] := by
  intro dev calls
  have idle : PciIdle dev.transmit :=
    ⟨rfl, by decide, rfl, ⟨rfl, rfl⟩, by decide +kernel⟩
  have protocol := pcifd_tx_page_protocol idle calls
  have done : (run pciStep dev calls).1.writeFifo.items = [] ∧
      (run pciStep dev calls).2.flatMap Option.toList = [] := by
    decide +kernel
  refine ⟨fun s mem => (protocol.1 s mem).2.1, ?_, by decide +kernel⟩
  have total := protocol.2
  rw [done.1, done.2, List.append_nil, List.append_nil] at total
  exact total

/-- Before the RX barrier the count of free pages may be 0 with the engine idle, and
    the pages have no size. -/
theorem pages_not_set_up_while_idle :
    let s := (run pciStep (idlePciDev (BoundedQueue.empty 4)) [.deviceWrite sampleHost .zero]).1
    ¬((s.lockedTxEngineState = .started ↔ s.port.txPagesFree = 0) ∧
      s.port.page.size = pciefdTxPageSize - pcifdTxLinkSize) := by
  decide +kernel

end PcanDriver

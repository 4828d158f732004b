import PcanDriver.NetdevStates
import PcanDriver.UsbWrite

/-!
The queue of the socket layer between a network device and its channel: when it is
stopped, when it is woken, and which frames are lost.
-/
namespace PcanDriver
open StepSystem
variable {P : Type}

section Queue

/-- What happens to a network device. The interface behind it writes while a frame is
    queued, and wakes the queue when it has written. -/
inductive NetdevEvent (P : Type) where
  | xmit (deviceWrite : Pcandev P → Pcandev P × Int) (stack : Timeval) (skb : CanSkb)
  | receive (i : NetdevInput)
  | written (complete : Pcandev P → Pcandev P)

def PcanNetdev.fifo (nd : PcanNetdev P) : List PcanfdTxmsg := nd.pdev.writeFifo.items

def PcanNetdev.capacity (nd : PcanNetdev P) : Nat := nd.pdev.writeFifo.capacity

/-- What becomes of frames in one step. `wokenFull` is 1 if the queue is woken by
    ERROR_ACTIVE although the FIFO is full. -/
structure QueueOutput where
  accepted : List PcanfdTxmsg
  taken : List PcanfdTxmsg
  dropped : Nat
  wokenFull : Nat

def netdevStep (nd : PcanNetdev P) : NetdevEvent P → PcanNetdev P × QueueOutput
  | .xmit deviceWrite stack skb =>
    let sent := pcanNetdevTx deviceWrite stack nd skb
    let dropped := sent.stats.txDropped - nd.stats.txDropped
    let accepted := if dropped = 0 then [⟨netdevTxMsg skb, stack⟩] else []
    let queued := nd.fifo ++ accepted
    (sent, ⟨accepted, queued.take (queued.length - sent.fifo.length), dropped, 0⟩)
  | .receive i =>
    ((pcanNetdevRx i.host i.alloc (i.counting nd) i.pqm).ndev, ⟨[], [], 0,
      if i.told = some .errorActive ∧ nd.fifo.length = nd.capacity then 1 else 0⟩)
  | .written complete =>
    let pdev := complete nd.pdev
    ({ nd with pdev := pdev, queueStopped := false },
      ⟨[], nd.fifo.take (nd.fifo.length - pdev.writeFifo.items.length), 0, 0⟩)

/-- The second channel is the first one with its oldest frames taken, if any. -/
def TakesOldest (dev dev' : Pcandev P) : Prop :=
  dev'.writeFifo.items <:+ dev.writeFifo.items ∧
    dev'.writeFifo.capacity = dev.writeFifo.capacity

/-- The socket layer sends while the queue is not stopped, and the interface takes at
    least one frame before it wakes the queue. -/
def QueueKept (nd : PcanNetdev P) : NetdevEvent P → Prop
  | .xmit deviceWrite _ _ => nd.present = true ∧ nd.queueStopped = false ∧
    ∀ dev, TakesOldest dev (deviceWrite dev).1
  | .receive _ => True
  | .written complete => TakesOldest nd.pdev (complete nd.pdev) ∧
    (nd.fifo = [] ∨ (complete nd.pdev).writeFifo.items.length < nd.fifo.length)

/-- The limits of the module parameter `txqsize`. -/
def TxqsizeAllowed (nd : PcanNetdev P) : Prop := 50 ≤ nd.capacity ∧ nd.capacity ≤ 999

/-- A running queue of a full FIFO will lose a frame. -/
def atRisk (nd : PcanNetdev P) : Nat :=
  if nd.queueStopped = false ∧ nd.fifo.length = nd.capacity then 1 else 0

theorem pcanNetdevRx_queue (nd : PcanNetdev P) (i : NetdevInput) :
    let after := (pcanNetdevRx i.host i.alloc nd i.pqm).ndev
    after.pdev.writeFifo = nd.pdev.writeFifo ∧ after.stats.txPackets = nd.stats.txPackets ∧
      after.stats.txDropped = nd.stats.txDropped ∧
      after.stats.txFifoErrors = nd.stats.txFifoErrors ∧
      (nd.queueStopped = true → after.queueStopped = false →
        i.told = some .errorActive) := by
  have can : ∀ fd, (netdevCanRx i.host nd fd i.pqm).ndev.pdev.writeFifo = nd.pdev.writeFifo ∧
      (netdevCanRx i.host nd fd i.pqm).ndev.stats.txPackets = nd.stats.txPackets ∧
      (netdevCanRx i.host nd fd i.pqm).ndev.stats.txDropped = nd.stats.txDropped ∧
      (netdevCanRx i.host nd fd i.pqm).ndev.stats.txFifoErrors = nd.stats.txFifoErrors ∧
      (netdevCanRx i.host nd fd i.pqm).ndev.queueStopped = nd.queueStopped := by
    intro fd
    unfold netdevCanRx
    split
    · refine ⟨?_, rfl, rfl, rfl, rfl⟩
      show (pcanSyncTimestamps i.host nd.pdev i.pqm).1.writeFifo = _
      unfold pcanSyncTimestamps
      simp only
      split
      · rfl
      · rfl
      · split
        · rfl
        · split <;> rfl
    · exact ⟨rfl, rfl, rfl, rfl, rfl⟩
  have unchanged : ∀ {after : PcanNetdev P}, after.queueStopped = nd.queueStopped →
      (nd.queueStopped = true → after.queueStopped = false →
        i.told = some .errorActive) := by
    intro after same stopped running
    rw [same, stopped] at running
    cases running
  unfold pcanNetdevRx
  simp only
  cases type : i.pqm.msg.type with
  | nop | errorMsg | other => exact ⟨rfl, rfl, rfl, rfl, unchanged rfl⟩
  | canfdMsg =>
    simp only
    split
    · exact ⟨rfl, rfl, rfl, rfl, unchanged rfl⟩
    · split
      · exact ⟨rfl, rfl, rfl, rfl, unchanged rfl⟩
      · obtain ⟨fifo, packets, dropped, errors, queue⟩ := can true
        exact ⟨fifo, packets, dropped, errors, unchanged queue⟩
  | can20Msg =>
    simp only
    split
    · exact ⟨rfl, rfl, rfl, rfl, unchanged rfl⟩
    · obtain ⟨fifo, packets, dropped, errors, queue⟩ := can false
      exact ⟨fifo, packets, dropped, errors, unchanged queue⟩
  | status =>
    simp only
    by_cases active : i.pqm.msg.id = PcanfdStatus.errorActive.code
    · rw [if_pos active]
      refine ⟨rfl, rfl, rfl, rfl, fun _ _ => ?_⟩
      unfold NetdevInput.told
      rw [if_neg (not_not.mpr type), if_pos active]
    · rw [if_neg active]
      have entered : ∀ state skb tstamp, nd.queueStopped = true →
          ((nd.entered state).deliver skb tstamp).ndev.queueStopped = false →
          i.told = some .errorActive := by
        intro state skb tstamp stopped running
        simp [PcanNetdev.deliver, PcanNetdev.entered, stopped] at running
      unfold netdevStatusRx
      simp only
      split_ifs <;> exact ⟨rfl, rfl, rfl, rfl, by first | exact unchanged rfl | exact entered _ _ _⟩

theorem startWriting_takesOldest {deviceWrite : Pcandev P → Pcandev P × Int}
    (takes : ∀ dev, TakesOldest dev (deviceWrite dev).1) (dev : Pcandev P) :
    TakesOldest dev (pcanDevStartWriting deviceWrite dev).1 := by
  rcases pcanDevStartWriting_cases deviceWrite dev with ⟨_, same⟩ | ⟨_, _, written⟩
  · rw [same]
    exact ⟨List.suffix_refl _, rfl⟩
  · rw [written]
    exact takes dev

theorem take_of_suffix {A : Type} {before after : List A} (suffix : after <:+ before) :
    before.take (before.length - after.length) ++ after = before := by
  obtain ⟨taken, rfl⟩ := suffix
  simp

theorem pcanFifoRatio_full {A : Type} {fifo : BoundedQueue A} (positive : 0 < fifo.capacity)
    (small : fifo.capacity ≤ 999) (below : ¬pcanFifoRatio fifo > 8000) :
    fifo.items.length < fifo.capacity := by
  have fits := fifo.fits
  by_contra full
  have length : fifo.items.length = fifo.capacity := by omega
  apply below
  unfold pcanFifoRatio
  rw [if_neg (by omega), length, Nat.mod_eq_of_lt (by omega), Nat.mul_div_cancel_left _ positive]
  decide

structure QueueStep (nd : PcanNetdev P) (done : PcanNetdev P × QueueOutput) : Prop where
  capacity : done.1.capacity = nd.capacity
  order : nd.fifo ++ done.2.accepted = done.2.taken ++ done.1.fifo
  packets : done.1.stats.txPackets = nd.stats.txPackets + done.2.accepted.length
  dropped : done.1.stats.txDropped = nd.stats.txDropped + done.2.dropped
  risk : done.2.dropped + atRisk done.1 ≤ done.2.wokenFull + atRisk nd

theorem pcanNetdevTx_room {deviceWrite : Pcandev P → Pcandev P × Int}
    (takes : ∀ dev, TakesOldest dev (deviceWrite dev).1) (stack : Timeval) {nd : PcanNetdev P}
    (present : nd.present = true) (room : nd.fifo.length < nd.capacity) (skb : CanSkb) :
    ∃ pdev : Pcandev P, pcanNetdevTx deviceWrite stack nd skb =
        { nd with
          pdev := pdev
          queueStopped := nd.queueStopped || decide (pcanFifoRatio pdev.writeFifo > 8000)
          stats := { nd.stats with
            txPackets := nd.stats.txPackets + 1
            txBytes := nd.stats.txBytes + (netdevTxMsg skb).dataLen.toNat } } ∧
      pdev.writeFifo.items <:+ nd.fifo ++ [⟨netdevTxMsg skb, stack⟩] ∧
      pdev.writeFifo.capacity = nd.capacity := by
  obtain ⟨items, capacity, stored⟩ := fifoPut_room ⟨netdevTxMsg skb, stack⟩ room
  obtain ⟨suffix, sameCapacity⟩ := startWriting_takesOldest takes
    { nd.pdev with writeFifo := (fifoPut nd.pdev.writeFifo ⟨netdevTxMsg skb, stack⟩).1 }
  refine ⟨_, ?_, items ▸ suffix, sameCapacity.trans capacity⟩
  unfold pcanNetdevTx
  simp only [present, Bool.not_true, Bool.false_eq_true, if_false]
  rw [if_neg (by rw [stored]; omega)]

theorem pcanNetdevTx_full (deviceWrite : Pcandev P → Pcandev P × Int) (stack : Timeval)
    {nd : PcanNetdev P} (present : nd.present = true) (full : nd.fifo.length = nd.capacity)
    (skb : CanSkb) : pcanNetdevTx deviceWrite stack nd skb =
      { nd with
        queueStopped := true
        stats := { nd.stats with
          txFifoErrors := nd.stats.txFifoErrors + 1
          txDropped := nd.stats.txDropped + 1 } } := by
  unfold pcanNetdevTx
  simp only [present, Bool.not_true, Bool.false_eq_true, if_false]
  rw [fifoPut_full _ full, if_pos (show (-enospc : Int) < 0 by decide)]

theorem atRisk_zero {nd : PcanNetdev P}
    (safe : nd.queueStopped = true ∨ nd.fifo.length < nd.capacity) : atRisk nd = 0 := by
  apply if_neg
  rintro ⟨running, full⟩
  rcases safe with stopped | room
  · rw [stopped] at running
    cases running
  · omega

theorem risk_of_safe {nd nd' : PcanNetdev P} {out : QueueOutput} (kept : out.dropped = 0)
    (safe : nd'.queueStopped = true ∨ nd'.fifo.length < nd'.capacity) :
    out.dropped + atRisk nd' ≤ out.wokenFull + atRisk nd := by
  rw [kept, atRisk_zero safe]
  exact Nat.zero_le _

theorem netdevStep_queue {nd : PcanNetdev P} (sizes : TxqsizeAllowed nd) (e : NetdevEvent P)
    (kept : QueueKept nd e) : QueueStep nd (netdevStep nd e) := by
  have fits : nd.fifo.length ≤ nd.capacity := nd.pdev.writeFifo.fits
  cases e with
  | xmit deviceWrite stack skb =>
    obtain ⟨present, queue, takes⟩ := kept
    by_cases full : nd.fifo.length = nd.capacity
    · have lost := pcanNetdevTx_full deviceWrite stack present full skb
      have risk : atRisk nd = 1 := if_pos ⟨queue, full⟩
      simp only [netdevStep, lost, Nat.add_sub_cancel_left, one_ne_zero, if_false, List.append_nil]
      refine ⟨rfl, ?_, rfl, rfl, ?_⟩
      · exact (List.append_nil _).trans (take_of_suffix (List.suffix_refl nd.fifo)).symm
      · rw [risk, atRisk_zero (.inl rfl)]
    · obtain ⟨pdev, sent, suffix, capacity⟩ :=
        pcanNetdevTx_room takes stack present (by omega) skb
      simp only [netdevStep, sent, Nat.sub_self, if_true]
      refine ⟨capacity, (take_of_suffix suffix).symm, rfl, rfl, risk_of_safe rfl ?_⟩
      rw [queue, Bool.false_or]
      by_cases high : pcanFifoRatio pdev.writeFifo > 8000
      · exact .inl (decide_eq_true high)
      · refine .inr (pcanFifoRatio_full ?_ (Nat.le_trans (Nat.le_of_eq capacity) sizes.2) high)
        exact Nat.lt_of_lt_of_eq (Nat.lt_of_lt_of_le (by decide) sizes.1) capacity.symm
  | receive i =>
    obtain ⟨fifo, packets, dropped, _, started⟩ := pcanNetdevRx_queue (i.counting nd) i
    have sameFifo : (netdevStep nd (.receive i)).1.fifo = nd.fifo := congrArg BoundedQueue.items fifo
    have sameCapacity : (netdevStep nd (.receive i)).1.capacity = nd.capacity :=
      congrArg BoundedQueue.capacity fifo
    refine ⟨sameCapacity, ?_, packets, dropped, ?_⟩
    · rw [sameFifo]
      exact List.append_nil _
    · by_cases safe : (netdevStep nd (.receive i)).1.queueStopped = true ∨
          (netdevStep nd (.receive i)).1.fifo.length < (netdevStep nd (.receive i)).1.capacity
      · exact risk_of_safe rfl safe
      · -- the queue runs over a full FIFO now: it did before, or it has been woken
        rw [not_or, Bool.not_eq_true, sameFifo, sameCapacity] at safe
        obtain ⟨running, full⟩ := safe
        have full : nd.fifo.length = nd.capacity := by omega
        have after : atRisk (netdevStep nd (.receive i)).1 = 1 :=
          if_pos ⟨running, by rw [sameFifo, sameCapacity, full]⟩
        rw [after]
        cases before : nd.queueStopped with
        | true =>
          have woken : (netdevStep nd (.receive i)).2.wokenFull = 1 :=
            if_pos ⟨started before running, full⟩
          rw [woken]
          exact Nat.le_add_right _ _
        | false =>
          have risk : atRisk nd = 1 := if_pos ⟨before, full⟩
          rw [risk]
          exact Nat.le_add_left _ _
  | written complete =>
    obtain ⟨⟨suffix, sameCapacity⟩, taken⟩ := kept
    refine ⟨sameCapacity, (List.append_nil _).trans (take_of_suffix suffix).symm, rfl, rfl,
      risk_of_safe rfl (.inr ?_)⟩
    show (complete nd.pdev).writeFifo.items.length < (complete nd.pdev).writeFifo.capacity
    have positive := sizes.1
    rw [show (complete nd.pdev).writeFifo.capacity = nd.capacity from sameCapacity]
    rcases taken with empty | fewer
    · have none_left : (complete nd.pdev).writeFifo.items.length ≤ nd.fifo.length :=
        suffix.length_le
      rw [empty, List.length_nil] at none_left
      omega
    · omega

/-- Over any run with a FIFO of a size that the driver allows, the frames that are accepted
    are taken by the interface in their order or still in the FIFO, the statistics count
    them and those that are dropped, and at most one frame is dropped for every time that
    ERROR_ACTIVE wakes the queue while the FIFO is full. -/
theorem netdev_queue_loses_only_after_error_active {nd : PcanNetdev P} (sizes : TxqsizeAllowed nd)
    {events : List (NetdevEvent P)} (kept : Admitted QueueKept netdevStep nd events) :
    let done := run netdevStep nd events
    let dropped := (done.2.map (·.dropped)).sum
    nd.fifo ++ done.2.flatMap (·.accepted) = done.2.flatMap (·.taken) ++ done.1.fifo ∧
      done.1.stats.txPackets = nd.stats.txPackets + (done.2.flatMap (·.accepted)).length ∧
      done.1.stats.txDropped = nd.stats.txDropped + dropped ∧
      dropped + atRisk done.1 ≤ (done.2.map (·.wokenFull)).sum + atRisk nd := by
  induction events generalizing nd with
  | nil => exact ⟨List.append_nil _, rfl, rfl, by simp [run]⟩
  | cons e rest ih =>
    obtain ⟨capacity, order, packets, dropped, risk⟩ := netdevStep_queue sizes e kept.1
    have next : TxqsizeAllowed (netdevStep nd e).1 := by
      unfold TxqsizeAllowed
      rw [capacity]
      exact sizes
    obtain ⟨laterOrder, laterPackets, laterDropped, laterRisk⟩ := ih next kept.2
    simp only [run, List.flatMap_cons, List.map_cons, List.sum_cons]
    refine ⟨?_, ?_, ?_, ?_⟩
    · rw [← List.append_assoc, order, List.append_assoc, laterOrder, List.append_assoc]
    · rw [laterPackets, packets, List.length_append]
      omega
    · rw [laterDropped, dropped]
      omega
    · omega

theorem pcanUsbWrite_takesOldest (family : UsbFamily) (submit : Int) (host : Host) (dev : UsbDev) :
    TakesOldest dev (pcanUsbWrite family submit host dev).1 := by
  have encoded : ∀ w, TakesOldest dev (encodedDev dev w) :=
    fun w => ⟨List.drop_suffix _ _, rfl⟩
  unfold pcanUsbWrite
  split
  · exact ⟨List.suffix_refl _, rfl⟩
  · simp only
    split
    · split
      · have kept : (pcanClearStatusBit host (startUrb (encodedDev dev (fillWriteBuffer family dev))
            (fillWriteBuffer family dev)) canErrQxmtfull).writeFifo =
            (encodedDev dev (fillWriteBuffer family dev)).writeFifo :=
          congrArg TransmitSide.writeFifo (pcanClearStatusBit_transmit _ _ _)
        unfold TakesOldest
        rw [kept]
        exact encoded _
      · exact encoded _
    · exact encoded _

/-- What `pcan_usb_write_notify` does to go on writing. -/
def sampleWritten (dev : UsbDev) : UsbDev := (pcanUsbWrite .ucan 0 sampleHost (releaseUrb dev)).1

def sampleUsbNetdev : PcanNetdev UsbPort :=
  sampleNetdev { openedChannel ⟨512, 512, 0, 0, false, []⟩ 50 50 0 with
    busState := .errorActive
    lockedTxEngineState := .stopped }

/-- The first frame is written at once, the second one when this is done. -/
def sampleNetdevEvents : List (NetdevEvent UsbPort) :=
  [.xmit (pcanUsbWrite .ucan 0 sampleHost) ⟨0, 0⟩ sampleSkb,
    .xmit (pcanUsbWrite .ucan 0 sampleHost) ⟨0, 0⟩ { sampleSkb with canId := 0x123 },
    .written sampleWritten]

theorem netdev_queue_loses_only_after_error_active_sample :
    let done := run netdevStep sampleUsbNetdev sampleNetdevEvents
    (done.2.flatMap (·.taken)).map (·.msg.id) = [0x12345, 0x123] ∧ done.1.stats.txDropped = 0 := by
  intro done
  have kept : Admitted QueueKept netdevStep sampleUsbNetdev sampleNetdevEvents := by
    refine ⟨⟨by rfl, by rfl, pcanUsbWrite_takesOldest _ _ _⟩,
      ⟨by decide +kernel, by decide +kernel, pcanUsbWrite_takesOldest _ _ _⟩, ⟨?_, ?_⟩, trivial⟩
    · exact pcanUsbWrite_takesOldest .ucan 0 sampleHost (releaseUrb _)
    · decide +kernel
  have total := netdev_queue_loses_only_after_error_active ⟨by decide, by decide⟩ kept
  have woken : (done.2.map (·.wokenFull)).sum + atRisk sampleUsbNetdev = 0 := by decide +kernel
  refine ⟨?_, ?_⟩
  · have fifo : done.1.fifo = [] := by decide +kernel
    have order := congrArg (List.map (·.msg.id)) total.1
    rw [fifo, List.append_nil] at order
    exact order.symm.trans (by decide +kernel)
  · have risk : (done.2.map (·.dropped)).sum + atRisk done.1 ≤
        (done.2.map (·.wokenFull)).sum + atRisk sampleUsbNetdev := total.2.2.2
    have dropped : done.1.stats.txDropped = 0 + (done.2.map (·.dropped)).sum := total.2.2.1
    omega

end Queue
end PcanDriver

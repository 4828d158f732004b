import PcanDriver.Lib.BoundedQueue
import PcanDriver.Lib.RingLayout
import PcanDriver.Lib.StepSystem
import PcanDriver.Fifo

/-!
The pointer and counter arithmetic of `pcan_fifo.c` implements a bounded queue.
The reader and the writer each compare their own pointer with `bufferEnd`; what
keeps them together is that the writer's slot is the reader's slot advanced by
the number of stored elements.
-/
namespace PcanDriver.Fifo
open ElementMemory RingLayout
variable {A X : Type} {size : Nat}

/-- The queue a FIFO stands for, with the `FIFO_CIRCULAR` bit of its flags. -/
structure FifoQueue (A : Type) where
  queue : BoundedQueue A
  circular : Bool

def queuePut (s : FifoQueue A) (x : A) : FifoQueue A × Int :=
  match s.queue.push x with
  | some pushed => ({ s with queue := pushed }, (s.queue.items.length : Int))
  | none =>
    if s.circular then
      match s.queue.dropOldest.push x with
      | some pushed => ({ s with queue := pushed }, (s.queue.dropOldest.items.length : Int))
      | none => (s, -enospc)
    else (s, -enospc)

def queueGet (s : FifoQueue A) (wanted : Bool) : FifoQueue A × Option A × Int :=
  match s.queue.oldest with
  | some x => ({ s with queue := s.queue.dropOldest }, if wanted then some x else none, 0)
  | none => (s, none, -enodata)

def queueStep (s : FifoQueue A) : FifoCall A X → FifoQueue A × FifoReply A X
  | .put x => ((queuePut s x).1, ⟨(queuePut s x).2, none, none⟩)
  | .get wanted => ((queueGet s wanted).1, ⟨(queueGet s wanted).2.2, (queueGet s wanted).2.1, none⟩)
  | .peek => (s, ⟨if s.queue.items = [] then -enodata else 0, s.queue.oldest, none⟩)
  | .reset => ({ s with queue := s.queue.clear }, ⟨0, none, none⟩)
  | .foreachBack pf arg =>
    ({ s with queue := (s.queue.visitBack pf arg).1 },
      ⟨(s.queue.visitBack pf arg).2.2, none, some (s.queue.visitBack pf arg).2.1⟩)
  | .setFlags flags => ({ s with circular := flags &&& fifoCircular ≠ 0 }, ⟨0, none, none⟩)

def FifoManager.slot (anchor : FifoManager) (i : Nat) : Nat :=
  slotAddress anchor.bufferBegin anchor.wStepSize i

def slots (M : ElementMemory A size) (anchor : FifoManager) (memory : M.Carrier) : Nat → A :=
  fun i => M.load memory (anchor.slot i)

/-- `head` is the slot of `r`. -/
structure Represents (M : ElementMemory A size) (anchor : FifoManager) (memory : M.Carrier)
    (s : FifoQueue A) (head : Nat) : Prop where
  wide : 0 < anchor.wStepSize ∧ size ≤ anchor.wStepSize
  last : anchor.bufferEnd = anchor.slot (anchor.nCount - 1)
  capacity : anchor.nCount = s.queue.capacity
  several : 2 ≤ anchor.nCount
  head_lt : head < anchor.nCount
  reader : anchor.r = anchor.slot head
  writer : anchor.w = anchor.slot ((head + anchor.nStored) % anchor.nCount)
  stored : anchor.nStored = s.queue.items.length
  elements : contents (slots M anchor memory) anchor.nCount head anchor.nStored = s.queue.items
  mode : s.circular = decide (anchor.flags &&& fifoCircular ≠ 0)

theorem Represents.stored_le {M : ElementMemory A size} {anchor : FifoManager}
    {memory : M.Carrier} {s : FifoQueue A} {head : Nat}
    (rep : Represents M anchor memory s head) : anchor.nStored ≤ anchor.nCount := by
  rw [rep.stored, rep.capacity]
  exact s.queue.fits

theorem slot_le_iff {anchor : FifoManager} (step : 0 < anchor.wStepSize) (i j : Nat) :
    anchor.slot i < anchor.slot j ↔ i < j := by
  simp only [FifoManager.slot, slotAddress, Nat.add_lt_add_iff_left]
  exact Nat.mul_lt_mul_right step

theorem forward_slot {anchor : FifoManager} {i : Nat} (step : 0 < anchor.wStepSize)
    (last : anchor.bufferEnd = anchor.slot (anchor.nCount - 1)) (bound : i < anchor.nCount) :
    anchor.forward (anchor.slot i) = anchor.slot (next anchor.nCount i) := by
  unfold FifoManager.forward next
  simp only [last, slot_le_iff step]
  by_cases inside : i + 1 < anchor.nCount
  · rw [if_pos (by omega), if_pos inside]
    simp only [FifoManager.slot, slotAddress, Nat.succ_mul]
    omega
  · rw [if_neg (by omega), if_neg inside]
    simp [FifoManager.slot, slotAddress]

theorem backward_slot {anchor : FifoManager} {i : Nat} (step : 0 < anchor.wStepSize)
    (last : anchor.bufferEnd = anchor.slot (anchor.nCount - 1)) :
    anchor.backward (anchor.slot i) = anchor.slot (prev anchor.nCount i) := by
  unfold FifoManager.backward prev
  have first : anchor.slot i = anchor.bufferBegin ↔ i = 0 := by
    simp only [FifoManager.slot, slotAddress]
    constructor
    · intro same
      have : i * anchor.wStepSize = 0 := by omega
      rcases Nat.mul_eq_zero.mp this with zero | zero
      · exact zero
      · omega
    · rintro rfl
      omega
  by_cases zero : i = 0
  · rw [if_pos (first.mpr zero), if_pos zero, last]
  · rw [if_neg (fun h => zero (first.mp h)), if_neg zero]
    obtain ⟨k, rfl⟩ := Nat.exists_eq_succ_of_ne_zero zero
    simp only [FifoManager.slot, slotAddress, Nat.succ_mul, Nat.succ_sub_one]
    omega

theorem slots_store (M : ElementMemory A size) {anchor : FifoManager} (memory : M.Carrier)
    (wide : size ≤ anchor.wStepSize) (i : Nat) (x : A) :
    slots M anchor (M.store memory (anchor.slot i) x) = put (slots M anchor memory) i x := by
  funext j
  exact load_store_slot M memory wide i j x

section Operations
variable {M : ElementMemory A size} {anchor : FifoManager} {memory : M.Carrier}
  {s : FifoQueue A} {head : Nat}

theorem storeElement_represents (rep : Represents M anchor memory s head)
    (room : anchor.nStored < anchor.nCount) (x : A) {pushed : BoundedQueue A}
    (capacity : pushed.capacity = s.queue.capacity) (items : pushed.items = s.queue.items ++ [x]) :
    Represents M (storeElement M anchor memory x).1 (storeElement M anchor memory x).2.1
      { s with queue := pushed } head where
  wide := rep.wide
  last := rep.last
  capacity := rep.capacity.trans capacity.symm
  several := rep.several
  head_lt := rep.head_lt
  reader := rep.reader
  writer := by
    have low : (head + anchor.nStored) % anchor.nCount < anchor.nCount :=
      Nat.mod_lt _ (by omega)
    show anchor.forward anchor.w = anchor.slot ((head + (anchor.nStored + 1)) % anchor.nCount)
    rw [rep.writer, forward_slot rep.wide.1 rep.last low, next_eq_mod low, Nat.mod_add_mod,
      Nat.add_assoc]
  stored := by
    show anchor.nStored + 1 = pushed.items.length
    rw [items, List.length_append, rep.stored]
    rfl
  elements := by
    show contents (slots M anchor (M.store memory anchor.w x)) anchor.nCount head
      (anchor.nStored + 1) = pushed.items
    rw [rep.writer, slots_store M memory rep.wide.2, contents_push _ x room, rep.elements, items]
  mode := rep.mode

theorem dropOldest_represents (rep : Represents M anchor memory s head)
    (some_stored : 0 < anchor.nStored) :
    Represents M { anchor with r := anchor.forward anchor.r, nStored := anchor.nStored - 1 } memory
      { s with queue := s.queue.dropOldest } (next anchor.nCount head) where
  wide := rep.wide
  last := rep.last
  capacity := rep.capacity
  several := rep.several
  head_lt := next_lt rep.head_lt
  reader := by
    show anchor.forward anchor.r = anchor.slot (next anchor.nCount head)
    rw [rep.reader, forward_slot rep.wide.1 rep.last rep.head_lt]
  writer := by
    show anchor.w =
      anchor.slot ((next anchor.nCount head + (anchor.nStored - 1)) % anchor.nCount)
    rw [rep.writer, next_eq_mod rep.head_lt, Nat.mod_add_mod]
    congr 2
    omega
  stored := by
    show anchor.nStored - 1 = s.queue.dropOldest.items.length
    rw [BoundedQueue.dropOldest_items, List.length_tail, rep.stored]
  elements := by
    show contents (slots M anchor memory) anchor.nCount (next anchor.nCount head)
      (anchor.nStored - 1) = s.queue.items.tail
    obtain ⟨n, count⟩ := Nat.exists_eq_succ_of_ne_zero (Nat.ne_of_gt some_stored)
    rw [← rep.elements, count, contents_cons _ n rep.head_lt]
    rfl
  mode := rep.mode

theorem oldest_represents (rep : Represents M anchor memory s head)
    (some_stored : 0 < anchor.nStored) : s.queue.oldest = some (M.load memory anchor.r) := by
  obtain ⟨n, count⟩ := Nat.exists_eq_succ_of_ne_zero (Nat.ne_of_gt some_stored)
  rw [BoundedQueue.oldest, ← rep.elements, count, contents_cons _ n rep.head_lt, rep.reader]
  rfl

theorem pcanFifoPut_represents (rep : Represents M anchor memory s head) (x : A) :
    (∃ head', Represents M (pcanFifoPut M anchor memory x).1 (pcanFifoPut M anchor memory x).2.1
      (queuePut s x).1 head') ∧ (pcanFifoPut M anchor memory x).2.2 = (queuePut s x).2 := by
  have bound := rep.stored_le
  have capacity := rep.capacity
  have stored := rep.stored
  by_cases full : anchor.nCount ≤ anchor.nStored
  · have stop : s.queue.push x = none := BoundedQueue.push_none.mpr (by omega)
    simp only [pcanFifoPut, queuePut, full, if_true, stop]
    by_cases circular : anchor.flags &&& fifoCircular = 0
    · have off : s.circular = false := by simp [rep.mode, circular]
      simp only [circular, off, if_true, Bool.false_eq_true, if_false, and_true]
      exact ⟨head, rep⟩
    · have on : s.circular = true := rep.mode.trans (decide_eq_true circular)
      have several := rep.several
      have shorter : s.queue.dropOldest.items.length < s.queue.dropOldest.capacity := by
        simp only [BoundedQueue.dropOldest_items, BoundedQueue.dropOldest_capacity,
          List.length_tail]
        omega
      obtain ⟨pushed, accepted, pushed_capacity, pushed_items⟩ := BoundedQueue.push_room x shorter
      have dropped := dropOldest_represents rep (by omega)
      rw [if_neg circular, if_pos on, accepted]
      constructor
      · exact ⟨_, storeElement_represents dropped (by simp only; omega) x pushed_capacity
          pushed_items⟩
      · simp only [storeElement, BoundedQueue.dropOldest_items, List.length_tail, stored]
  · obtain ⟨pushed, accepted, pushed_capacity, pushed_items⟩ :=
      BoundedQueue.push_room (q := s.queue) x (by omega)
    simp only [pcanFifoPut, queuePut, full, if_false, accepted]
    constructor
    · exact ⟨head, storeElement_represents rep (by omega) x pushed_capacity pushed_items⟩
    · simp only [storeElement, stored]

theorem pcanFifoGet_represents (rep : Represents M anchor memory s head) (wanted : Bool) :
    (∃ head', Represents M (pcanFifoGet M anchor memory wanted).1 memory
      (queueGet s wanted).1 head') ∧
      (pcanFifoGet M anchor memory wanted).2 = (queueGet s wanted).2 := by
  by_cases some_stored : 0 < anchor.nStored
  · simp only [pcanFifoGet, queueGet, some_stored, if_true, oldest_represents rep some_stored,
      and_true]
    exact ⟨_, dropOldest_represents rep some_stored⟩
  · have none_left : s.queue.oldest = none := by
      have := rep.stored
      rw [BoundedQueue.oldest, List.head?_eq_none_iff]
      exact List.length_eq_zero_iff.mp (by omega)
    simp only [pcanFifoGet, queueGet, some_stored, if_false, none_left, and_true]
    exact ⟨head, rep⟩

theorem pcanFifoPeek_represents (rep : Represents M anchor memory s head) :
    pcanFifoPeek M anchor memory =
      (s.queue.oldest, if s.queue.items = [] then -enodata else 0) := by
  have stored := rep.stored
  by_cases some_stored : 0 < anchor.nStored
  · have filled : s.queue.items ≠ [] := by
      intro nil
      simp only [nil, List.length_nil] at stored
      omega
    simp only [pcanFifoPeek, some_stored, if_true, oldest_represents rep some_stored, filled,
      if_false]
  · have nil : s.queue.items = [] := List.length_eq_zero_iff.mp (by omega)
    simp only [pcanFifoPeek, some_stored, if_false, nil, if_true, BoundedQueue.oldest,
      List.head?_nil]

theorem pcanFifoReset_represents (rep : Represents M anchor memory s head) :
    Represents M (pcanFifoReset anchor).1 memory { s with queue := s.queue.clear } 0 where
  wide := rep.wide
  last := rep.last
  capacity := rep.capacity
  several := rep.several
  head_lt := by
    have := rep.several
    simp only [pcanFifoReset]
    omega
  reader := by simp [pcanFifoReset, FifoManager.slot, slotAddress]
  writer := by simp [pcanFifoReset, FifoManager.slot, slotAddress]
  stored := rfl
  elements := rfl
  mode := rep.mode

/-- With `n` elements left to visit the pointer stands behind the `n`th stored
    element; the slots from there on are not touched any more. -/
theorem foreachBackLoop_contents (pf : A → X → A × X × Int) (step : 0 < anchor.wStepSize)
    (wide : size ≤ anchor.wStepSize) (last : anchor.bufferEnd = anchor.slot (anchor.nCount - 1))
    (n : Nat) (bound : n ≤ anchor.nCount) (memory : M.Carrier) (arg : X) :
    let done := foreachBackLoop M anchor pf n
      (anchor.slot ((head + n) % anchor.nCount)) memory arg
    let spec := BoundedQueue.visit pf
      (contents (slots M anchor memory) anchor.nCount head n).reverse arg
    contents (slots M anchor done.1) anchor.nCount head n = spec.1.reverse ∧ done.2 = spec.2 ∧
      ∀ k, n ≤ k → k < anchor.nCount → slots M anchor done.1 ((head + k) % anchor.nCount) =
        slots M anchor memory ((head + k) % anchor.nCount) := by
  induction n generalizing memory arg with
  | zero => exact ⟨rfl, rfl, fun _ _ _ => rfl⟩
  | succ n ih =>
    have positive : 0 < anchor.nCount := by omega
    have pointer : anchor.backward (anchor.slot ((head + (n + 1)) % anchor.nCount)) =
        anchor.slot ((head + n) % anchor.nCount) := by
      rw [backward_slot step last, prev_add positive]
    have element : M.load memory (anchor.slot ((head + n) % anchor.nCount)) =
        slots M anchor memory ((head + n) % anchor.nCount) := rfl
    have edited : ∀ x, slots M anchor (M.store memory
        (anchor.slot ((head + n) % anchor.nCount)) x) =
          put (slots M anchor memory) ((head + n) % anchor.nCount) x :=
      fun x => slots_store M memory wide _ x
    have other : ∀ x k, n + 1 ≤ k → k < anchor.nCount →
        put (slots M anchor memory) ((head + n) % anchor.nCount) x ((head + k) % anchor.nCount) =
          slots M anchor memory ((head + k) % anchor.nCount) := by
      intro x k behind inside
      unfold put
      rw [if_neg]
      intro same
      have := offset_injective inside (by omega : n < anchor.nCount) same
      omega
    simp only [foreachBackLoop, pointer, element, contents_append, List.reverse_append,
      List.reverse_singleton, List.singleton_append, BoundedQueue.visit]
    split
    · obtain ⟨visited, result, beyond⟩ := ih (by omega)
        (M.store memory (anchor.slot ((head + n) % anchor.nCount))
          (pf (slots M anchor memory ((head + n) % anchor.nCount)) arg).1)
        (pf (slots M anchor memory ((head + n) % anchor.nCount)) arg).2.1
      simp only [edited, contents_put_free _ _ (by omega : n < anchor.nCount)] at visited result
      have newest := beyond n (Nat.le_refl n) (by omega)
      refine ⟨?_, result, ?_⟩
      · rw [visited, newest, edited, List.reverse_cons]
        simp [put]
      · intro k behind inside
        rw [beyond k (by omega) inside, edited, other _ k behind inside]
    · refine ⟨?_, rfl, ?_⟩
      · rw [edited, contents_put_free _ _ (by omega : n < anchor.nCount), List.reverse_cons,
          List.reverse_reverse]
        simp [put]
      · intro k behind inside
        rw [edited, other _ k behind inside]

theorem pcanFifoForeachBack_represents (rep : Represents M anchor memory s head)
    (pf : A → X → A × X × Int) (arg : X) :
    Represents M anchor (pcanFifoForeachBack M anchor memory pf arg).1
      { s with queue := (s.queue.visitBack pf arg).1 } head ∧
    (pcanFifoForeachBack M anchor memory pf arg).2 = (s.queue.visitBack pf arg).2 := by
  obtain ⟨visited, result, -⟩ := @foreachBackLoop_contents A X size M anchor head pf rep.wide.1
    rep.wide.2 rep.last anchor.nStored rep.stored_le memory arg
  rw [← rep.writer, rep.elements] at visited result
  constructor
  · exact
      { rep with
        capacity := rep.capacity
        stored := by
          rw [rep.stored]
          simp [BoundedQueue.visitBack, BoundedQueue.visit_length]
        elements := visited }
  · exact result

theorem fifoStep_matches (rep : Represents M anchor memory s head) (call : FifoCall A X) :
    (∃ head', Represents M (fifoStep M (anchor, memory) call).1.1
      (fifoStep M (anchor, memory) call).1.2 (queueStep s call).1 head') ∧
      (fifoStep M (anchor, memory) call).2 = (queueStep s call).2 := by
  cases call with
  | put x =>
    obtain ⟨next_rep, result⟩ := pcanFifoPut_represents rep x
    exact ⟨next_rep, by simp only [fifoStep, queueStep, result]⟩
  | get wanted =>
    obtain ⟨next_rep, result⟩ := pcanFifoGet_represents rep wanted
    exact ⟨next_rep, by simp only [fifoStep, queueStep, result]⟩
  | peek =>
    refine ⟨⟨head, rep⟩, ?_⟩
    simp only [fifoStep, queueStep, pcanFifoPeek_represents rep]
  | reset => exact ⟨⟨0, pcanFifoReset_represents rep⟩, rfl⟩
  | foreachBack pf arg =>
    obtain ⟨next_rep, result⟩ := pcanFifoForeachBack_represents rep pf arg
    exact ⟨⟨head, next_rep⟩, by simp only [fifoStep, queueStep, result]⟩
  | setFlags flags => exact ⟨⟨head, { rep with mode := rfl }⟩, rfl⟩

end Operations

theorem pcanFifoInit_represents {wCopySize : U16} (M : ElementMemory A wCopySize.toNat)
    (anchor : FifoManager) (memory : M.Carrier) {bufferBegin nCount : Nat} (several : 2 ≤ nCount)
    (positive : 0 < wCopySize.toNat) :
    let opened := pcanFifoInit anchor bufferBegin
      (bufferBegin + (nCount - 1) * wCopySize.toNat) nCount wCopySize
    opened.2 = 0 ∧ Represents M opened.1 memory ⟨BoundedQueue.empty nCount, false⟩ 0 := by
  have short : wCopySize.toNat < 2 ^ 16 := wCopySize.isLt
  have apart : bufferBegin ≠ bufferBegin + (nCount - 1) * wCopySize.toNat := by
    have := Nat.mul_pos (by omega : 0 < nCount - 1) positive
    omega
  have count : ((nCount : Int) - 1).toNat = nCount - 1 := by omega
  have step : (bufferBegin + (nCount - 1) * wCopySize.toNat - bufferBegin) / (nCount - 1) %
      2 ^ 16 = wCopySize.toNat := by
    rw [Nat.add_sub_cancel_left, Nat.mul_div_cancel_left _ (by omega), Nat.mod_eq_of_lt short]
  have valid : ¬ (bufferBegin + (nCount - 1) * wCopySize.toNat < bufferBegin ∨
      (nCount : Int) ≤ 1 ∨ wCopySize.toNat = 0) := by omega
  simp only [pcanFifoInit, valid, if_false, apart, count, step, Nat.lt_irrefl, pcanFifoReset,
    Int.toNat_natCast, true_and]
  exact
    { wide := ⟨positive, Nat.le_refl wCopySize.toNat⟩
      last := rfl
      capacity := rfl
      several := several
      head_lt := by simp only; omega
      reader := by simp [FifoManager.slot, slotAddress]
      writer := by simp [FifoManager.slot, slotAddress]
      stored := rfl
      elements := rfl
      mode := by simp }

theorem queueStep_capacity (s : FifoQueue A) (call : FifoCall A X) :
    (queueStep s call).1.queue.capacity = s.queue.capacity := by
  cases call with
  | put x =>
    simp only [queueStep, queuePut]
    split
    · rename_i accepted
      exact (BoundedQueue.push_some accepted).1
    · split
      · split
        · rename_i accepted
          exact (BoundedQueue.push_some accepted).1
        · rfl
      · rfl
  | get wanted =>
    simp only [queueStep, queueGet]
    split <;> rfl
  | peek => rfl
  | reset => rfl
  | foreachBack pf arg => rfl
  | setFlags flags => rfl

/-- Any run of FIFO calls on a freshly initialised FIFO of `nCount` elements of
    `wCopySize` bytes answers as the bounded queue does and ends in a state that
    represents the queue's state. -/
theorem pcan_fifo_refines_bounded_queue {nCount : Nat} {wCopySize : U16} (bufferBegin : Nat)
    (several : 2 ≤ nCount) (positive : 0 < wCopySize.toNat) (anchor : FifoManager)
    (memory : (bytes wCopySize.toNat).Carrier)
    (calls : List (FifoCall (Vector U8 wCopySize.toNat) X)) :
    let opened := pcanFifoInit anchor bufferBegin
      (bufferBegin + (nCount - 1) * wCopySize.toNat) nCount wCopySize
    let ended := StepSystem.run (fifoStep (bytes wCopySize.toNat)) (opened.1, memory) calls
    let spec := StepSystem.run queueStep ⟨BoundedQueue.empty nCount, false⟩ calls
    opened.2 = 0 ∧ ended.2 = spec.2 ∧ spec.1.queue.capacity = nCount ∧
      ended.1.1.nStored ≤ nCount ∧
      (∃ head, Represents (bytes wCopySize.toNat) ended.1.1 ended.1.2 spec.1 head) ∧
      (pcanFifoForeachBack (bytes wCopySize.toNat) ended.1.1 ended.1.2
        (fun x seen => (x, seen ++ [x], 0)) []).2 = (spec.1.queue.items.reverse, 0) := by
  intro opened ended spec
  obtain ⟨success, start⟩ := @pcanFifoInit_represents _ _ (bytes wCopySize.toNat) anchor memory
    bufferBegin _ several positive
  obtain ⟨⟨⟨head, rep⟩, capacity⟩, replies⟩ := @StepSystem.run_simulation _ _ _ _
    (fifoStep (bytes wCopySize.toNat)) queueStep
    (fun c q => (∃ head, Represents (bytes wCopySize.toNat) c.1 c.2 q head) ∧
      q.queue.capacity = nCount)
    (by
      rintro c q call ⟨⟨head, rep⟩, capacity⟩
      obtain ⟨next_rep, reply⟩ := fifoStep_matches rep call
      exact ⟨⟨next_rep, (queueStep_capacity q call).trans capacity⟩, reply⟩)
    (opened.1, memory) _ ⟨⟨0, start⟩, rfl⟩ calls
  refine ⟨success, replies, capacity, ?_, ⟨head, rep⟩, ?_⟩
  · rw [← capacity, ← rep.capacity]
    exact rep.stored_le
  rw [(pcanFifoForeachBack_represents rep _ _).2]
  simp only [BoundedQueue.visitBack, BoundedQueue.visit_log, List.nil_append]
  rfl

theorem pcan_fifo_refines_two_slots :
    let anchor : FifoManager := ⟨0, 0, 0, 0, 0, 0, 0, 0, 0, 0⟩
    let calls : List (FifoCall (Vector U8 1) Unit) :=
      [.put #v[1], .put #v[2], .put #v[3], .get true, .setFlags 1, .put #v[4], .put #v[5], .peek]
    let ended := StepSystem.run (fifoStep (bytes 1))
      ((pcanFifoInit anchor 16 (16 + (2 - 1) * 1) 2 1).1, fun _ => 0) calls
    (2 ≤ 2 ∧ 0 < (1 : U16).toNat) ∧
      ended.2 = (StepSystem.run queueStep ⟨BoundedQueue.empty 2, false⟩ calls).2 ∧
      ended.2.map (·.err) = [0, 1, -enospc, 0, 0, 1, 1, 0] := by
  intro anchor calls ended
  have refined := @pcan_fifo_refines_bounded_queue Unit 2 1 16
    (by decide) (by decide) anchor (fun _ => 0) calls
  exact ⟨by decide, refined.2.1, by decide +kernel⟩

end PcanDriver.Fifo

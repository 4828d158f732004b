import PcanDriver.Lib.ElementMemory
import PcanDriver.Types

/-!
The ring buffers of `pcan_fifo.c`: a `FIFO_MANAGER` next to the memory its
pointers point into. Every operation runs under the anchor's lock, so a call is
one step. The `FIFO_CIRCULAR` build of `pcan_fifo_put` is the one compiled.
-/
namespace PcanDriver.Fifo
open ElementMemory
variable {A X : Type} {size : Nat}

def fifoCircular : U32 := 0x00000001

structure FifoManager where
  wStepSize : Nat
  wCopySize : Nat
  flags : U32
  bufferBegin : Nat
  bufferEnd : Nat
  nCount : Nat
  nStored : Nat
  dwTotal : Nat
  r : Nat
  w : Nat
deriving Repr, DecidableEq

def pcanFifoReset (anchor : FifoManager) : FifoManager × Int :=
  ({ anchor with dwTotal := 0, nStored := 0, r := anchor.bufferBegin, w := anchor.bufferBegin }, 0)

/-- `wStepSize` is a `u16`, so the distance of two elements is cut to 16 bits. -/
def pcanFifoInit (anchor : FifoManager) (bufferBegin bufferEnd : Nat) (nCount : Int)
    (wCopySize : U16) : FifoManager × Int :=
  if bufferEnd < bufferBegin ∨ nCount ≤ 1 ∨ wCopySize.toNat = 0 then (anchor, -einval)
  else
    let anchor := { anchor with wStepSize :=
      if bufferBegin = bufferEnd then 0
      else (bufferEnd - bufferBegin) / (nCount - 1).toNat % 2 ^ 16 }
    if anchor.wStepSize < wCopySize.toNat then (anchor, -einval)
    else pcanFifoReset { anchor with
      wCopySize := wCopySize.toNat, nCount := nCount.toNat, bufferBegin := bufferBegin,
      bufferEnd := bufferEnd, flags := 0 }

/-- The pointer update shared by the readers and writers. -/
def FifoManager.forward (anchor : FifoManager) (p : Nat) : Nat :=
  if p < anchor.bufferEnd then p + anchor.wStepSize else anchor.bufferBegin

def FifoManager.backward (anchor : FifoManager) (p : Nat) : Nat :=
  if p = anchor.bufferBegin then anchor.bufferEnd else p - anchor.wStepSize

/-- The part of `pcan_fifo_put` behind the check for a full FIFO. -/
def storeElement (M : ElementMemory A size) (anchor : FifoManager) (memory : M.Carrier)
    (pvPutData : A) : FifoManager × M.Carrier × Int :=
  ({ anchor with
      nStored := anchor.nStored + 1
      dwTotal := (anchor.dwTotal + 1) % 2 ^ 32
      w := anchor.forward anchor.w },
    M.store memory anchor.w pvPutData, (anchor.nStored : Int))

def pcanFifoPut (M : ElementMemory A size) (anchor : FifoManager) (memory : M.Carrier)
    (pvPutData : A) : FifoManager × M.Carrier × Int :=
  if anchor.nCount ≤ anchor.nStored then
    if anchor.flags &&& fifoCircular = 0 then (anchor, memory, -enospc)
    else
      -- the oldest element makes room: only the reader's pointer moves
      storeElement M { anchor with r := anchor.forward anchor.r, nStored := anchor.nStored - 1 }
        memory pvPutData
  else storeElement M anchor memory pvPutData

/-- `wanted` is false when the caller passes a NULL destination. -/
def pcanFifoGet (M : ElementMemory A size) (anchor : FifoManager) (memory : M.Carrier)
    (wanted : Bool) : FifoManager × Option A × Int :=
  if 0 < anchor.nStored then
    ({ anchor with nStored := anchor.nStored - 1, r := anchor.forward anchor.r },
      if wanted then some (M.load memory anchor.r) else none, 0)
  else (anchor, none, -enodata)

def pcanFifoPeek (M : ElementMemory A size) (anchor : FifoManager) (memory : M.Carrier) :
    Option A × Int :=
  if 0 < anchor.nStored then (some (M.load memory anchor.r), 0) else (none, -enodata)

/-- The callback receives a pointer to the element, so it may also write it. -/
def foreachBackLoop (M : ElementMemory A size) (anchor : FifoManager)
    (pf : A → X → A × X × Int) : Nat → Nat → M.Carrier → X → M.Carrier × X × Int
  | 0, _, memory, arg => (memory, arg, 0)
  | left + 1, p, memory, arg =>
    let p := anchor.backward p
    let visited := pf (M.load memory p) arg
    let memory := M.store memory p visited.1
    if visited.2.2 = 0 then foreachBackLoop M anchor pf left p memory visited.2.1
    else (memory, visited.2)

def pcanFifoForeachBack (M : ElementMemory A size) (anchor : FifoManager) (memory : M.Carrier)
    (pf : A → X → A × X × Int) (arg : X) : M.Carrier × X × Int :=
  foreachBackLoop M anchor pf anchor.nStored anchor.w memory arg

inductive FifoCall (A X : Type) where
  | put (pvPutData : A)
  | get (wanted : Bool)
  | peek
  | reset
  | foreachBack (pf : A → X → A × X × Int) (arg : X)
  | setFlags (flags : U32)

/-- What the caller of a FIFO function gets back: the result, the element copied
    out to it and the argument its callback has worked on. -/
structure FifoReply (A X : Type) where
  err : Int
  data : Option A
  arg : Option X
deriving Repr, DecidableEq

def fifoStep (M : ElementMemory A size) (s : FifoManager × M.Carrier) :
    FifoCall A X → (FifoManager × M.Carrier) × FifoReply A X
  | .put x =>
    let done := pcanFifoPut M s.1 s.2 x
    ((done.1, done.2.1), ⟨done.2.2, none, none⟩)
  | .get wanted =>
    let done := pcanFifoGet M s.1 s.2 wanted
    ((done.1, s.2), ⟨done.2.2, done.2.1, none⟩)
  | .peek =>
    let done := pcanFifoPeek M s.1 s.2
    (s, ⟨done.2, done.1, none⟩)
  | .reset =>
    let done := pcanFifoReset s.1
    ((done.1, s.2), ⟨done.2, none, none⟩)
  | .foreachBack pf arg =>
    let done := pcanFifoForeachBack M s.1 s.2 pf arg
    ((s.1, done.1), ⟨done.2.2, none, some done.2.1⟩)
  | .setFlags flags => (({ s.1 with flags := flags }, s.2), ⟨0, none, none⟩)

end PcanDriver.Fifo

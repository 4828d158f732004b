import PcanDriver.UsbDecode

/-!
Reception over USB (`pcan_usb_core.c`). `pcan_usb_read_notify` submits the next URB with
the other one of two buffers and hands the bytes received to the decoder of the device,
one packet after the other.
-/
namespace PcanDriver
variable {S : Type} {n : Nat}

section Model

def epipe : Int := 32
def econnreset : Int := 104

/-- The products that `pcan_usb_alloc_resources` knows. -/
inductive UsbProduct where
  | usbfd
  | usbchip
  | usbprofd
  | usbx6
  | usbpro (highSpeed : Bool)
  | usb (ucRevision : Nat)
  | other
deriving Repr, DecidableEq

structure ReadSizes where
  readPacketSize : Nat
  readBufferSize : Nat
deriving Repr, DecidableEq

/-- What `pcan_usb_alloc_resources` sets up for reading. -/
def pcanUsbReadSizes : UsbProduct → ReadSizes
  | .usbfd | .usbchip | .usbprofd | .usbx6 => ⟨4096, 4096⟩
  | .usbpro highSpeed => ⟨if highSpeed then 1024 else 64, 2048⟩
  | .usb ucRevision => ⟨64, if ucRevision ≥ 7 then 1024 else 64⟩
  | .other => ⟨64, 64⟩

structure DecodeCall where
  addr : Nat
  len : Nat
  err : Int
deriving Repr, DecidableEq

/-- The loop over the packets of a URB of `bufferLen` bytes, with the packet at `offset`
    to decode next, which is at `addr`. -/
def readLoop (deviceMsgDecode : S → Nat → Nat → S × Int) (packetSize bufferLen : Nat) :
    Nat → Nat → Nat → S → S × List DecodeCall
  | 0, _, _, usbIf => (usbIf, [])
  | fuel + 1, offset, addr, usbIf =>
    if offset < bufferLen then
      let l := if packetSize > bufferLen then bufferLen else packetSize
      let done := deviceMsgDecode usbIf addr l
      if done.2 < 0 then (done.1, [⟨addr, l, done.2⟩])
      else
        let rest := readLoop deviceMsgDecode packetSize bufferLen fuel (offset + packetSize)
          (addr + packetSize) done.1
        (rest.1, ⟨addr, l, done.2⟩ :: rest.2)
    else (usbIf, [])

/-- Addresses count from the first of the two buffers; `second` tells the buffer that
    the URB has been received into. -/
structure ReadUrb where
  status : Int
  second : Bool
  actualLength : Nat
deriving Repr, DecidableEq

structure UsbReader (S : Type) where
  usbIf : S
  sizes : ReadSizes
  rActiveUrbs : Int

def ReadUrb.transferBuffer (urb : ReadUrb) (sizes : ReadSizes) : Nat :=
  if urb.second then sizes.readBufferSize else 0

/-- `submit` is the answer of the USB core to the next URB, which takes the other
    buffer. No buffer is in use when reading has ended. -/
def pcanUsbReadNotify (deviceMsgDecode : S → Nat → Nat → S × Int) (unplug : S → S)
    (reader : UsbReader S) (urb : ReadUrb) (submit : Int) :
    UsbReader S × Option Bool × List DecodeCall :=
  let reader := { reader with rActiveUrbs := reader.rActiveUrbs - 1 }
  if urb.status = 0 then
    let done := readLoop deviceMsgDecode reader.sizes.readPacketSize urb.actualLength
      urb.actualLength 0 (urb.transferBuffer reader.sizes) reader.usbIf
    ({ reader with
        usbIf := done.1
        rActiveUrbs := if submit = 0 then reader.rActiveUrbs + 1 else reader.rActiveUrbs },
      if submit = 0 then some (!urb.second) else none, done.2)
  else if urb.status = -econnreset ∨ urb.status = -enoent ∨ urb.status = -epipe then
    (reader, none, [])
  else ({ reader with usbIf := unplug reader.usbIf }, none, [])

def UsbInterface.unplug (usbIf : UsbInterface n) : UsbInterface n :=
  { usbIf with devs := fun d =>
      { usbIf.devs d with dev := { (usbIf.devs d).dev with isPlugged := false } } }

end Model

section Slices

def Tiles : Nat → List DecodeCall → Nat → Prop
  | start, [], stop => start = stop
  | start, call :: rest, stop => call.addr = start ∧ 0 < call.len ∧ Tiles (start + call.len) rest stop

/-- Whole packets, of which only the last may be shorter, tile the bytes received. -/
structure SlicesCover (packetSize : Nat) (addr len : Nat) (calls : List DecodeCall) : Prop where
  tiles : Tiles addr calls (addr + len)
  whole : ∀ call ∈ calls.dropLast, call.len = packetSize

variable {deviceMsgDecode : S → Nat → Nat → S × Int} {packetSize bufferLen : Nat}

theorem readLoop_stop {offset : Nat} (fuel addr : Nat) (usbIf : S) (reached : bufferLen ≤ offset) :
    readLoop deviceMsgDecode packetSize bufferLen fuel offset addr usbIf = (usbIf, []) := by
  cases fuel with
  | zero => rfl
  | succ fuel => rw [readLoop, if_neg (by omega)]

theorem readLoop_pass {offset : Nat} (fuel addr : Nat) (usbIf : S) (more : offset < bufferLen)
    (works : ∀ call ∈ (readLoop deviceMsgDecode packetSize bufferLen (fuel + 1) offset addr usbIf).2,
      0 ≤ call.err) :
    ∃ usbIf' err,
      (readLoop deviceMsgDecode packetSize bufferLen (fuel + 1) offset addr usbIf).2 =
        ⟨addr, min packetSize bufferLen, err⟩ ::
          (readLoop deviceMsgDecode packetSize bufferLen fuel (offset + packetSize)
            (addr + packetSize) usbIf').2 := by
  have length : (if packetSize > bufferLen then bufferLen else packetSize) =
      min packetSize bufferLen := by
    split <;> omega
  simp only [readLoop, if_pos more, length] at works ⊢
  by_cases fails : (deviceMsgDecode usbIf addr (min packetSize bufferLen)).2 < 0
  · rw [if_pos fails] at works
    have := works _ List.mem_cons_self
    simp only at this
    omega
  · rw [if_neg fails]
    exact ⟨_, _, rfl⟩

theorem readLoop_len (fuel offset addr : Nat) (usbIf : S)
    (works : ∀ call ∈ (readLoop deviceMsgDecode packetSize bufferLen fuel offset addr usbIf).2,
      0 ≤ call.err) :
    ∀ call ∈ (readLoop deviceMsgDecode packetSize bufferLen fuel offset addr usbIf).2,
      call.len = min packetSize bufferLen := by
  induction fuel generalizing offset addr usbIf with
  | zero =>
    intro call member
    cases member
  | succ fuel ih =>
    intro call member
    by_cases more : offset < bufferLen
    · obtain ⟨usbIf', err, pass⟩ := readLoop_pass fuel addr usbIf more works
      rw [pass] at works member
      rcases List.mem_cons.mp member with rfl | later
      · rfl
      · exact ih _ _ _ (fun c inside => works c (List.mem_cons_of_mem _ inside)) call later
    · rw [readLoop_stop _ _ _ (by omega)] at member
      cases member

theorem readLoop_tiles_iff (positive : 0 < packetSize) (large : packetSize ≤ bufferLen)
    (fuel offset addr : Nat) (usbIf : S) (enough : bufferLen ≤ offset + fuel)
    (inside : offset ≤ bufferLen)
    (works : ∀ call ∈ (readLoop deviceMsgDecode packetSize bufferLen fuel offset addr usbIf).2,
      0 ≤ call.err) :
    Tiles addr (readLoop deviceMsgDecode packetSize bufferLen fuel offset addr usbIf).2
        (addr + (bufferLen - offset)) ↔ packetSize ∣ bufferLen - offset := by
  induction fuel generalizing offset addr usbIf with
  | zero =>
    obtain rfl : offset = bufferLen := by omega
    simp [readLoop, Tiles]
  | succ fuel ih =>
    by_cases more : offset < bufferLen
    · obtain ⟨usbIf', err, pass⟩ := readLoop_pass fuel addr usbIf more works
      rw [pass] at works ⊢
      have later := fun c inside => works c (List.mem_cons_of_mem _ inside)
      simp only [Tiles, Nat.min_eq_left large, true_and, positive]
      by_cases fits : packetSize ≤ bufferLen - offset
      · have split : bufferLen - offset = packetSize + (bufferLen - (offset + packetSize)) := by
          omega
        rw [split, ← Nat.add_assoc, ih _ _ _ (by omega) (by omega) later]
        exact (Nat.dvd_add_right (Nat.dvd_refl packetSize)).symm
      · rw [readLoop_stop _ _ _ (by omega)]
        constructor
        · intro stop
          simp only [Tiles] at stop
          omega
        · intro divides
          exact absurd (Nat.le_of_dvd (by omega) divides) fits
    · obtain rfl : offset = bufferLen := by omega
      rw [readLoop_stop _ _ _ (Nat.le_refl _)]
      simp [Tiles]

/-- The slices cover what has been received if it is one packet at most, or a whole
    number of packets. -/
theorem read_slices_cover_iff {unplug : S → S} {reader : UsbReader S} {urb : ReadUrb}
    {submit : Int} (positive : 0 < reader.sizes.readPacketSize) (received : urb.status = 0)
    (works : ∀ call ∈ (pcanUsbReadNotify deviceMsgDecode unplug reader urb submit).2.2,
      0 ≤ call.err) :
    SlicesCover reader.sizes.readPacketSize (urb.transferBuffer reader.sizes) urb.actualLength
        (pcanUsbReadNotify deviceMsgDecode unplug reader urb submit).2.2 ↔
      urb.actualLength < reader.sizes.readPacketSize ∨
        reader.sizes.readPacketSize ∣ urb.actualLength := by
  have calls : (pcanUsbReadNotify deviceMsgDecode unplug reader urb submit).2.2 =
      (readLoop deviceMsgDecode reader.sizes.readPacketSize urb.actualLength urb.actualLength 0
        (urb.transferBuffer reader.sizes) reader.usbIf).2 := by
    unfold pcanUsbReadNotify
    simp only [if_pos received]
  rw [calls] at works ⊢
  generalize urb.actualLength = len at works ⊢
  generalize urb.transferBuffer reader.sizes = addr at works ⊢
  have lengths := readLoop_len len 0 addr reader.usbIf works
  by_cases large : reader.sizes.readPacketSize ≤ len
  · have tiles := readLoop_tiles_iff positive large len 0 addr reader.usbIf (by omega) (by omega)
      works
    simp only [Nat.sub_zero] at tiles
    constructor
    · intro cover
      exact .inr (tiles.mp cover.tiles)
    · rintro (small | divides)
      · omega
      · refine ⟨tiles.mpr divides, fun call member => ?_⟩
        rw [lengths call (List.dropLast_subset _ member)]
        omega
  · refine ⟨fun _ => .inl (by omega), fun _ => ?_⟩
    cases len with
    | zero =>
      exact ⟨rfl, fun call member => by cases member⟩
    | succ len =>
      obtain ⟨usbIf', err, pass⟩ := readLoop_pass len addr reader.usbIf (Nat.succ_pos len) works
      rw [pass, readLoop_stop len _ usbIf' (by omega), Nat.min_eq_right (by omega)]
      exact ⟨⟨rfl, Nat.succ_pos len, rfl⟩, fun call member => by cases member⟩

theorem read_slices_cover_two :
    let reader : UsbReader Unit := ⟨(), pcanUsbReadSizes (.usb 28), 1⟩
    let done := pcanUsbReadNotify (fun _ _ _ => ((), 0)) id reader ⟨0, true, 128⟩ 0
    done.2.2 = [⟨1024, 64, 0⟩, ⟨1088, 64, 0⟩] ∧ SlicesCover 64 1024 128 done.2.2 :=
  ⟨by decide, (@read_slices_cover_iff Unit (fun _ _ _ => ((), 0)) id
    ⟨(), pcanUsbReadSizes (.usb 28), 1⟩ ⟨0, true, 128⟩ 0 (by decide) rfl (by decide)).mpr
    (.inr (by decide))⟩

/-- With 100 bytes received, 28 bytes of an earlier transfer are decoded too. -/
theorem read_slices_reach_stale_bytes :
    let reader : UsbReader Unit := ⟨(), pcanUsbReadSizes (.usb 28), 1⟩
    let done := pcanUsbReadNotify (fun _ _ _ => ((), 0)) id reader ⟨0, false, 100⟩ 0
    done.2.2 = [⟨0, 64, 0⟩, ⟨64, 64, 0⟩] ∧ ¬SlicesCover 64 0 100 done.2.2 := by
  intro reader done
  have calls : done.2.2 = [⟨0, 64, 0⟩, ⟨64, 64, 0⟩] := by decide
  refine ⟨calls, fun cover => ?_⟩
  have tiles := cover.tiles
  rw [calls] at tiles
  simp [Tiles] at tiles

theorem single_packet_covered {product : UsbProduct} {len : Nat}
    (single : (pcanUsbReadSizes product).readBufferSize = (pcanUsbReadSizes product).readPacketSize)
    (received : len ≤ (pcanUsbReadSizes product).readBufferSize) :
    len < (pcanUsbReadSizes product).readPacketSize ∨
      (pcanUsbReadSizes product).readPacketSize ∣ len := by
  rw [single] at received
  rcases Nat.lt_or_eq_of_le received with less | whole
  · exact .inl less
  · exact .inr (whole ▸ Nat.dvd_refl _)

end Slices

end PcanDriver

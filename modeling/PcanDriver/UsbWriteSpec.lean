import PcanDriver.TxEncodeSpec
import PcanDriver.TxSide
import PcanDriver.UsbWrite

/-!
What `pcan_usb_write` does to the transmit FIFO: frames leave it in order, packet
after packet, and the length given to the USB core covers every packet with
frames in it and stays inside of the write buffer.
-/
namespace PcanDriver

/-- Packet `k` of a write buffer starts at `k * packetSize`. -/
def Covered (packetSize : Nat) (packets : List Encoded) (length : Nat) : Prop :=
  ∀ k e, packets[k]? = some e → e.packed ≠ [] → k * packetSize + e.bytes.length ≤ length

/-- A packet that an encoder may have written, with its frames in it. -/
structure PacketOf (family : UsbFamily) (packetSize : Nat) (e : Encoded) : Prop where
  packed : e.packed = e.taken.filter (!Skipped family ·)
  inside : e.bytes.length ≤ packetSize
  layout : ∃ context head tail,
    e.bytes = head ++ e.packed.flatMap (txRecord family context) ++ tail

theorem EncodeSpec.packet {family : UsbFamily} {context : TxContext} {fifo : List PcanfdTxmsg}
    {packetSize : Nat} {e : Encoded} (spec : EncodeSpec family context fifo packetSize e) :
    PacketOf family packetSize e where
  packed := spec.packed
  inside := spec.inside
  layout := ⟨context, spec.layout⟩

structure WriteSpec (family : UsbFamily) (packetSize bufferSize : Nat)
    (fifo : List PcanfdTxmsg) (w : WriteLoop) : Prop where
  account : w.packets.flatMap (·.taken) ++ w.rest = fifo
  packets : ∀ e ∈ w.packets, PacketOf family packetSize e
  bounded : w.length ≤ bufferSize
  covered : Covered packetSize w.packets w.length
  nothing : w.length = 0 → w.rest = [] ∧ ∀ e ∈ w.packets, e.packed = []
  something : 0 < w.length → ∃ e ∈ w.packets, e.packed ≠ []

/-- The loop before its next packet: all packets so far are full. -/
structure Filling (family : UsbFamily) (packetSize bufferSize : Nat)
    (fifo : List PcanfdTxmsg) (w : WriteLoop) : Prop where
  account : w.packets.flatMap (·.taken) ++ w.rest = fifo
  packets : ∀ e ∈ w.packets, PacketOf family packetSize e ∧ e.packed ≠ []
  length : w.length = w.packets.length * packetSize

section Loop
variable {family : UsbFamily} {packetSize bufferSize : Nat} {fifo : List PcanfdTxmsg}
  {w : WriteLoop}

theorem Filling.sendable (filling : Filling family packetSize bufferSize fifo w)
    (sendable : ∀ tx ∈ fifo, Sendable family tx) : ∀ tx ∈ w.rest, Sendable family tx := by
  intro tx mem
  apply sendable
  rw [← filling.account]
  exact List.mem_append_right _ mem

theorem Filling.covered (filling : Filling family packetSize bufferSize fifo w) :
    Covered packetSize w.packets w.length := by
  intro k e found _
  obtain ⟨below, rfl⟩ := List.getElem?_eq_some_iff.1 found
  have inside := (filling.packets _ (List.getElem_mem below)).1.inside
  have later : (k + 1) * packetSize ≤ w.packets.length * packetSize :=
    Nat.mul_le_mul_right _ below
  rw [filling.length]
  rw [Nat.add_mul, Nat.one_mul] at later
  omega

theorem Filling.full (filling : Filling family packetSize bufferSize fifo w)
    (positive : 0 < bufferSize) (full : w.length = bufferSize) :
    WriteSpec family packetSize bufferSize fifo w where
  account := filling.account
  packets e mem := (filling.packets e mem).1
  bounded := Nat.le_of_eq full
  covered := filling.covered
  nothing empty := by omega
  something some_length := by
    rw [filling.length] at some_length
    have nonempty : w.packets ≠ [] := by
      rintro empty
      simp [empty] at some_length
    obtain ⟨e, packets, shape⟩ := List.exists_cons_of_ne_nil nonempty
    have first : e ∈ w.packets := by simp [shape]
    exact ⟨e, first, (filling.packets e first).2⟩

theorem Filling.next (filling : Filling family packetSize bufferSize fifo w) {e : Encoded}
    (spec : EncodeSpec family w.context w.rest packetSize e) (more : 0 ≤ e.err) :
    Filling family packetSize bufferSize fifo
      ⟨e.context, e.rest, w.packets ++ [e], w.length + packetSize, e.err⟩ where
  account := by
    simp only [List.flatMap_append, List.flatMap_singleton, List.append_assoc, spec.account]
    exact filling.account
  packets e' mem := by
    have not_drained : e.err ≠ -enodata := by
      intro drained
      rw [drained] at more
      exact absurd more (by decide)
    rcases List.mem_append.1 mem with before | last
    · exact filling.packets e' before
    · rw [List.mem_singleton.1 last]
      exact ⟨spec.packet, spec.filled not_drained⟩
  length := by
    simp only [filling.length, List.length_append, List.length_singleton, Nat.add_mul, Nat.one_mul]

theorem Filling.covered_last (filling : Filling family packetSize bufferSize fifo w)
    {e : Encoded} (spec : EncodeSpec family w.context w.rest packetSize e) :
    Covered packetSize (w.packets ++ [e]) (w.length + e.size) := by
  intro k e' found nonempty
  by_cases before : k < w.packets.length
  · rw [List.getElem?_append_left before] at found
    exact Nat.le_add_right_of_le (filling.covered k e' found nonempty)
  · rw [List.getElem?_append_right (by omega), List.getElem?_singleton] at found
    have at_end : k = w.packets.length := by
      by_contra other
      rw [if_neg (by omega)] at found
      cases found
    rw [if_pos (by omega)] at found
    cases found
    rw [at_end, ← filling.length]
    exact Nat.add_le_add_left (spec.covers nonempty).1 _

theorem Filling.packets_of_length (filling : Filling family packetSize bufferSize fifo w)
    (positive : 0 < packetSize) (empty : w.length = 0) : w.packets = [] := by
  rw [filling.length] at empty
  rcases Nat.mul_eq_zero.1 empty with none_yet | zero
  · exact List.eq_nil_of_length_eq_zero none_yet
  · omega

theorem Filling.last (filling : Filling family packetSize bufferSize fifo w) {e : Encoded}
    (spec : EncodeSpec family w.context w.rest packetSize e) (positive : 0 < packetSize)
    (room : w.length + packetSize ≤ bufferSize) (err : Int) :
    WriteSpec family packetSize bufferSize fifo
      ⟨e.context, e.rest, w.packets ++ [e], w.length + e.size, err⟩ where
  account := by
    simp only [List.flatMap_append, List.flatMap_singleton, List.append_assoc, spec.account]
    exact filling.account
  packets e' mem := by
    rcases List.mem_append.1 mem with before | last
    · exact (filling.packets e' before).1
    · rw [List.mem_singleton.1 last]
      exact spec.packet
  bounded := by
    have := spec.size_le
    dsimp only
    omega
  covered := filling.covered_last spec
  nothing empty := by
    obtain ⟨no_length, no_size⟩ := Nat.add_eq_zero_iff.1 empty
    have none_packed : e.packed = [] := by
      by_contra nonempty
      have := (spec.covers nonempty).2
      omega
    have drained : e.err = -enodata := by
      by_contra other
      exact spec.filled other none_packed
    refine ⟨spec.drained drained, ?_⟩
    rw [filling.packets_of_length positive no_length]
    intro e' mem
    rw [List.nil_append, List.mem_singleton] at mem
    rw [mem]
    exact none_packed
  something some_length := by
    by_cases nonempty : e.packed = []
    · rw [spec.empty nonempty, Nat.add_zero, filling.length] at some_length
      have before : w.packets ≠ [] := by
        rintro empty
        simp [empty] at some_length
      obtain ⟨first, packets, shape⟩ := List.exists_cons_of_ne_nil before
      have mem : first ∈ w.packets := by simp [shape]
      exact ⟨first, List.mem_append_left _ mem, (filling.packets first mem).2⟩
    · exact ⟨e, by simp, nonempty⟩

/-- A buffer holds a whole number of packets, so one more fits until it is full. -/
theorem packet_room {length count : Nat} (multiple : bufferSize % packetSize = 0)
    (whole : length = count * packetSize) (below : length < bufferSize) :
    length + packetSize ≤ bufferSize := by
  obtain ⟨total, rfl⟩ := Nat.dvd_of_mod_eq_zero multiple
  rw [whole, Nat.mul_comm packetSize] at below
  have fewer : count < total := Nat.lt_of_mul_lt_mul_right below
  calc length + packetSize = (count + 1) * packetSize := by rw [whole, Nat.add_mul, Nat.one_mul]
    _ ≤ total * packetSize := Nat.mul_le_mul_right _ fewer
    _ = packetSize * total := Nat.mul_comm _ _

theorem writeLoop_spec (sendable : ∀ tx ∈ fifo, Sendable family tx)
    (size : PacketSize family packetSize) (multiple : bufferSize % packetSize = 0)
    (positive : 0 < bufferSize) {fuel : Nat} (enough : bufferSize ≤ w.length + fuel)
    (filling : Filling family packetSize bufferSize fifo w) (bounded : w.length ≤ bufferSize) :
    WriteSpec family packetSize bufferSize fifo
      (writeLoop family packetSize bufferSize fuel w) := by
  have packet_pos : 0 < packetSize := by
    have := size.1
    cases family <;> simp only [minPacketSize] at this <;> omega
  induction fuel generalizing w with
  | zero => exact filling.full positive (by omega)
  | succ fuel ih =>
    unfold writeLoop
    by_cases below : w.length < bufferSize
    · have room := packet_room multiple filling.length below
      have spec := deviceCtrlMsgEncode_spec w.context (filling.sendable sendable) size
      rw [if_pos below]
      dsimp only
      by_cases more : 0 ≤ (deviceCtrlMsgEncode family w.context w.rest packetSize).err
      · rw [if_pos more]
        exact ih (by dsimp only; omega) (filling.next spec more) room
      · rw [if_neg more]
        rcases spec.result with nonneg | no_space | drained
        · exact absurd nonneg more
        · rw [if_pos no_space]
          exact filling.last spec packet_pos room 0
        · rw [if_neg (by rw [drained]; decide), if_pos drained]
          exact filling.last spec packet_pos room _
    · rw [if_neg below]
      exact filling.full positive (by omega)

end Loop

/-- A plugged interface with the sizes it was probed with, whose FIFO holds frames
    that `pcanfd_send_msg` accepts. Only uCAN channels can be opened for CAN FD. -/
structure UsbReady (family : UsbFamily) (t : TransmitSide UsbPort) : Prop where
  plugged : t.isPlugged = true
  sizes : (t.port.writePacketSize, t.port.writeBufferSize) ∈ usbWriteSizes family
  sendable : ∀ tx ∈ t.writeFifo.items, Sendable family tx
  classic : family ≠ .ucan → t.initSettings.flags &&& pcanfdInitFd = 0

theorem usbWriteSizes_ok : ∀ family, ∀ sizes ∈ usbWriteSizes family,
    PacketSize family sizes.1 ∧ sizes.2 % sizes.1 = 0 ∧ 0 < sizes.2 := by
  intro family
  cases family <;> decide

section Write
variable {family : UsbFamily} {dev : UsbDev}

theorem fillWriteBuffer_spec (ready : UsbReady family dev.transmit) :
    WriteSpec family dev.port.writePacketSize dev.port.writeBufferSize dev.writeFifo.items
      (fillWriteBuffer family dev) := by
  obtain ⟨size, multiple, positive⟩ := usbWriteSizes_ok family _ ready.sizes
  apply writeLoop_spec ready.sendable size multiple positive
  · exact Nat.le_add_left _ _
  · exact ⟨rfl, fun e mem => absurd mem List.not_mem_nil, (Nat.zero_mul _).symm⟩
  · exact Nat.zero_le _

theorem encodedDev_items {w : WriteLoop}
    (account : w.packets.flatMap (·.taken) ++ w.rest = dev.writeFifo.items) :
    (encodedDev dev w).writeFifo.items = w.rest := by
  exact BoundedQueue.keepLast_items account

theorem pcanUsbWrite_submitted (host : Host) (plugged : dev.isPlugged = true)
    (some_length : 0 < (fillWriteBuffer family dev).length) :
    (pcanUsbWrite family 0 host dev).1.transmit =
      { (encodedDev dev (fillWriteBuffer family dev)).transmit with
        engine := .started
        port := { (encodedDev dev (fillWriteBuffer family dev)).port with
          urbPending := true
          submitted := dev.port.submitted ++
            [⟨(fillWriteBuffer family dev).packets, (fillWriteBuffer family dev).length⟩] } } := by
  unfold pcanUsbWrite
  simp only [plugged, Bool.not_true, Bool.false_eq_true, if_false, if_pos some_length, if_true,
    pcanClearStatusBit_transmit]
  rfl

theorem pcanUsbWrite_nothing (submit : Int) (host : Host) (plugged : dev.isPlugged = true)
    (no_length : (fillWriteBuffer family dev).length = 0) :
    (pcanUsbWrite family submit host dev).1.transmit =
      { (encodedDev dev (fillWriteBuffer family dev)).transmit with engine := .stopped } := by
  unfold pcanUsbWrite
  simp only [plugged, Bool.not_true, Bool.false_eq_true, if_false, no_length,
    Nat.lt_irrefl]
  rfl

theorem pcanUsbWriteNotify_transmit (submit : Int) (host : Host) (stack : PcanfdRxmsg)
    (dev : UsbDev) :
    (pcanUsbWriteNotify family submit host stack 0 dev).transmit =
      (pcanUsbWrite family submit host (releaseUrb dev)).1.transmit := by
  unfold pcanUsbWriteNotify
  simp only [if_true]
  split
  next => rfl
  next =>
    split
    next => exact postErrorCtrl_transmit host _ stack .txOverflow
    next => rfl

end Write

end PcanDriver

import PcanDriver.UsbReadNotify
import PcanDriver.UsbproBounds

/-!
The messages of a USB-Pro device as a stream of bytes: URBs bring it in pieces into two
read buffers in turn, and `pcan_usb_read_notify` has each piece decoded packet by
packet. A message that does not end inside of a packet is continued by the next call
of `pcan_usbpro_msg_decode`, which looks for its record counter in front of the packet.
-/
namespace PcanDriver
open StepSystem
variable {n : Nat}

section Stream

/-- A record of a type that `pcan_usbpro_sizeof_rec` knows. -/
structure UsbproRec where
  bytes : List U8
  known : pcanUsbproSizeofRec (bytes.headD 0) = some bytes.length

def recsSize (recs : List UsbproRec) : Nat := (recs.flatMap (·.bytes)).length

/-- A message. From the first record of an unsupported type on its bytes are only known
    to belong to it. -/
structure UsbproMsg where
  recCounter : U16
  unused : U16
  recs : List UsbproRec
  unsupported : List U8
  counted : recs.length ≤ recCounter.toNat
  complete : unsupported = [] ↔ recCounter.toNat = recs.length
  unknown : unsupported ≠ [] → pcanUsbproSizeofRec (unsupported.headD 0) = none

def UsbproMsg.bytes (m : UsbproMsg) : List U8 :=
  le16 m.recCounter ++ le16 m.unused ++ (m.recs.flatMap (·.bytes) ++ m.unsupported)

def messageStarts : Nat → List UsbproMsg → List Nat
  | _, [] => []
  | position, m :: rest => position :: messageStarts (position + m.bytes.length) rest

def streamRecs (stream : List UsbproMsg) : List (List U8) :=
  stream.flatMap fun m => m.recs.map (·.bytes)

end Stream

section Reception

/-- What a URB has received. The other buffer has been given to the next URB before this
    one is decoded, so nothing is known about the memory around. -/
structure Delivery where
  env : Nat → Nat → DecodeEnv
  bytes : List U8
  around : Int → U8

def Delivery.memory (d : Delivery) (buffer : Nat) : Int → U8 := fun a =>
  if (buffer : Int) ≤ a ∧ a < buffer + d.bytes.length then d.bytes.getD (a - buffer).toNat 0
  else d.around a

/-- A call of `pcan_usbpro_msg_decode`; `mem` counts from the start of the packet. -/
structure Packet (n : Nat) where
  env : Nat → DecodeEnv
  before : UsbInterface n
  mem : Int → U8
  addr : Nat
  len : Nat

def Packet.decoded (p : Packet n) : UsbproDecoded n :=
  pcanUsbproMsgDecode p.env p.before p.mem p.len

def Packet.failed (p : Packet n) : Bool :=
  match p.decoded.err with
  | some err => decide (err < 0)
  | none => true

/-- The record that a handler has been called for, by the size of its type. -/
def handledRec (input : DecodeEnv × (Nat → U8)) : List U8 :=
  (List.range ((pcanUsbproSizeofRec (input.2 0)).getD 0)).map input.2

def Packet.handled (p : Packet n) : List (List U8) := p.decoded.handled.map handledRec

/-- The interface with the memory that its packets are in, and the packets so far. -/
structure UsbproReader (n : Nat) where
  usbIf : UsbInterface n
  mem : Int → U8
  packets : List (Packet n)

def UsbproReader.packet (r : UsbproReader n) (env : Nat → Nat → DecodeEnv) (addr len : Nat) :
    Packet n :=
  ⟨env r.packets.length, r.usbIf, fun a => r.mem (addr + a), addr, len⟩

/-- `device_msg_decode` of a USB-Pro interface. Behind a fault no more packets are
    looked at. -/
def usbproDeviceMsgDecode (env : Nat → Nat → DecodeEnv) (r : UsbproReader n) (addr len : Nat) :
    UsbproReader n × Int :=
  let packet := r.packet env addr len
  (⟨packet.decoded.usbIf, fun a => packet.decoded.mem (a - addr), r.packets ++ [packet]⟩,
    packet.decoded.err.getD (-1))

structure UrbDone (n : Nat) where
  position : Nat
  buffer : Nat
  packets : List (Packet n)

def usbproUrb (sizes : ReadSizes) (usbIf : UsbInterface n) (second : Bool) (d : Delivery) :
    UsbproReader n :=
  let urb : ReadUrb := ⟨0, second, d.bytes.length⟩
  (pcanUsbReadNotify (usbproDeviceMsgDecode d.env)
    (fun r => { r with usbIf := r.usbIf.unplug })
    ⟨⟨usbIf, d.memory (urb.transferBuffer sizes), []⟩, sizes, 1⟩ urb 0).1.usbIf

/-- URBs are received into the two buffers in turn; `position` bytes of the stream have
    been received before. -/
def usbproReceive (sizes : ReadSizes) : Nat → Bool → UsbInterface n → List Delivery →
    List (UrbDone n)
  | _, _, _, [] => []
  | position, second, usbIf, d :: rest =>
    let done := usbproUrb sizes usbIf second d
    ⟨position, ReadUrb.transferBuffer ⟨0, second, d.bytes.length⟩ sizes, done.packets⟩ ::
      usbproReceive sizes (position + d.bytes.length) (!second) done.usbIf rest

def handledRecs (urbs : List (UrbDone n)) : List (List U8) :=
  urbs.flatMap fun urb => urb.packets.flatMap Packet.handled

/-- The records of the stream are handled in their order, each at most once, and all of
    them when no packet fails. A packet that begins with a header is decoded from there. -/
structure Transparent (position : Nat) (stream : List UsbproMsg) (urbs : List (UrbDone n)) :
    Prop where
  ordered : (handledRecs urbs).Sublist (streamRecs stream)
  complete : (∀ urb ∈ urbs, ∀ p ∈ urb.packets, p.failed = false) →
    handledRecs urbs = streamRecs stream
  header : ∀ urb ∈ urbs, ∀ p ∈ urb.packets,
    urb.position + (p.addr - urb.buffer) ∈ messageStarts position stream →
      p.before.fragRecOffset = 0

end Reception

section Condition

/-- The channel that a record is for exists. -/
def UsbproRec.Addressed (n : Nat) (r : UsbproRec) : Prop :=
  ∀ ctrlIndex, usbproCtrlIndex (fun k => r.bytes.getD k 0) = some ctrlIndex → ctrlIndex < n + 1

/-- Handled one after the other from the state before the packet, none of its records is
    refused. -/
def Packet.Accepted (p : Packet n) : Prop :=
  ∀ t ∈ transitions usbproHandleRec p.before.resetWakeups
    (usbproMsgRecs p.env p.before.fragRecOffset p.mem p.len), t.output.stops = false

instance (p : Packet n) : Decidable p.Accepted :=
  inferInstanceAs (Decidable (∀ t ∈ transitions usbproHandleRec p.before.resetWakeups
    (usbproMsgRecs p.env p.before.fragRecOffset p.mem p.len), t.output.stops = false))

/-- Of messages that follow each other from the start of a packet on, each starts with a
    packet, and so does an unsupported record. -/
def Aligned (packetSize : Nat) : List UsbproMsg → Prop
  | [] => True
  | m :: rest => (m.unsupported ≠ [] → packetSize ∣ 4 + recsSize m.recs) ∧
      (rest ≠ [] → packetSize ∣ m.bytes.length) ∧ Aligned packetSize rest

/-- No message is cut by the end of a URB. -/
inductive WholeMessages (packetSize : Nat) : List UsbproMsg → List Delivery → Prop
  | nil : WholeMessages packetSize [] []
  | cons {msgs rest : List UsbproMsg} {d : Delivery} {urbs : List Delivery}
      (bytes : d.bytes = msgs.flatMap UsbproMsg.bytes) (aligned : Aligned packetSize msgs)
      (later : WholeMessages packetSize rest urbs) :
      WholeMessages packetSize (msgs ++ rest) (d :: urbs)

end Condition

end PcanDriver

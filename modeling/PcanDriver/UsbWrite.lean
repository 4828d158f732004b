import PcanDriver.TxEncode
import PcanDriver.TxPath

/-!
Transmission over USB (`pcan_usb_core.c`): `pcan_usb_write` fills the write buffer
packet by packet and submits it as one URB, whose completion writes again.
-/
namespace PcanDriver

/-- A write buffer given to the USB core: packets `write_packet_size` apart. -/
structure Submission where
  packets : List Encoded
  length : Nat

/-- The members of `USB_PORT` that transmission uses; `urbPending` while
    `write_data` is in flight, `submitted` what was given to the USB core. -/
structure UsbPort where
  writePacketSize : Nat
  writeBufferSize : Nat
  ucRevision : Nat
  dwTelegramCount : U32
  urbPending : Bool
  submitted : List Submission

/-- Write packet and buffer sizes set when the interface is probed. -/
def usbWriteSizes : UsbFamily → List (Nat × Nat)
  | .pcanUsb => [(64, 64), (64, 256)]
  | .usbPro => [(512, 512), (64, 64)]
  | .ucan => [(512, 512)]

abbrev UsbDev := Pcandev UsbPort

def UsbPort.context (dev : UsbDev) : TxContext :=
  ⟨dev.nChannel, dev.txIframeDelayUs, dev.port.ucRevision, dev.port.dwTelegramCount⟩

structure WriteLoop where
  context : TxContext
  rest : List PcanfdTxmsg
  packets : List Encoded
  length : Nat
  err : Int

/-- The packet loop of `pcan_usb_write`. The last argument counts the bytes that
    the buffer may still grow by; a packet is never empty, so it bounds the loop. -/
def writeLoop (family : UsbFamily) (packetSize bufferSize : Nat) :
    Nat → WriteLoop → WriteLoop
  | 0, w => w
  | fuel + 1, w =>
    if w.length < bufferSize then
      let e := deviceCtrlMsgEncode family w.context w.rest packetSize
      let w' : WriteLoop := ⟨e.context, e.rest, w.packets ++ [e], w.length, e.err⟩
      if 0 ≤ e.err then writeLoop family packetSize bufferSize fuel
        { w' with length := w.length + packetSize }
      else if e.err = -enospc then { w' with length := w.length + e.size, err := 0 }
      else if e.err = -enodata then { w' with length := w.length + e.size }
      else w'
    else w

def encodedDev (dev : UsbDev) (w : WriteLoop) : UsbDev :=
  { dev with
    writeFifo := dev.writeFifo.keepLast w.rest.length
    txIframeDelayUs := w.context.txIframeDelayUs
    txFramesCounter := dev.txFramesCounter +
      BitVec.ofNat 32 (w.packets.map (·.packed.length)).sum
    port := { dev.port with dwTelegramCount := w.context.dwTelegramCount } }

def fillWriteBuffer (family : UsbFamily) (dev : UsbDev) : WriteLoop :=
  writeLoop family dev.port.writePacketSize dev.port.writeBufferSize dev.port.writeBufferSize
    ⟨UsbPort.context dev, dev.writeFifo.items, [], 0, 0⟩

def startUrb (dev : UsbDev) (w : WriteLoop) : UsbDev :=
  pcanSetTxEngine { dev with port := { dev.port with
    urbPending := true
    submitted := dev.port.submitted ++ [⟨w.packets, w.length⟩] } } .started

/-- `submit` is the result of `__usb_submit_urb`, should it be called. -/
def pcanUsbWrite (family : UsbFamily) (submit : Int) (host : Host) (dev : UsbDev) :
    UsbDev × Int :=
  if !dev.isPlugged then (dev, -enodev)
  else
    let w := fillWriteBuffer family dev
    let dev := encodedDev dev w
    if 0 < w.length then
      if submit = 0 then (pcanClearStatusBit host (startUrb dev w) canErrQxmtfull, 0)
      else
        (pcanSetTxEngine { dev with dwErrorCounter := dev.dwErrorCounter + 1 } .stopped, submit)
    else (pcanSetTxEngine dev .stopped, w.err)

def releaseUrb (dev : UsbDev) : UsbDev :=
  { dev with port := { dev.port with urbPending := false } }

/-- Completion of the write URB; `stack` is the uninitialised message of the
    notice posted when writing fails. -/
def pcanUsbWriteNotify (family : UsbFamily) (submit : Int) (host : Host) (stack : PcanfdRxmsg)
    (status : Int) (dev : UsbDev) : UsbDev :=
  let dev := releaseUrb dev
  if status = 0 then
    let written := pcanUsbWrite family submit host dev
    if written.2 = 0 ∨ written.2 = -enodata then written.1
    else if written.1.wCANStatus &&& canErrQxmtfull = 0 then
      postErrorCtrl host written.1 stack .txOverflow
    else written.1
  else if status = -71 ∨ status = -104 ∨ status = -108 then { dev with isPlugged := false }
  else pcanSetTxEngine dev .stopped

end PcanDriver

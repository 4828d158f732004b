import PcanDriver.BusState
import PcanDriver.TimeSync

/-!
Status records of the three USB device families, and of PCIe boards, as their
decoders handle them: `ucan_post_status_msg`, `pcan_usbpro_handle_status_err_rx` and
the function 1 status of `pcan_usb_DecodeMessage`.
-/
namespace PcanDriver
variable {P : Type}

/-- What all decoders do with the bus bits of a record: no error bit means that
    the controller is back in the active state. -/
def handleBusBits (deviceWrite : Pcandev P → Pcandev P × Int) (dev : Pcandev P)
    (rx : PcanfdRxmsg) (busoff warning passive : Bool) : Pcandev P × PcanfdRxmsg :=
  if busoff then ((pcanHandleBusoff dev rx).1, (pcanHandleBusoff dev rx).2.1)
  else
    let handled := pcanHandleErrorStatus dev rx warning passive
    if handled.2.2 then (handled.1, handled.2.1)
    else pcanHandleErrorActive deviceWrite handled.1 handled.2.1

def PcanfdRxmsg.stamped (rx : PcanfdRxmsg) (hwtv : Option PcanTimeval) : PcanfdRxmsg :=
  match hwtv with
  | some hwtv =>
    { rx with
      msg := { rx.msg with flags := rx.msg.flags ||| (pcanfdTimestamp ||| pcanfdHwtimestamp) }
      hwtv := hwtv }
  | none => rx

def postUnlessNop (host : Host) (dev : Pcandev P) (rx : PcanfdRxmsg) : Pcandev P × Int :=
  if rx.msg.type = .nop then (dev, 0)
  else ((pcanChardevRx host dev rx).1, (pcanChardevRx host dev rx).2.2)

/-- `stack` is the uninitialised message of the function. -/
def ucanPostStatusMsg (deviceWrite : Pcandev P → Pcandev P × Int) (host : Host)
    (stack : PcanfdRxmsg) (dev : Pcandev P) (busoff warning passive : Bool)
    (ptv : Option PcanTimeval) : Pcandev P × Int :=
  let handled := handleBusBits deviceWrite dev stack busoff warning passive
  postUnlessNop host handled.1 (handled.2.stamped ptv)

def fwUsbproStatusMaskErrorS : U32 := 0x00000001
def fwUsbproStatusMaskBusS : U32 := 0x00000002
def fwUsbproStatusMaskOverrunS : U32 := 0x00000004
def fwUsbproStatusMaskQoverrunS : U32 := 0x00000008

/-- The error counters travel with the record, except when the bus is off. -/
def usbproErrorCounters (dev : Pcandev P) (rawStatus errorFrame : U32) : Pcandev P :=
  if rawStatus &&& fwUsbproStatusMaskBusS ≠ 0 then dev
  else
    { dev with
      rxErrorCounter := (errorFrame >>> 16).setWidth 8
      txErrorCounter := (errorFrame >>> 24).setWidth 8 }

def usbproPassive (errorFrame : U32) : Bool :=
  ((errorFrame >>> 16).setWidth 8 : U8) > 127 || ((errorFrame >>> 24).setWidth 8 : U8) > 127

def usbproOverruns (dev : Pcandev P) (f : PcanfdRxmsg) (rawStatus : U32) :
    Pcandev P × PcanfdRxmsg :=
  let overrun := if rawStatus &&& fwUsbproStatusMaskOverrunS ≠ 0 then
    pcanHandleErrorProtocol dev f .rxOverflow else (dev, f)
  if rawStatus &&& fwUsbproStatusMaskQoverrunS ≠ 0 then
    pcanHandleErrorCtrl overrun.1 overrun.2 .rxOverflow else overrun

/-- A failed post counts as an error of the channel. -/
def countFailure (dev : Pcandev P) (err : Int) : Pcandev P :=
  if err < 0 then { dev with dwErrorCounter := dev.dwErrorCounter + 1 } else dev

/-- The handlers of a status record and the message they leave, which is only the
    last one's. -/
def usbproStatus (deviceWrite : Pcandev P → Pcandev P × Int) (dev : Pcandev P)
    (rawStatus errorFrame : U32) : Pcandev P × PcanfdRxmsg :=
  let handled := handleBusBits deviceWrite (usbproErrorCounters dev rawStatus errorFrame)
    PcanfdRxmsg.zero (rawStatus &&& fwUsbproStatusMaskBusS ≠ 0)
    (rawStatus &&& fwUsbproStatusMaskErrorS ≠ 0) (usbproPassive errorFrame)
  usbproOverruns handled.1 handled.2 rawStatus

def pcanUsbproHandleStatusErrRx (deviceWrite : Pcandev P → Pcandev P × Int) (host : Host)
    (time : UsbTime) (dev : Pcandev P) (rawStatus errorFrame timestamp32 : U32) :
    Pcandev P × Int :=
  let handled := usbproStatus deviceWrite dev rawStatus errorFrame
  if handled.2.msg.type = .nop then (handled.1, 0)
  else
    let decoded := pcanUsbproTimestampDecode host time handled.1 timestamp32
    let posted := pcanChardevRx host decoded.1 (handled.2.stamped decoded.2)
    (countFailure posted.1 posted.2.2, posted.2.2)

def xmtBufferFull : U8 := 0x01
def canReceiveOverrun : U8 := 0x02
def busLight : U8 := 0x04
def busHeavy : U8 := 0x08
def busOff : U8 := 0x10
def queueOverrun : U8 := 0x40
def queueXmtFull : U8 := 0x80

def pcanUsbCtrlErrors (dev : Pcandev P) (rx : PcanfdRxmsg) (ucNumber : U8) :
    Pcandev P × PcanfdRxmsg :=
  let received := if ucNumber &&& canReceiveOverrun ≠ 0 ∨ ucNumber &&& queueOverrun ≠ 0 then
    pcanHandleErrorCtrl dev rx .rxOverflow else (dev, rx)
  if ucNumber &&& xmtBufferFull ≠ 0 ∨ ucNumber &&& queueXmtFull ≠ 0 then
    pcanHandleErrorCtrl received.1 received.2 .txOverflow else received

/-- Up to eight bytes behind the record are copied into the message. -/
def PcanfdRxmsg.withData (rx : PcanfdRxmsg) (bytes : List U8) : PcanfdRxmsg :=
  { rx with msg := { rx.msg with data := Vector.ofFn fun j =>
      if j.val < 8 then (bytes[j.val]?).getD rx.msg.data[j] else rx.msg.data[j] } }

/-- The function 1 branch of `pcan_usb_DecodeMessage` with the post behind the switch;
    `rx` is what the loop has prepared of the message. -/
def pcanUsbDecodeStatus (deviceWrite : Pcandev P → Pcandev P × Int) (host : Host)
    (dev : Pcandev P) (rx : PcanfdRxmsg) (ucNumber : U8) (bytes : List U8) : Pcandev P × Int :=
  let errors := pcanUsbCtrlErrors dev rx ucNumber
  let handled := handleBusBits deviceWrite errors.1 errors.2 (ucNumber &&& busOff ≠ 0)
    (ucNumber &&& busLight ≠ 0) (ucNumber &&& busHeavy ≠ 0)
  postUnlessNop host handled.1 (handled.2.withData bytes)

inductive StatusRecord where
  | ucan (stack : PcanfdRxmsg) (busoff warning passive : Bool) (ptv : Option PcanTimeval)
  | usbPro (time : UsbTime) (rawStatus errorFrame timestamp32 : U32)
  | pcanUsb (rx : PcanfdRxmsg) (ucNumber : U8) (bytes : List U8)

def decodeStatus (deviceWrite : Pcandev P → Pcandev P × Int) (host : Host) (dev : Pcandev P) :
    StatusRecord → Pcandev P × Int
  | .ucan stack busoff warning passive ptv =>
    ucanPostStatusMsg deviceWrite host stack dev busoff warning passive ptv
  | .usbPro time rawStatus errorFrame timestamp32 =>
    pcanUsbproHandleStatusErrRx deviceWrite host time dev rawStatus errorFrame timestamp32
  | .pcanUsb rx ucNumber bytes => pcanUsbDecodeStatus deviceWrite host dev rx ucNumber bytes

end PcanDriver

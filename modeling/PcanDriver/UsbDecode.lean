import PcanDriver.StatusRecords
import PcanDriver.UsbWrite

/-!
Decoding of what a USB interface receives. One stream of records carries the events
of all channels: `ucan_handle_msgs_buffer` (`pcanfd_ucan.c`) with the handlers of
`pcanfd_usb.c` for USB FD devices, and `pcan_usbpro_msg_decode` (`pcan_usbpro.c`).
-/
namespace PcanDriver
variable {P : Type} {n : Nat}

/-- A channel with what only the decoders use of it. -/
structure UsbChannel where
  dev : UsbDev
  shouldWakeup : Bool
  nLastError : Int
  dwInterruptCounter : U32

/-- `struct pcan_usb_interface` with its `n + 1` channels. -/
structure UsbInterface (n : Nat) where
  devs : Fin (n + 1) → UsbChannel
  time : UsbTime
  devFrameIndex : Int
  busFrameIndex : Int
  fragRecOffset : Nat

/-- What handling one record takes from the outside: the clock, the answer of the USB
    core to a write that it starts, uninitialised memory for its message, and the
    frame number of the bus. -/
structure DecodeEnv where
  host : Host
  submit : Int
  stack : PcanfdRxmsg
  frameNumber : Int

def u16At (msg : Nat → U8) (offset : Nat) : U16 := msg (offset + 1) ++ msg offset

def u32At (msg : Nat → U8) (offset : Nat) : U32 := u16At msg (offset + 2) ++ u16At msg offset

section Ucan

def ucanMsgCanRx : U16 := 0x0001
def ucanMsgError : U16 := 0x0002
def ucanMsgStatus : U16 := 0x0003
def ucanMsgBusload : U16 := 0x0004
def ucanUsbMsgCalibration : U16 := 0x0100
def ucanUsbMsgOverrun : U16 := 0x0101
def ucanCmdEndOfCollection : U16 := 0x03ff

def flagIf (condition : Bool) (flag : U32) : U32 := if condition then flag else 0

/-- The message of a received frame; `rm` is `struct ucan_rx_msg`. -/
def ucanRxFrame (rm : Nat → U8) : PcanfdRxmsg :=
  let msgFlags := u16At rm 22
  let dlc := rm 20 >>> 4
  let has := fun (bit : U16) => decide (msgFlags &&& bit ≠ 0)
  let fd := has ucanMsgExtDataLen
  let dataLen := if fd then pcanDlc2len dlc else min dlc.toNat 8
  { PcanfdRxmsg.zero with
    msg := { PcanfdMsg.zero with
      type := if fd then .canfdMsg else .can20Msg
      dataLen := BitVec.ofNat 16 dataLen
      id := u32At rm 24
      flags := flagIf (fd && has ucanMsgBitrateSwitch) pcanfdMsgBrs |||
        flagIf (fd && has ucanMsgErrorStateInd) pcanfdMsgEsi |||
        flagIf (has ucanMsgExtId) pcanfdMsgExt ||| flagIf (has ucanMsgRtr) pcanfdMsgRtr |||
        flagIf (has ucanMsgHwSrr && has ucanMsgApiSrr) pcanfdMsgEcho |||
        flagIf (has ucanMsgHwSrr && !has ucanMsgApiSrr) pcanfdMsgSlf |||
        flagIf (has ucanMsgSingleShot) pcanfdMsgSng
      data := Vector.ofFn fun j => if !has ucanMsgRtr && j.val < dataLen then rm (28 + j) else 0 } }

def posted (host : Host) (dev : Pcandev P) (rx : PcanfdRxmsg) : Pcandev P × Int :=
  ((pcanChardevRx host dev rx).1, (pcanChardevRx host dev rx).2.2)

def ucanPostCanrxMsg (host : Host) (dev : Pcandev P) (rm : Nat → U8) (ptv : Option PcanTimeval) :
    Pcandev P × Int :=
  let dev := pcanClearStatusBit host dev canErrQoverrun
  if dev.busState = .unknown ∨ dev.busState = .errorBusoff then (dev, 0)
  else posted host dev ((ucanRxFrame rm).stamped ptv)

def pcanHandleErrorMsg (dev : Pcandev P) (rx : PcanfdRxmsg) (errType : U32) (errCode : U8)
    (errRx errGen : Bool) : Pcandev P × PcanfdRxmsg :=
  ({ dev with dwErrorCounter := dev.dwErrorCounter + 1 },
    { rx with msg := { rx.msg with
      type := .errorMsg
      id := errType
      flags := rx.msg.flags ||| flagIf errRx pcanfdErrmsgRx ||| flagIf errGen pcanfdErrmsgGen
      dataLen := 1
      data := rx.msg.data.set 0 errCode } })

def pcanfdErrmsgOther : U32 := 3

/-- `er` is `struct ucan_error_msg`. An unknown type of error is a status. -/
def ucanPostErrorMsg (host : Host) (dev : Pcandev P) (er : Nat → U8) (ptv : Option PcanTimeval) :
    Pcandev P × Int :=
  let dev := { dev with rxErrorCounter := er 15, txErrorCounter := er 14 }
  let errType : U32 := ((er 12 >>> 4) &&& 0x07).setWidth 32
  let handled :=
    if errType > pcanfdErrmsgOther then (dev, busStateNotice dev)
    else pcanHandleErrorMsg dev .zero errType (er 13 &&& 0x7f) (er 12 &&& 0x80 ≠ 0)
      (er 13 &&& 0x80 ≠ 0)
  posted host handled.1 (handled.2.stamped ptv)

def busLoadMsg : PcanfdRxmsg :=
  { PcanfdRxmsg.zero with
    msg := { PcanfdMsg.zero with type := .status, id := PcanfdStatus.busLoad.code } }

def postBusLoad (host : Host) (dev : Pcandev P) (load : U16) (ptv : Option PcanTimeval) :
    Pcandev P × Int :=
  posted host { dev with busLoad := (10000 * load.toNat / 4096 : Nat) } (busLoadMsg.stamped ptv)

/-- `bl` is `struct ucan_bus_load_msg`. -/
def ucanPostBusLoadMsg (host : Host) (dev : Pcandev P) (bl : Nat → U8) (ptv : Option PcanTimeval) :
    Pcandev P × Int :=
  postBusLoad host dev (u16At bl 14) ptv

def overflowMsg : PcanfdRxmsg :=
  { PcanfdRxmsg.zero with
    msg := { PcanfdMsg.zero with
      type := .status, flags := pcanfdErrorCtrlr, id := PcanfdStatus.rxOverflow.code } }

/-- Posted once, until a frame is received again. -/
def ucanPostOverflowMsg (host : Host) (dev : Pcandev P) (ptv : Option PcanTimeval) :
    Pcandev P × Int :=
  let counted := { dev with dwErrorCounter := dev.dwErrorCounter + 1 }
  if dev.wCANStatus &&& canErrQoverrun ≠ 0 then (counted, 0)
  else posted host { counted with wCANStatus := counted.wCANStatus ||| canErrQoverrun }
    (overflowMsg.stamped ptv)

/-- What the handlers do with the result of their post. -/
def UsbChannel.noted (c : UsbChannel) (done : UsbDev × Int) : UsbChannel × Int :=
  ({ c with
      dev := countFailure done.1 done.2
      shouldWakeup := c.shouldWakeup || decide (done.2 > 0)
      nLastError := if done.2 < 0 then done.2 else c.nLastError }, done.2)

inductive UcanMsg where
  | canRx
  | error
  | status
  | busLoad
  | calibration
  | overrun
deriving Repr, DecidableEq

def pcanUsbfdUcanHandlers (type : U16) : Option UcanMsg :=
  if type = ucanMsgCanRx then some .canRx
  else if type = ucanMsgError then some .error
  else if type = ucanMsgStatus then some .status
  else if type = ucanMsgBusload then some .busLoad
  else if type = ucanUsbMsgCalibration then some .calibration
  else if type = ucanUsbMsgOverrun then some .overrun
  else none

def pcanUsbfdDecodeStatus (env : DecodeEnv) (dev : UsbDev) (st : Nat → U8)
    (ptv : Option PcanTimeval) : UsbDev × Int :=
  ucanPostStatusMsg (pcanUsbWrite .ucan env.submit env.host) env.host env.stack dev
    (st 12 &&& 0x80 ≠ 0) (st 12 &&& 0x40 ≠ 0) (st 12 &&& 0x20 ≠ 0) ptv

/-- A bus that is not off lets an idle engine be started by the next frame. -/
def stopIdleEngine (dev : UsbDev) : UsbDev :=
  if dev.busState ≠ .errorBusoff ∧ dev.lockedTxEngineState = .idle then
    pcanSetTxEngine dev .stopped
  else dev

/-- The handlers `pcan_usbfd_decode_xxx` of the messages that carry a channel. The
    timestamp is decoded before the message is posted, except that of a bus load. -/
def pcanUsbfdDecode (env : DecodeEnv) (time : UsbTime) (kind : UcanMsg) (msg : Nat → U8)
    (c : UsbChannel) : UsbChannel × Int :=
  let decoded := pcanUsbproTimestampDecode env.host time c.dev (u32At msg 4)
  match kind with
  | .canRx => c.noted (ucanPostCanrxMsg env.host decoded.1 msg decoded.2)
  | .error => c.noted (ucanPostErrorMsg env.host decoded.1 msg decoded.2)
  | .busLoad => c.noted (ucanPostBusLoadMsg env.host c.dev msg none)
  | .overrun => c.noted (ucanPostOverflowMsg env.host decoded.1 decoded.2)
  | .status =>
    let done := c.noted (pcanUsbfdDecodeStatus env decoded.1 msg decoded.2)
    ({ done.1 with dev := stopIdleEngine done.1.dev }, done.2)
  | .calibration => (c, 0)

end Ucan

section Calibration

def pcanUsbPrecisionMask : Nat := 0x3ff

/-- Milliseconds between the frame counters of device and bus, in µs. -/
def frameIndexOffset (devFrameIndex : U32) (busFrameIndex : Int) : Int :=
  (((devFrameIndex.toNat % (pcanUsbPrecisionMask + 1) : Nat) : Int) -
    busFrameIndex % (pcanUsbPrecisionMask + 1)) * 1000

def UsbChannel.withSync (c : UsbChannel) (sync : TimeSync) : UsbChannel :=
  { c with dev := { c.dev with timeSync := sync } }

/-- The time base of channel 0 is copied to the others when it has changed. -/
def syncChannels (env : DecodeEnv) (usbIf : UsbInterface n) (dfi : Int) :
    Fin (n + 1) → UsbChannel :=
  let next := (usbIf.devs 0).dev.timeSync.next env.host usbIf.time.tsLow usbIf.time.tsHigh dfi
  if next.2 then fun d => (usbIf.devs d).withSync next.1 else usbIf.devs

/-- The device has no high word, so it is counted here. When calibrations are ignored
    the next event starts its own time base. -/
def UsbTime.calibrated (time : UsbTime) (tsLow : U32) : UsbTime :=
  let tsLow := if time.cmIgnoreCount < 0 then 0 else tsLow
  { time with
    tsLow := tsLow
    tsHigh := if tsLow < time.tsLow then time.tsHigh + 1 else time.tsHigh }

def pcanUsbproHandleCalibration (env : DecodeEnv) (usbIf : UsbInterface n)
    (tsLow devFrameIndex : U32) : UsbInterface n × Int :=
  if env.frameNumber < 0 then (usbIf, env.frameNumber)
  else
    let usbIf := { usbIf with busFrameIndex := env.frameNumber }
    if usbIf.time.cmIgnoreCount > 0 then
      ({ usbIf with time := { usbIf.time with cmIgnoreCount := usbIf.time.cmIgnoreCount - 1 } }, 0)
    else if usbIf.devFrameIndex < 0 then
      ({ usbIf with
          devFrameIndex := devFrameIndex.toInt
          time := { usbIf.time with tsLow := 0, tsHigh := 0 } }, 0)
    else
      let dfi := frameIndexOffset devFrameIndex env.frameNumber
      let usbIf := { usbIf with
        devFrameIndex := devFrameIndex.toInt
        time := usbIf.time.calibrated tsLow }
      ({ usbIf with devs := syncChannels env usbIf dfi }, 0)

end Calibration

section UcanBuffer

def UsbInterface.withDev (usbIf : UsbInterface n) (ci : Fin (n + 1)) (c : UsbChannel) :
    UsbInterface n :=
  { usbIf with devs := Function.update usbIf.devs ci c }

/-- The channel a message is for; frames have it in their DLC byte. -/
def ucanMsgChannel (kind : UcanMsg) (msg : Nat → U8) : Nat :=
  match kind with
  | .canRx => (msg 20 &&& 0x0f).toNat
  | _ => (msg 12 &&& 0x0f).toNat

/-- Calls the handler of a message; one for a channel that the interface does not
    have is ignored. -/
def ucanDispatch (env : DecodeEnv) (usbIf : UsbInterface n) (kind : UcanMsg) (msg : Nat → U8) :
    UsbInterface n × Int :=
  if kind = .calibration then
    pcanUsbproHandleCalibration env usbIf (u32At msg 4) ((u16At msg 12).setWidth 32)
  else if h : ucanMsgChannel kind msg < n + 1 then
    let done := pcanUsbfdDecode env usbIf.time kind msg (usbIf.devs ⟨_, h⟩)
    (usbIf.withDev ⟨_, h⟩ done.1, done.2)
  else (usbIf, 0)

/-- The size of a message, or why the following ones are not handled. -/
def ucanHandleMsg (usbIf : UsbInterface n) (input : DecodeEnv × (Nat → U8)) :
    UsbInterface n × Int :=
  let msg := input.2
  let size : Int := (u16At msg 0).toNat
  let type := u16At msg 2
  if u16At msg 0 = 0 ∨ type = 0 then (usbIf, size)
  else if type = ucanCmdEndOfCollection ∨ type = 0xffff then (usbIf, 0)
  else
    match pcanUsbfdUcanHandlers type with
    | none => (usbIf, -ebadmsg)
    | some kind =>
      let done := ucanDispatch input.1 usbIf kind msg
      (done.1, if done.2 < 0 then done.2 else size)

/-- `handled` are the messages that the loop has come to. -/
structure Decoded (n : Nat) where
  usbIf : UsbInterface n
  handled : List (DecodeEnv × (Nat → U8))
  err : Int

/-- The loop of `ucan_handle_msgs_buffer` from the message at `ptr` on, which is number
    `i`. Every message handled moves it by 4 bytes at least. -/
def ucanLoop (env : Nat → DecodeEnv) (mem : Nat → U8) (msgLen : Nat) :
    Nat → Nat → Nat → UsbInterface n → Decoded n
  | 0, _, _, usbIf => ⟨usbIf, [], 0⟩
  | fuel + 1, i, ptr, usbIf =>
    if ptr < msgLen then
      let input := (env i, fun k => mem (ptr + k))
      let done := ucanHandleMsg usbIf input
      if done.2 ≤ 0 then ⟨done.1, [input], done.2⟩
      else
        let rest := ucanLoop env mem msgLen fuel (i + 1) (ptr + align4 done.2.toNat) done.1
        { rest with handled := input :: rest.handled }
    else ⟨usbIf, [], if msgLen < ptr then -ebadmsg else 0⟩

def ucanHandleMsgsBuffer (env : Nat → DecodeEnv) (usbIf : UsbInterface n) (mem : Nat → U8)
    (msgLen : Nat) : Decoded n :=
  ucanLoop env mem msgLen (msgLen + 1) 0 0 usbIf

end UcanBuffer

end PcanDriver

import PcanDriver.UsbDecode

/-!
Decoding of USB-Pro messages (`pcan_usbpro.c`). A message starts with the number of
its records; one that does not end inside of the packet is left for the next packet,
which then has a record counter written in front of it.
-/
namespace PcanDriver
variable {n : Nat}

def dataTypeCanmsgRx8 : U8 := 0x80
def dataTypeCanmsgRx4 : U8 := 0x81
def dataTypeCanmsgRx0 : U8 := 0x82
def dataTypeCanmsgRtrRx : U8 := 0x83
def dataTypeCanmsgStatusErrorRx : U8 := 0x84
def dataTypeCalibrationTimestampRx : U8 := 0x85
def dataTypeBuslastRx : U8 := 0x86

/-- Sizes by `DATA_TYPE_USB2CAN_STRUCT_xxx`; the device sends the first lines only, the
    others are commands and their responses. -/
def pcanUsbproRecSizes : List (U8 × Nat) :=
  [(dataTypeCanmsgRx8, 20), (dataTypeCanmsgRx4, 16), (dataTypeCanmsgRx0, 12),
    (dataTypeCanmsgRtrRx, 12), (dataTypeCanmsgStatusErrorRx, 12),
    (dataTypeCalibrationTimestampRx, 12), (dataTypeBuslastRx, 8),
    (0x41, 16), (0x42, 12), (0x43, 8), (0x01, 8), (0x02, 8), (0x03, 4), (0x04, 4), (0x05, 4),
    (0x06, 8), (0x12, 8), (0x07, 4), (0x08, 8), (0x09, 12), (0x0a, 4), (0x0b, 4), (0x0c, 4),
    (0x0d, 4), (0x0e, 16), (0x0f, 12), (0x10, 4), (0x11, 8), (0x13, 64), (0x14, 4), (0x15, 254),
    (0x16, 4), (0x17, 4), (0x18, 4), (0x19, 12), (0x1a, 4), (0x1b, 12), (0x1c, 8)]

/-- No size means that the type is not supported. -/
def pcanUsbproSizeofRec (dataType : U8) : Option Nat := pcanUsbproRecSizes.lookup dataType

section Records

/-- The message of `struct pcan_usbpro_canmsg_rx`. -/
def usbproRxFrame (rx : Nat → U8) : PcanfdRxmsg :=
  let dataLen := (rx 3 &&& 0x0f).toNat
  { PcanfdRxmsg.zero with
    msg := { PcanfdMsg.zero with
      type := .can20Msg
      dataLen := BitVec.ofNat 16 dataLen
      id := u32At rx 8
      flags := flagIf (rx 2 &&& 0x01 ≠ 0) pcanfdMsgRtr ||| flagIf (rx 2 &&& 0x02 ≠ 0) pcanfdMsgExt |||
        flagIf (rx 1 &&& 0x80 ≠ 0) pcanfdMsgSlf
      data := Vector.ofFn fun j => if j.val < dataLen then rx (12 + j) else 0 } }

def UsbChannel.interrupted (c : UsbChannel) : UsbChannel :=
  { c with dwInterruptCounter := c.dwInterruptCounter + 1 }

def pcanUsbproHandleCanmsgRx (env : DecodeEnv) (time : UsbTime) (rx : Nat → U8)
    (c : UsbChannel) : UsbChannel × Int :=
  let decoded := pcanUsbproTimestampDecode env.host time c.dev (u32At rx 4)
  c.interrupted.noted (posted env.host decoded.1 ((usbproRxFrame rx).stamped decoded.2))

/-- `er` is `struct pcan_usbpro_canmsg_status_error_rx`. Its failure is counted by
    `pcanUsbproHandleStatusErrRx`. -/
def handleStatusErrRx (env : DecodeEnv) (time : UsbTime) (er : Nat → U8) (c : UsbChannel) :
    UsbChannel × Int :=
  let done := pcanUsbproHandleStatusErrRx (pcanUsbWrite .usbPro env.submit env.host) env.host time
    c.dev ((u16At er 2).setWidth 32) (u32At er 8) (u32At er 4)
  ({ c.interrupted with
      dev := done.1
      shouldWakeup := c.shouldWakeup || decide (done.2 > 0)
      nLastError := if done.2 < 0 then done.2 else c.nLastError }, done.2)

/-- The result of a post about the bus load is not noted. -/
def pcanUsbproHandleBuslastRx (env : DecodeEnv) (bl : Nat → U8) (c : UsbChannel) :
    UsbChannel × Int :=
  let done := postBusLoad env.host c.dev (u16At bl 2) none
  ({ c with dev := done.1, shouldWakeup := c.shouldWakeup || decide (done.2 > 0) }, done.2)

/-- How the loop goes on behind a record. A channel that the interface does not have
    is not checked for: nothing is known about what follows such an access. -/
inductive RecResult where
  | fault
  | refused (err : Int)
  | done (err : Int)
  | ignored
deriving Repr, DecidableEq

def RecResult.stops : RecResult → Bool
  | .fault => true
  | .refused _ => true
  | _ => false

def RecResult.checked (err : Int) : RecResult := if err < 0 then .refused err else .done err

/-- `channel` is the byte with the number of the controller in its upper half. -/
def onController (usbIf : UsbInterface n) (channel : U8)
    (handle : UsbChannel → UsbChannel × Int) (result : Int → RecResult) :
    UsbInterface n × RecResult :=
  if h : (channel >>> 4).toNat < n + 1 then
    let done := handle (usbIf.devs ⟨_, h⟩)
    (usbIf.withDev ⟨_, h⟩ done.1, result done.2)
  else (usbIf, .fault)

def usbproHandleRec (usbIf : UsbInterface n) (input : DecodeEnv × (Nat → U8)) :
    UsbInterface n × RecResult :=
  let env := input.1
  let pr := input.2
  let dataType := pr 0
  if dataType = dataTypeCanmsgRx8 ∨ dataType = dataTypeCanmsgRx4 ∨ dataType = dataTypeCanmsgRx0 ∨
      dataType = dataTypeCanmsgRtrRx then
    onController usbIf (pr 3) (pcanUsbproHandleCanmsgRx env usbIf.time pr) .checked
  else if dataType = dataTypeCanmsgStatusErrorRx then
    onController usbIf (pr 1) (handleStatusErrRx env usbIf.time pr) .checked
  else if dataType = dataTypeCalibrationTimestampRx then
    ((pcanUsbproHandleCalibration env usbIf (u32At pr 8) (u32At pr 4)).1, .done 0)
  else if dataType = dataTypeBuslastRx then
    onController usbIf (pr 1) (pcanUsbproHandleBuslastRx env pr) .done
  else (usbIf, .ignored)

end Records

section Message

inductive UsbproEnd where
  | fault
  | failed
  | all
  | unsupported
  | fragment
deriving Repr, DecidableEq

structure UsbproLoop (n : Nat) where
  usbIf : UsbInterface n
  handled : List (DecodeEnv × (Nat → U8))
  recPtr : Int
  recCount : Nat
  err : Int
  ended : UsbproEnd

/-- The loop with `recCount` records left, of which the next is number `i`. Addresses
    count from the start of the packet. -/
def usbproLoop (env : Nat → DecodeEnv) (mem : Int → U8) (msgEnd : Int) :
    Nat → Nat → Int → Int → UsbInterface n → UsbproLoop n
  | 0, _, recPtr, err, usbIf => ⟨usbIf, [], recPtr, 0, err, .all⟩
  | recCount + 1, i, recPtr, err, usbIf =>
    match pcanUsbproSizeofRec (mem recPtr) with
    | none => ⟨usbIf, [], recPtr, recCount + 1, -eopnotsupp, .unsupported⟩
    | some size =>
      if recPtr + size > msgEnd then
        ⟨usbIf, [], recPtr - 4, recCount + 1, (recCount + 1 : Nat), .fragment⟩
      else
        let input := (env i, fun k : Nat => mem (recPtr + k))
        let done := usbproHandleRec usbIf input
        match done.2 with
        | .fault => ⟨done.1, [input], recPtr, recCount + 1, err, .fault⟩
        | .refused err => ⟨done.1, [input], recPtr, recCount + 1, err, .failed⟩
        | .done err =>
          let rest := usbproLoop env mem msgEnd recCount (i + 1) (recPtr + size) err done.1
          { rest with handled := input :: rest.handled }
        | .ignored =>
          let rest := usbproLoop env mem msgEnd recCount (i + 1) (recPtr + size) err done.1
          { rest with handled := input :: rest.handled }

/-- `mem` is the packet with the record counter that the next packet starts with;
    there is no result behind a fault. -/
structure UsbproDecoded (n : Nat) where
  usbIf : UsbInterface n
  handled : List (DecodeEnv × (Nat → U8))
  mem : Int → U8
  err : Option Int

def UsbInterface.resetWakeups (usbIf : UsbInterface n) : UsbInterface n :=
  { usbIf with devs := fun d => { usbIf.devs d with shouldWakeup := false } }

def UsbInterface.wakeup (usbIf : UsbInterface n) : UsbInterface n :=
  { usbIf with devs := fun d =>
      if (usbIf.devs d).shouldWakeup then (usbIf.devs d).interrupted else usbIf.devs d }

def writeCounter (mem : Int → U8) (ptr : Int) (count : U32) : Int → U8 :=
  fun a => if ptr ≤ a ∧ a < ptr + 4 then (count >>> (8 * (a - ptr).toNat)).setWidth 8 else mem a

def recCounter (mem : Int → U8) (msgAddr : Int) : Nat :=
  (u16At (fun k : Nat => mem (msgAddr + k)) 0).toNat

/-- A failed record leaves the fragment offset as it was. -/
def UsbproLoop.finish (done : UsbproLoop n) (msgEnd : Int) : UsbInterface n :=
  match done.ended with
  | .fault => done.usbIf
  | .failed => done.usbIf.wakeup
  | _ => { done.usbIf.wakeup with
      fragRecOffset := if done.recCount > 0 then (msgEnd - done.recPtr).toNat else 0 }

def pcanUsbproMsgDecode (env : Nat → DecodeEnv) (usbIf : UsbInterface n) (mem : Int → U8)
    (msgLen : Nat) : UsbproDecoded n :=
  let msgAddr : Int := -(usbIf.fragRecOffset : Int)
  if msgLen + usbIf.fragRecOffset < 4 then ⟨usbIf, [], mem, some 0⟩
  else
    let done := usbproLoop env mem msgLen (recCounter mem msgAddr) 0 (msgAddr + 4) 0
      usbIf.resetWakeups
    ⟨done.finish msgLen, done.handled,
      if done.ended = .fragment then writeCounter mem done.recPtr (BitVec.ofNat 32 done.recCount)
      else mem,
      if done.ended = .fault then none else some done.err⟩

end Message

end PcanDriver

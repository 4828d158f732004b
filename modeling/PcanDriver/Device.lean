import PcanDriver.Lib.BoundedQueue
import PcanDriver.Messages

/-!
The channel object `struct pcandev` of `pcan_main.h`, with the fields that the
modelled functions read or write. The member of the `port` union that belongs to
the channel's interface is a parameter. Both FIFOs are bounded queues: that is
what the pointers of `pcan_fifo.c` implement.
-/
namespace PcanDriver

inductive TxEngine where
  | closed
  | idle
  | started
  | stopped
  | busy
deriving Repr, DecidableEq, Inhabited

def canErrXmtfull : U16 := 0x0001
def canErrOverrun : U16 := 0x0002
def canErrBuslight : U16 := 0x0004
def canErrBusheavy : U16 := 0x0008
def canErrBusoff : U16 := 0x0010
def canErrQrcvempty : U16 := 0x0020
def canErrQoverrun : U16 := 0x0040
def canErrQxmtfull : U16 := 0x0080
def canErrResource : U16 := 0x2000

def pcanDevOpened : U32 := 0x00000040
def pcanDevClosing : U32 := 0x00000800
def pcanDevBusloadRdy : U32 := 0x00010000
def pcanDevErrcntRdy : U32 := 0x00020000
def pcanDevFdRdy : U32 := 0x01000000

def pcanfdAllowedMsgCan : U32 := 0x00000001
def pcanfdAllowedMsgRtr : U32 := 0x00000002
def pcanfdAllowedMsgExt : U32 := 0x00000004
def pcanfdAllowedMsgStatus : U32 := 0x00000010
def pcanfdAllowedMsgError : U32 := 0x00000100

def pcanfdInitListenOnly : U32 := 0x00000001
def pcanfdInitStdMsgOnly : U32 := 0x00000002
def pcanfdInitFd : U32 := 0x00000004
def pcanfdInitTsDevRel : U32 := 0x00000010
def pcanfdInitTsDrvRel : U32 := 0x00000020
def pcanfdInitTsFmtMask : U32 := 0x00000030
def pcanfdInitBusLoadInfo : U32 := 0x00000100

structure PcanBittiming where
  brp : U32
  tseg1 : U32
  tseg2 : U32
  sjw : U32
  tsam : U32
  bitrate : U32
  samplePoint : U32
  tq : U32
  bitrateReal : U32
deriving Repr, DecidableEq, Inhabited

structure PcanfdInit where
  flags : U32
  clockHz : U32
  nominal : PcanBittiming
  data : PcanBittiming
deriving Repr, DecidableEq, Inhabited

/-- Acceptance code and mask; a mask bit of 1 means "don't care". -/
structure AccFilter where
  mask : U32
  code : U32
deriving Repr, DecidableEq, Inhabited

structure FilterElement where
  fromID : U32
  toID : U32
  flags : U32
deriving Repr, DecidableEq, Inhabited

/-- A negative `count` stands for a chain that was never reset. -/
structure FilterChain where
  anchor : List FilterElement
  count : Int
deriving Repr, DecidableEq, Inhabited

/-- The last synchronisation of the hardware's clock with the host's. -/
structure TimeSync where
  tv : Timeval
  tsUs : Nat
  ttvUs : Nat
  ttsUs : Nat
  clockDrift : Int
  tsFixed : U32
deriving Repr, DecidableEq, Inhabited

structure Pcandev (P : Type) where
  nOpenPaths : Int
  nChannel : Nat
  flags : U32
  txIframeDelayUs : U32
  tsMode : HwTimestamp
  busLoadCount : U32
  busLoadTotal : U32
  allowedMsgs : U32
  sysclockHz : U32
  timeSync : TimeSync
  acc11b : AccFilter
  acc29b : AccFilter
  port : P
  readFifo : BoundedQueue PcanfdRxmsg
  writeFifo : BoundedQueue PcanfdTxmsg
  lockedTxEngineState : TxEngine
  busLoad : Int
  prevBusLoad : Int
  busState : PcanfdStatus
  busError : U32
  dwErrorCounter : U32
  rxFramesCounter : U32
  txFramesCounter : U32
  initTimestamp : Timeval
  initSettings : PcanfdInit
  filter : Option FilterChain
  wCANStatus : U16
  isPlugged : Bool
  rxErrorCounter : U8
  txErrorCounter : U8
  prevRxErrorCounter : U8
  prevTxErrorCounter : U8

/-- What a function reads from the running host: `pcan_gettimeofday` and the
    time the driver was loaded at. -/
structure Host where
  now : Timeval
  sInitTime : Timeval
deriving Repr, DecidableEq, Inhabited

variable {P : Type}

/-- `CAN_ERR_OVERRUN`: the application must read before anything is queued. -/
def Pcandev.overrun (dev : Pcandev P) : Bool := dev.wCANStatus &&& canErrOverrun ≠ 0

def pcanSetTxEngine (dev : Pcandev P) (state : TxEngine) : Pcandev P :=
  { dev with lockedTxEngineState := state }

/-- A channel after `pcan_soft_init_ex` and a first `pcan_open_path`, before the
    controller has reported anything. -/
def openedChannel (port : P) (rxqsize txqsize : Nat) (flags : U32) : Pcandev P where
  nOpenPaths := 1
  nChannel := 0
  flags := flags
  txIframeDelayUs := 0
  tsMode := .cooked
  busLoadCount := 0
  busLoadTotal := 0
  allowedMsgs := pcanfdAllowedMsgCan ||| pcanfdAllowedMsgRtr ||| pcanfdAllowedMsgExt |||
    pcanfdAllowedMsgStatus
  sysclockHz := 80000000
  timeSync := ⟨⟨0, 0⟩, 0, 0, 0, 0, 0⟩
  acc11b := ⟨0x7ff, 0⟩
  acc29b := ⟨0x1fffffff, 0⟩
  port := port
  readFifo := BoundedQueue.empty rxqsize
  writeFifo := BoundedQueue.empty txqsize
  lockedTxEngineState := .stopped
  busLoad := 0
  prevBusLoad := 1
  busState := .unknown
  busError := pcanfdErrmsgCount
  dwErrorCounter := 0
  rxFramesCounter := 0
  txFramesCounter := 0
  initTimestamp := ⟨0, 0⟩
  initSettings := default
  filter := some ⟨[], -1⟩
  wCANStatus := 0
  isPlugged := true
  rxErrorCounter := 0
  txErrorCounter := 0
  prevRxErrorCounter := 1
  prevTxErrorCounter := 1

def FilterElement.passes (pfilter : FilterElement) (msg : PcanfdMsg) : Bool :=
  let rtrFilter := pfilter.flags &&& pcanfdMsgRtr ≠ 0
  let extFilter := pfilter.flags &&& pcanfdMsgExt ≠ 0
  let rtrIn := msg.flags &&& pcanfdMsgRtr ≠ 0
  let extIn := msg.flags &&& pcanfdMsgExt ≠ 0
  !(rtrFilter && !rtrIn || !extFilter && extIn) &&
    pfilter.fromID ≤ msg.id && msg.id ≤ pfilter.toID

/-- Zero means that the message passes. -/
def pcanDoFilter (handle : Option FilterChain) (pe : PcanfdRxmsg) : Int :=
  match handle with
  | none => 0
  | some chain =>
    match pe.msg.type with
    | .can20Msg | .canfdMsg =>
      if chain.count ≤ 0 then 0
      else if chain.anchor.any (·.passes pe.msg) then 0 else 1
    | .status => 0
    | _ => 1

end PcanDriver

import PcanDriver.Types

/-!
Messages exchanged with the application (`pcanfd.h`) and their queued forms
(`pcan_main.h`): a received message travels with the time base its timestamp is
computed from when it is read.
-/
namespace PcanDriver

structure Timeval where
  tvSec : Int
  tvUsec : Int
deriving Repr, DecidableEq, Inhabited

def usecPerSec : Int := 1000000

inductive MsgType where
  | nop
  | can20Msg
  | canfdMsg
  | status
  | errorMsg
  | other (raw : U16)
deriving Repr, DecidableEq, Inhabited

def MsgType.isCan : MsgType → Bool
  | .can20Msg => true
  | .canfdMsg => true
  | _ => false

/-- `enum pcanfd_status`: states of the bus, then events of the controller. -/
inductive PcanfdStatus where
  | unknown
  | errorActive
  | errorWarning
  | errorPassive
  | errorBusoff
  | rxEmpty
  | rxOverflow
  | txEmpty
  | txOverflow
  | busError
  | busLoad
deriving Repr, DecidableEq, Inhabited

def PcanfdStatus.code : PcanfdStatus → U32
  | .unknown => 0
  | .errorActive => 1
  | .errorWarning => 2
  | .errorPassive => 3
  | .errorBusoff => 4
  | .rxEmpty => 5
  | .rxOverflow => 6
  | .txEmpty => 7
  | .txOverflow => 8
  | .busError => 9
  | .busLoad => 10

def pcanfdMsgRtr : U32 := 0x00000001
def pcanfdMsgExt : U32 := 0x00000002
def pcanfdMsgSlf : U32 := 0x00000004
def pcanfdMsgSng : U32 := 0x00000008
def pcanfdMsgEcho : U32 := 0x00000010
def pcanfdTimestamp : U32 := 0x01000000
def pcanfdHwtimestamp : U32 := 0x02000000
def pcanfdErrcnt : U32 := 0x10000000
def pcanfdBusload : U32 := 0x20000000
def pcanfdMsgBrs : U32 := 0x00100000
def pcanfdMsgEsi : U32 := 0x00200000

def pcanfdErrorBus : U32 := 0x00000080
def pcanfdErrorProtocol : U32 := 0x00000100
def pcanfdErrorCtrlr : U32 := 0x00000200
def pcanfdErrorInternal : U32 := 0x00000400

def pcanfdErrmsgRx : U32 := 0x00001000
def pcanfdErrmsgGen : U32 := 0x00002000
def pcanfdErrmsgCount : U32 := 4

/-- `ctrlr_data`, indexed by `enum pcanfd_ctrlr_data`. -/
structure CtrlrData where
  rxErrCnt : U8
  txErrCnt : U8
  busloadUnit : U8
  busloadDec : U8
deriving Repr, DecidableEq, Inhabited

structure PcanfdMsg where
  type : MsgType
  dataLen : U16
  id : U32
  flags : U32
  timestamp : Timeval
  ctrlrData : CtrlrData
  data : Vector U8 64
deriving Repr, DecidableEq

/-- `PCANFD_OPT_HWTIMESTAMP_MODE`. -/
inductive HwTimestamp where
  | off
  | on
  | cooked
  | raw
deriving Repr, DecidableEq, Inhabited

structure PcanTimeval where
  tv : Timeval
  tvUs : Nat
  tsUs : Nat
  tsMode : HwTimestamp
  clockDrift : Int
deriving Repr, DecidableEq, Inhabited

structure PcanfdRxmsg where
  msg : PcanfdMsg
  hwtv : PcanTimeval
deriving Repr, DecidableEq

structure PcanfdTxmsg where
  msg : PcanfdMsg
  tv : Timeval
deriving Repr, DecidableEq

def PcanfdMsg.zero : PcanfdMsg :=
  ⟨.nop, 0, 0, 0, ⟨0, 0⟩, ⟨0, 0, 0, 0⟩, Vector.replicate 64 0⟩

instance : Inhabited PcanfdMsg := ⟨PcanfdMsg.zero⟩

def PcanfdRxmsg.zero : PcanfdRxmsg := ⟨PcanfdMsg.zero, ⟨⟨0, 0⟩, 0, 0, .off, 0⟩⟩

instance : Inhabited PcanfdRxmsg := ⟨PcanfdRxmsg.zero⟩

def subtractTimeval (x y : Timeval) : Option Timeval :=
  if y.tvUsec ≤ x.tvUsec then
    if y.tvSec ≤ x.tvSec then some ⟨x.tvSec - y.tvSec, x.tvUsec - y.tvUsec⟩ else none
  else if x.tvSec ≠ 0 then
    if y.tvSec ≤ x.tvSec - 1 then
      some ⟨x.tvSec - 1 - y.tvSec, x.tvUsec + (usecPerSec - y.tvUsec)⟩
    else none
  else none

/-- `to_drv_rel_time` and `to_dev_rel_time`: a time before the base becomes zero. -/
def toRelTime (base tv : Timeval) : Timeval := (subtractTimeval tv base).getD ⟨0, 0⟩

/-- The sum is a `long` and wraps. The carry loop brings a negative `tv_usec` up by whole
    seconds, so sum and carry are those of the rounding-down division. -/
def timevalAddUs (tv : Timeval) (us : Int) : Timeval :=
  let usec := Int.bmod (tv.tvUsec + us) (2 ^ 64)
  ⟨tv.tvSec + usec.fdiv usecPerSec, usec.fmod usecPerSec⟩

def timevalToUs (tv : Timeval) : Int := tv.tvSec * usecPerSec + tv.tvUsec

/-- A difference of 64-bit counts, read as signed. -/
def timevalDiff (tv0 tv1 : Timeval) : Int :=
  Int.bmod (timevalToUs tv0 - timevalToUs tv1) (2 ^ 64)

end PcanDriver

import PcanDriver.BusState

/-!
Acceptance of frames to send: `pcanfd_send_msg` and the start of the transmit
engine behind it (`pcanfd_core.c`).
-/
namespace PcanDriver
variable {P : Type}

def ebadmsg : Int := 74

def checkClassic (ptx : PcanfdTxmsg) : Except Int PcanfdTxmsg :=
  if ptx.msg.dataLen ≤ 8 then .ok ptx else .error (-ebadmsg)

/-- A frame of type CANFD on a channel that is not set up for it is forced to
    CAN 2.0. -/
def checkTxType (dev : Pcandev P) (ptx : PcanfdTxmsg) : Except Int PcanfdTxmsg :=
  match ptx.msg.type with
  | .canfdMsg =>
    if dev.initSettings.flags &&& pcanfdInitFd ≠ 0 ∧ ptx.msg.dataLen ≤ 64 then .ok ptx
    else checkClassic { ptx with msg := { ptx.msg with type := .can20Msg } }
  | .can20Msg => checkClassic ptx
  | _ => .error (-ebadmsg)

/-- The checks in front of the loop of `pcanfd_send_msg`. -/
def checkTxmsg (dev : Pcandev P) (ptx : PcanfdTxmsg) : Except Int PcanfdTxmsg :=
  match checkTxType dev ptx with
  | .error err => .error err
  | .ok ptx =>
    if dev.initSettings.flags &&& pcanfdInitStdMsgOnly ≠ 0 ∧
        (ptx.msg.flags &&& pcanfdMsgExt ≠ 0 ∨ ptx.msg.id > 2047) then .error (-einval)
    else .ok ptx

inductive SendResult where
  | queued
  | refused (err : Int)
  | sleeping
deriving Repr, DecidableEq

/-- One pass of `pcanfd_send_msg`. A full FIFO ends a nonblocking call with a
    notice for the application; a blocking caller makes sure that the engine runs
    and sleeps. `stack` is the uninitialised message of the notice. -/
def pcanfdSendMsg (deviceWrite : Pcandev P → Pcandev P × Int) (host : Host) (stack : PcanfdRxmsg)
    (dev : Pcandev P) (ptx : PcanfdTxmsg) (nonblock : Bool) :
    Pcandev P × PcanfdTxmsg × SendResult :=
  match checkTxmsg dev ptx with
  | .error err => (dev, ptx, .refused err)
  | .ok ptx =>
    if !dev.isPlugged ∨ dev.nOpenPaths = 0 then (dev, ptx, .refused (-enodev))
    else if dev.busState = .errorBusoff then (dev, ptx, .refused (-enetdown))
    else
      let ptx := { ptx with tv := host.now }
      let stored := fifoPut dev.writeFifo ptx
      if 0 ≤ stored.2 then
        (pcanClearStatusBit host { dev with writeFifo := stored.1 } canErrXmtfull, ptx, .queued)
      else if nonblock then
        if dev.wCANStatus &&& canErrXmtfull ≠ 0 then (dev, ptx, .refused (-eagain))
        else
          let handled := pcanHandleErrorInternal dev stack .txOverflow
          ((pcanChardevRx host handled.1 handled.2).1, ptx, .refused (-eagain))
      else
        let dev := { dev with wCANStatus := dev.wCANStatus ||| canErrXmtfull }
        ((pcanDevStartWriting deviceWrite dev).1, ptx, .sleeping)

def acceptedFrame (sent : Pcandev P × PcanfdTxmsg × SendResult) : Option PcanfdTxmsg :=
  match sent.2.2 with
  | .queued => some sent.2.1
  | _ => none

def pcanfdIoctlSendMsg (deviceWrite : Pcandev P → Pcandev P × Int) (host : Host)
    (stack : PcanfdRxmsg) (dev : Pcandev P) (ptx : PcanfdTxmsg) (nonblock : Bool) :
    Pcandev P × PcanfdTxmsg × SendResult :=
  let sent := pcanfdSendMsg deviceWrite host stack dev ptx nonblock
  match sent.2.2 with
  | .queued => ((pcanDevStartWriting deviceWrite sent.1).1, sent.2)
  | _ => sent

end PcanDriver

import PcanDriver.RxPath

/-!
Handlers of bus state events and controller errors (`pcan_main.c`). They fill the
message the decoder is going to post; a repeated state makes it a NOP. Going
active out of the unknown state starts the transmission of queued frames.
-/
namespace PcanDriver
variable {P : Type}

/-- Writing does not start before the bus state is known. -/
def pcanDevStartWriting (deviceWrite : Pcandev P → Pcandev P × Int) (dev : Pcandev P) :
    Pcandev P × Int :=
  if dev.busState = .unknown then (dev, 0)
  else if dev.lockedTxEngineState = .stopped then
    let written := deviceWrite dev
    (written.1, if written.2 = -enodata then 0 else written.2)
  else (dev, 0)

def PcanfdRxmsg.withStatus (rx : PcanfdRxmsg) (id : PcanfdStatus) : PcanfdRxmsg :=
  { rx with msg := { rx.msg with type := .status, flags := pcanfdErrorBus, id := id.code } }

def PcanfdRxmsg.withType (rx : PcanfdRxmsg) (type : MsgType) : PcanfdRxmsg :=
  { rx with msg := { rx.msg with type := type } }

def pcanHandleBusoff (dev : Pcandev P) (rx : PcanfdRxmsg) : Pcandev P × PcanfdRxmsg × Int :=
  if dev.busState = .errorBusoff then (dev, rx.withType .nop, 0)
  else (pcanSetBusState dev .errorBusoff, rx.withStatus .errorBusoff, 1)

def pcanHandleErrorActive (deviceWrite : Pcandev P → Pcandev P × Int) (dev : Pcandev P)
    (rx : PcanfdRxmsg) : Pcandev P × PcanfdRxmsg :=
  let rx' :=
    if dev.busState ≠ .errorActive then
      let status := rx.withStatus .errorActive
      { status with msg := { status.msg with data := Vector.replicate 64 0 } }
    else rx.withType .nop
  let dev' := pcanSetBusState dev .errorActive
  (if dev.busState = .unknown then (pcanDevStartWriting deviceWrite dev').1 else dev', rx')

/-- False means that no error bit is set and the state is not active yet. -/
def pcanHandleErrorStatus (dev : Pcandev P) (rx : PcanfdRxmsg) (errWarning errPassive : Bool) :
    Pcandev P × PcanfdRxmsg × Bool :=
  let enter := fun (state : PcanfdStatus) =>
    (pcanSetBusState { dev with dwErrorCounter := dev.dwErrorCounter + 1 } state,
      rx.withStatus state, true)
  if errPassive then enter .errorPassive
  else if errWarning then enter .errorWarning
  else
    let rx := { rx with msg := { rx.msg with type := .status, flags := pcanfdErrorBus } }
    if dev.busState = .errorActive then (dev, rx.withType .nop, true) else (dev, rx, false)

def pcanHandleErrorCtrl (dev : Pcandev P) (rx : PcanfdRxmsg) (errCtrlr : PcanfdStatus) :
    Pcandev P × PcanfdRxmsg :=
  (countError dev (match errCtrlr with
    | .rxOverflow => canErrQoverrun
    | .rxEmpty => canErrQrcvempty
    | .txOverflow => canErrQxmtfull
    | _ => canErrResource), errorStatus rx pcanfdErrorCtrlr errCtrlr)

def pcanHandleErrorProtocol (dev : Pcandev P) (rx : PcanfdRxmsg) (errProtocol : PcanfdStatus) :
    Pcandev P × PcanfdRxmsg :=
  (countError dev (match errProtocol with
    | .rxOverflow => canErrQoverrun
    | .txOverflow => canErrQxmtfull
    | _ => canErrResource), errorStatus rx pcanfdErrorProtocol errProtocol)

/-- Posts a controller error on its own; `stack` is the uninitialised message. -/
def postErrorCtrl (host : Host) (dev : Pcandev P) (stack : PcanfdRxmsg)
    (errCtrlr : PcanfdStatus) : Pcandev P :=
  let handled := pcanHandleErrorCtrl dev stack errCtrlr
  (pcanChardevRx host handled.1 handled.2).1

end PcanDriver

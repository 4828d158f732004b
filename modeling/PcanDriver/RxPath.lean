import PcanDriver.Device
import PcanDriver.FifoRefinement

/-!
The way of a received message into the application's queue and out of it:
`pcan_chardev_rx` with its flooding limits (`pcan_main.c`), the status bits, and
`pcanfd_recv_msg` and `pcanfd_dev_reset` (`pcanfd_core.c`).
-/
namespace PcanDriver
variable {P : Type}

def enoent : Int := 2

/-- Overwrites the newest queued message when it is the same STATUS. -/
def pcanDoPatchRxmsg (fifo rx : PcanfdRxmsg) : PcanfdRxmsg × PcanfdRxmsg × Int :=
  if fifo.msg.type = rx.msg.type ∧ fifo.msg.id = rx.msg.id ∧ fifo.msg.flags = rx.msg.flags ∧
      fifo.msg.dataLen = rx.msg.dataLen then (rx, rx, -eexist)
  else (fifo, rx, -enoent)

def pcanDoPatchLast (_fifoMsg newMsg : PcanfdRxmsg) : PcanfdRxmsg × PcanfdRxmsg × Int :=
  (newMsg, newMsg, -eexist)

/-- `pcan_fifo_put` on a FIFO whose `FIFO_CIRCULAR` flag is clear, as
    `pcan_fifo_init` leaves it. -/
def fifoPut {A : Type} (fifo : BoundedQueue A) (x : A) : BoundedQueue A × Int :=
  ((Fifo.queuePut ⟨fifo, false⟩ x).1.queue, (Fifo.queuePut ⟨fifo, false⟩ x).2)

def errorCountersMismatch (dev : Pcandev P) : Bool :=
  let rx := dev.rxErrorCounter
  let tx := dev.txErrorCounter
  match dev.busState with
  | .errorActive => 96 ≤ rx || 96 ≤ tx
  | .errorWarning => 128 ≤ rx || 128 ≤ tx || (rx < 96 && tx < 96)
  | .errorPassive => rx < 128 && tx < 128
  | _ => false

def pcanStatusRx (dev : Pcandev P) (pf : PcanfdRxmsg) : Pcandev P × PcanfdRxmsg × Int :=
  if dev.busState.code = pf.msg.id ∧ dev.rxErrorCounter = dev.prevRxErrorCounter ∧
      dev.txErrorCounter = dev.prevTxErrorCounter then (dev, pf, -eexist)
  else
    let pf := { pf with msg := { pf.msg with data := Vector.replicate 64 0, dataLen := 0 } }
    if dev.flags &&& pcanDevErrcntRdy ≠ 0 ∧ errorCountersMismatch dev then (dev, pf, -einval)
    else
      ({ dev with
          prevRxErrorCounter := dev.rxErrorCounter
          prevTxErrorCounter := dev.txErrorCounter }, pf, 0)

def pcanErrorRx (dev : Pcandev P) (rx : PcanfdRxmsg) : Pcandev P × Int :=
  if rx.msg.id = dev.busError then
    if rx.msg.flags &&& pcanfdErrcnt = 0 then (dev, -eexist)
    else if dev.prevRxErrorCounter = dev.rxErrorCounter ∧
        dev.prevTxErrorCounter = dev.txErrorCounter then (dev, -eexist)
    else
      ({ dev with
          prevRxErrorCounter := dev.rxErrorCounter
          prevTxErrorCounter := dev.txErrorCounter
          busError := rx.msg.id }, 0)
  else ({ dev with busError := rx.msg.id }, 0)

def PcanfdRxmsg.withId (rx : PcanfdRxmsg) (id : PcanfdStatus) : PcanfdRxmsg :=
  { rx with msg := { rx.msg with id := id.code } }

/-- Raises the reported state to the one the error counters stand for. -/
def pcanStatusNormalizeRx (rx : PcanfdRxmsg) : PcanfdRxmsg :=
  if rx.msg.flags &&& pcanfdErrcnt = 0 then rx
  else
    let rxcnt := rx.msg.ctrlrData.rxErrCnt
    let txcnt := rx.msg.ctrlrData.txErrCnt
    if rx.msg.id = PcanfdStatus.errorActive.code then
      if rxcnt < 96 ∧ txcnt < 96 then rx
      else if rxcnt < 128 ∧ txcnt < 128 then rx.withId .errorWarning
      else rx.withId .errorPassive
    else if rx.msg.id = PcanfdStatus.errorWarning.code then
      if rxcnt < 128 ∧ txcnt < 128 then rx else rx.withId .errorPassive
    else rx

/-- The first switch of `pcan_chardev_rx`: what the application has not asked
    for stops here. -/
def admitRx (dev : Pcandev P) (rx : PcanfdRxmsg) : Pcandev P × Bool :=
  match rx.msg.type with
  | .nop => (dev, false)
  | .status =>
    if rx.msg.id = PcanfdStatus.busLoad.code then
      ({ dev with
          busLoadTotal := dev.busLoadTotal + BitVec.ofInt 32 dev.busLoad
          busLoadCount := dev.busLoadCount + 1 }, false)
    else (dev, dev.allowedMsgs &&& pcanfdAllowedMsgStatus ≠ 0)
  | .errorMsg => (dev, dev.allowedMsgs &&& pcanfdAllowedMsgError ≠ 0)
  | .can20Msg | .canfdMsg =>
    let dev := { dev with rxFramesCounter := dev.rxFramesCounter + 1 }
    let accepted :=
      if rx.msg.flags &&& pcanfdMsgExt ≠ 0 then
        dev.allowedMsgs &&& pcanfdAllowedMsgExt ≠ 0 ∧
          rx.msg.id &&& ~~~dev.acc29b.mask = dev.acc29b.code
      else rx.msg.id &&& ~~~dev.acc11b.mask = dev.acc11b.code
    (dev, dev.allowedMsgs &&& pcanfdAllowedMsgCan ≠ 0 ∧ accepted ∧
      (rx.msg.flags &&& pcanfdMsgRtr ≠ 0 → dev.allowedMsgs &&& pcanfdAllowedMsgRtr ≠ 0))
  | .other _ => (dev, true)

def stampTime (host : Host) (dev : Pcandev P) (rx : PcanfdRxmsg) : PcanTimeval :=
  let hwtv :=
    if rx.msg.flags &&& pcanfdTimestamp = 0 then
      { rx.hwtv with tsMode := .off, tv := host.now }
    else rx.hwtv
  if hwtv.tsMode = .raw then hwtv
  else
    let format := dev.initSettings.flags &&& pcanfdInitTsFmtMask
    if format = pcanfdInitTsDrvRel then { hwtv with tv := toRelTime host.sInitTime hwtv.tv }
    else if format = pcanfdInitTsDevRel then { hwtv with tv := toRelTime dev.initTimestamp hwtv.tv }
    else hwtv

def stampBusload (dev : Pcandev P) (msg : PcanfdMsg) : PcanfdMsg :=
  if dev.flags &&& pcanDevBusloadRdy ≠ 0 then
    { msg with
      ctrlrData := { msg.ctrlrData with
        busloadUnit := BitVec.ofInt 8 (dev.busLoad.tdiv 100)
        busloadDec := BitVec.ofInt 8 (dev.busLoad.tmod 100) }
      flags := msg.flags ||| pcanfdBusload }
  else { msg with flags := msg.flags &&& ~~~pcanfdBusload }

def stampErrcnt (dev : Pcandev P) (msg : PcanfdMsg) : PcanfdMsg :=
  if dev.flags &&& pcanDevErrcntRdy ≠ 0 then
    { msg with
      ctrlrData := { msg.ctrlrData with
        rxErrCnt := dev.rxErrorCounter
        txErrCnt := dev.txErrorCounter }
      flags := msg.flags ||| pcanfdErrcnt }
  else { msg with flags := msg.flags &&& ~~~pcanfdErrcnt }

/-- Time base, bus load and error counters of the channel go with the message. -/
def stampRx (host : Host) (dev : Pcandev P) (rx : PcanfdRxmsg) : PcanfdRxmsg :=
  ⟨stampErrcnt dev (stampBusload dev rx.msg), stampTime host dev rx⟩

inductive Verdict where
  | drop
  | post
deriving Repr, DecidableEq, Inhabited

/-- The inner switch over STATUS ids: bus states go through `pcan_status_rx`. -/
def filterStatusRx (dev : Pcandev P) (rx : PcanfdRxmsg) : Pcandev P × PcanfdRxmsg × Int :=
  if rx.msg.id = PcanfdStatus.errorActive.code ∨ rx.msg.id = PcanfdStatus.errorWarning.code ∨
      rx.msg.id = PcanfdStatus.errorPassive.code then pcanStatusRx dev (pcanStatusNormalizeRx rx)
  else if rx.msg.id = PcanfdStatus.errorBusoff.code then pcanStatusRx dev rx
  else (dev, rx, 0)

def patchStatusRx (dev : Pcandev P) (rx : PcanfdRxmsg) : Pcandev P × PcanfdRxmsg × Verdict :=
  let patched := dev.readFifo.visitBack pcanDoPatchRxmsg rx
  ({ dev with readFifo := patched.1 }, rx, if patched.2.2 = -eexist then .drop else .post)

/-- The STATUS branch of the second switch: a repeated state is dropped, then the
    newest message is patched if it is the same STATUS. -/
def limitStatusRx (dev : Pcandev P) (rx : PcanfdRxmsg) : Pcandev P × PcanfdRxmsg × Verdict :=
  let filtered := filterStatusRx dev rx
  if filtered.2.2 = -eexist then (filtered.1, filtered.2.1, .drop)
  else patchStatusRx filtered.1 filtered.2.1

/-- The second switch of `pcan_chardev_rx`. -/
def limitRx (dev : Pcandev P) (rx : PcanfdRxmsg) : Pcandev P × PcanfdRxmsg × Verdict :=
  match rx.msg.type with
  | .can20Msg | .canfdMsg =>
    (dev, rx, if pcanDoFilter dev.filter rx = 0 then .post else .drop)
  | .status => limitStatusRx dev rx
  | .errorMsg =>
    let limited := pcanErrorRx dev rx
    (limited.1, rx, if limited.2 = -eexist then .drop else .post)
  | _ => (dev, rx, .post)

/-- The tail shared by the `pcan_handle_error_xxx` functions. -/
def errorStatus (rx : PcanfdRxmsg) (flags : U32) (id : PcanfdStatus) : PcanfdRxmsg :=
  { rx with msg := { rx.msg with type := .status, flags := flags, id := id.code, dataLen := 0 } }

def countError (dev : Pcandev P) (bits : U16) : Pcandev P :=
  { dev with wCANStatus := dev.wCANStatus ||| bits, dwErrorCounter := dev.dwErrorCounter + 1 }

def pcanHandleErrorInternal (dev : Pcandev P) (rx : PcanfdRxmsg) (errInternal : PcanfdStatus) :
    Pcandev P × PcanfdRxmsg :=
  (countError dev (match errInternal with
    | .rxOverflow => canErrOverrun
    | .txOverflow => canErrXmtfull
    | _ => canErrResource), errorStatus rx pcanfdErrorInternal errInternal)

/-- A full FIFO loses the message and its newest element becomes the notice. -/
def putRx (dev : Pcandev P) (rx : PcanfdRxmsg) : Pcandev P × PcanfdRxmsg × Int :=
  let stored := fifoPut dev.readFifo rx
  if 0 ≤ stored.2 then ({ dev with readFifo := stored.1 }, rx, 1)
  else
    let handled := pcanHandleErrorInternal dev rx .rxOverflow
    ({ handled.1 with readFifo := (dev.readFifo.visitBack pcanDoPatchLast handled.2).1 },
      handled.2, stored.2)

def queueRx (host : Host) (dev : Pcandev P) (rx : PcanfdRxmsg) :
    Pcandev P × PcanfdRxmsg × Int :=
  if dev.nOpenPaths ≤ 0 then (dev, rx, 0)
  else if dev.overrun then (dev, rx, -enospc)
  else
    let limited := limitRx dev (stampRx host dev rx)
    match limited.2.2 with
    | .drop => (limited.1, limited.2.1, 0)
    | .post => putRx limited.1 limited.2.1

/-- The caller's message is modified in place; 1 says that it has been queued. -/
def pcanChardevRx (host : Host) (dev : Pcandev P) (rx : PcanfdRxmsg) :
    Pcandev P × PcanfdRxmsg × Int :=
  let admitted := admitRx dev rx
  if admitted.2 then queueRx host admitted.1 rx else (admitted.1, rx, 0)

/-- `rx` of `pcan_clear_status_bit`. -/
def busStateNotice (dev : Pcandev P) : PcanfdRxmsg :=
  { PcanfdRxmsg.zero with
    msg := { PcanfdMsg.zero with
      type := .status, id := dev.busState.code, flags := pcanfdErrorBus } }

def clearBits (dev : Pcandev P) (bits : U16) : Pcandev P :=
  { dev with
    wCANStatus := dev.wCANStatus &&& ~~~bits
    prevRxErrorCounter := dev.rxErrorCounter + 1
    prevTxErrorCounter := dev.txErrorCounter + 1 }

/-- Clears status bits and tells the application by the current bus state. -/
def pcanClearStatusBit (host : Host) (dev : Pcandev P) (bits : U16) : Pcandev P :=
  if dev.wCANStatus &&& bits = 0 then dev
  else (pcanChardevRx host (clearBits dev bits) (busStateNotice dev)).1

/-- Delay since the last synchronisation in host microseconds; negative when the
    event is older. Device clocks drift against the host's. -/
def hwDelayUs (hwtv : PcanTimeval) : Int :=
  let older := hwtv.tsUs < hwtv.tvUs
  let dus := if older then hwtv.tvUs - hwtv.tsUs else hwtv.tsUs - hwtv.tvUs
  let dus :=
    if hwtv.tsMode = .cooked ∧ hwtv.clockDrift ≠ 0 ∧ hwtv.clockDrift ≠ 2 ^ 17 then
      dus * 2 ^ 17 % 2 ^ 64 / (hwtv.clockDrift % 2 ^ 32).toNat
    else dus
  if older then -(dus : Int) else dus

/-- Fills the timestamp the application sees; a time from the future is fixed. -/
def pcanSyncTimestamps (host : Host) (dev : Pcandev P) (pqm : PcanfdRxmsg) :
    Pcandev P × PcanfdRxmsg :=
  let flags := pqm.msg.flags ||| (pcanfdTimestamp ||| pcanfdHwtimestamp)
  let stamp := fun (tv : Timeval) (flags : U32) =>
    { pqm with msg := { pqm.msg with timestamp := tv, flags := flags } }
  match pqm.hwtv.tsMode with
  | .raw =>
    let shown := stamp ⟨pqm.hwtv.tsUs / 1000000, pqm.hwtv.tsUs % 1000000⟩ flags
    (dev, { shown with hwtv := { shown.hwtv with tsUs := pqm.hwtv.tsUs / 1000000 } })
  | .off => (dev, stamp pqm.hwtv.tv (flags &&& ~~~pcanfdHwtimestamp))
  | _ =>
    let timestamp := timevalAddUs pqm.hwtv.tv (hwDelayUs pqm.hwtv)
    let fixed := { dev with timeSync := { dev.timeSync with tsFixed := dev.timeSync.tsFixed + 1 } }
    let ahead := timevalDiff timestamp host.now
    if timestamp.tvUsec ≥ 1000000 ∨ timestamp.tvUsec < 0 ∨ ahead ≥ 100 then
      (fixed, stamp host.now (flags &&& ~~~pcanfdHwtimestamp))
    else if ahead > 0 then (fixed, stamp host.now flags)
    else (dev, stamp timestamp flags)

/-- One pass of the loop of `pcanfd_recv_msg`. No result means that the caller
    sleeps and makes another pass when it is woken up. -/
def pcanfdRecvMsg (host : Host) (dev : Pcandev P) (nonblock : Bool) :
    Pcandev P × Option PcanfdRxmsg × Option Int :=
  if !dev.isPlugged ∨ dev.nOpenPaths = 0 then (dev, none, some (-enodev))
  else
    match dev.readFifo.oldest with
    | some pf =>
      let dev := pcanClearStatusBit host { dev with readFifo := dev.readFifo.dropOldest }
        canErrOverrun
      let synced := pcanSyncTimestamps host dev pf
      (synced.1, some synced.2, some 0)
    | none => (dev, none, if nonblock then some (-eagain) else none)

def pcanInitSessionCounters (dev : Pcandev P) : Pcandev P :=
  { dev with
    rxErrorCounter := 0
    txErrorCounter := 0
    prevRxErrorCounter := 1
    prevTxErrorCounter := 1
    busLoad := 0
    prevBusLoad := 1
    busError := pcanfdErrmsgCount
    wCANStatus := dev.wCANStatus &&& ~~~(canErrBusoff ||| canErrBusheavy ||| canErrBuslight) }

/-- A changed state makes the previous counters differ from the current ones, so
    that the first STATUS about it passes `pcan_status_rx`. -/
def pcanSetBusState (dev : Pcandev P) (busState : PcanfdStatus) : Pcandev P :=
  let enter := fun (dev : Pcandev P) =>
    { dev with
      busState := busState
      prevRxErrorCounter := dev.rxErrorCounter + 1
      prevTxErrorCounter := dev.txErrorCounter + 1 }
  if busState = dev.busState then dev
  else
    match busState with
    | .errorActive => enter (pcanInitSessionCounters dev)
    | .errorWarning => enter { dev with wCANStatus := dev.wCANStatus ||| canErrBuslight }
    | .errorPassive => enter { dev with wCANStatus := dev.wCANStatus ||| canErrBusheavy }
    | .errorBusoff => enter (countError dev canErrBusoff)
    | .unknown => enter (pcanInitSessionCounters dev)
    | _ => dev

def pcanfdDevReset (deviceRelease : Pcandev P → Pcandev P) (dev : Pcandev P) :
    Pcandev P × Int :=
  let dev := pcanSetTxEngine dev .closed
  let dev := if dev.nOpenPaths ≠ 0 then deviceRelease dev else dev
  let dev := pcanSetBusState { dev with flags := dev.flags &&& ~~~pcanDevOpened } .unknown
  ({ dev with
      writeFifo := dev.writeFifo.clear
      readFifo := dev.readFifo.clear
      wCANStatus := dev.wCANStatus &&& ~~~(canErrOverrun ||| canErrXmtfull) }, 0)

def averageBusLoad (dev : Pcandev P) : Int :=
  if dev.busLoadCount ≠ 0 then (dev.busLoadTotal / dev.busLoadCount).toInt else dev.busLoad

def busLoadNotice (host : Host) (dev : Pcandev P) (bl : Int) : PcanfdRxmsg :=
  let errcnt := dev.flags &&& pcanDevErrcntRdy ≠ 0
  { msg := { PcanfdMsg.zero with
      type := .status
      id := PcanfdStatus.busLoad.code
      flags := if errcnt then pcanfdBusload ||| pcanfdErrcnt else pcanfdBusload
      ctrlrData :=
        ⟨if errcnt then dev.rxErrorCounter else 0, if errcnt then dev.txErrorCounter else 0,
          BitVec.ofInt 8 (bl.tdiv 100), BitVec.ofInt 8 (bl.tmod 100)⟩ }
    hwtv := { PcanfdRxmsg.zero.hwtv with tsMode := .off, tv := host.now } }

/-- The bus load timer posts on its own, without the limits and without a notice
    when the FIFO is full. -/
def pcanPushBusLoadInd (host : Host) (dev : Pcandev P) : Pcandev P :=
  let bl := averageBusLoad dev
  if dev.busState = .unknown ∨ dev.initSettings.flags &&& pcanfdInitBusLoadInfo = 0 then dev
  else if bl = dev.prevBusLoad then dev
  else
    { dev with
      busLoadTotal := 0
      busLoadCount := 0
      prevBusLoad := bl
      readFifo := (fifoPut dev.readFifo (busLoadNotice host dev bl)).1 }

end PcanDriver

import PcanDriver.Lib.Ledger
import PcanDriver.Lib.StepSystem
import PcanDriver.FilterChain
import PcanDriver.RxPath

/-!
Open handles of a channel: `pcan_open_path` and `pcan_release_path` (`pcan_fops.c`).
What they call through the function pointers of `struct pcandev` may change anything of
the channel but the number of paths, which only these two functions write.
-/
namespace PcanDriver
open Ledger StepSystem
variable {P : Type}

/-- What opening a path acquires. The device is acquired by the call of its open function
    and released by `device_release`. -/
inductive PathResource where
  | wMsg
  | rMsg
  | interface
  | irq
  | adapterCount
  | pathCount
  | device
deriving Repr, DecidableEq

abbrev PathCall := Entry PathResource

/-- Which function pointers of `struct pcandev` the interface sets. Those that set `open`
    or `req_irq` set the counterpart too, and dongles set all of them. -/
structure PathInterface where
  hasOpen : Bool
  hasRelease : Bool
  hasReqIrq : Bool
  hasFreeIrq : Bool
  hasDeviceRelease : Bool
  dongle : Bool
  releases : hasOpen = true → hasRelease = true
  freesIrq : hasReqIrq = true → hasFreeIrq = true
  opensDongle : dongle = true → hasOpen = true

theorem both_unset : false = true → false = true := id

/-- What a function pointer of `struct pcandev` points to: the channel after the call and
    the error it returns. -/
abbrev DevCallback (P : Type) := Pcandev P → Pcandev P × Int

def Pcandev.called (dev : Pcandev P) (callback : DevCallback P) : Pcandev P × Int :=
  ({ (callback dev).1 with nOpenPaths := dev.nOpenPaths }, (callback dev).2)

/-- A function pointer is called only if it is set. -/
def Pcandev.callIf (dev : Pcandev P) (isSet : Bool) (callback : DevCallback P) : Pcandev P × Int :=
  if isSet then dev.called callback else (dev, 0)

def callEntry (isSet : Bool) (entry : PathCall) : List PathCall := if isSet then [entry] else []

/-- The channel with the buffers of its FIFOs (whether they are allocated) and the
    counter of its adapter. -/
structure PathDev (P : Type) where
  dev : Pcandev P
  wMsg : Bool
  rMsg : Bool
  openedIndex : Int
  openedCount : Int

def PathDev.setDev (d : PathDev P) (dev : Pcandev P) : PathDev P := { d with dev }

/-- What one call of `pcan_open_path` finds: whether `pcan_malloc` has memory, and the
    functions that it calls; `device` is `pcanfd_dev_open` with the channel's settings. -/
structure OpenEnv (P : Type) where
  txqsize : Nat
  rxqsize : Nat
  wMsg : Bool
  rMsg : Bool
  interface : DevCallback P
  probe : DevCallback P
  release : DevCallback P
  reqIrq : DevCallback P
  deviceRelease : DevCallback P
  device : DevCallback P
  freeIrq : DevCallback P

structure PathResult (P : Type) where
  d : PathDev P
  calls : List PathCall
  err : Int

def PathResult.after (result : PathResult P) (calls : List PathCall) : PathResult P :=
  { result with calls := calls ++ result.calls }

def lblUnlockFreeW (d : PathDev P) (err : Int) : PathResult P :=
  ⟨{ d with wMsg := false }, [.release .wMsg], err⟩

def lblUnlockFreeAll (d : PathDev P) (err : Int) : PathResult P :=
  (lblUnlockFreeW { d with rMsg := false } err).after [.release .rMsg]

/-- The reset is made with the path counted, so that it releases a device that has not
    been opened yet. -/
def resetCounted (iface : PathInterface) (env : OpenEnv P) (dev : Pcandev P) : Pcandev P :=
  (pcanfdDevReset (fun dev => (dev.callIf iface.hasDeviceRelease env.deviceRelease).1)
    { dev with nOpenPaths := 1 }).1

/-- From the counters on. -/
def openDevice (iface : PathInterface) (env : OpenEnv P) (d : PathDev P) : PathResult P :=
  let called := (resetCounted iface env d.dev).called env.device
  let calls := [.acquire .adapterCount, .acquire .pathCount] ++
    callEntry iface.hasDeviceRelease (.release .device)
  if called.2 = 0 then
    ⟨{ d with
        dev := called.1
        openedIndex := d.openedCount
        openedCount := d.openedCount + 1 }, calls ++ [.acquire .device], 0⟩
  else
    let dev := { called.1 with nOpenPaths := called.1.nOpenPaths - 1 }
    let freed := (dev.callIf iface.hasFreeIrq env.freeIrq).1
    (lblUnlockFreeAll { d with dev := freed, openedIndex := d.openedCount } called.2).after
      (calls ++ [.release .pathCount, .release .adapterCount] ++
        callEntry iface.hasFreeIrq (.release .irq))

def requestIrq (iface : PathInterface) (env : OpenEnv P) (d : PathDev P) : PathResult P :=
  let called := d.dev.callIf iface.hasReqIrq env.reqIrq
  if called.2 ≠ 0 then lblUnlockFreeAll (d.setDev called.1) called.2
  else
    (openDevice iface env (d.setDev called.1)).after (callEntry iface.hasReqIrq (.acquire .irq))

/-- Dongles can be connected after the driver has been loaded. -/
def probeDongle (iface : PathInterface) (env : OpenEnv P) (d : PathDev P) : PathResult P :=
  let called := d.dev.callIf iface.dongle env.probe
  if called.2 ≠ 0 then
    (lblUnlockFreeAll (d.setDev (called.1.called env.release).1) called.2).after
      [.release .interface]
  else requestIrq iface env (d.setDev called.1)

def callOpen (iface : PathInterface) (env : OpenEnv P) (d : PathDev P) : PathResult P :=
  let called := d.dev.callIf iface.hasOpen env.interface
  if called.2 ≠ 0 then lblUnlockFreeAll (d.setDev called.1) called.2
  else
    (probeDongle iface env (d.setDev called.1)).after
      (callEntry iface.hasOpen (.acquire .interface))

def allocateReadFifo (iface : PathInterface) (env : OpenEnv P) (d : PathDev P) : PathResult P :=
  if env.rMsg then
    let d := d.setDev { d.dev with readFifo := .empty env.rxqsize }
    (callOpen iface env { d with rMsg := true }).after [.acquire .rMsg]
  else lblUnlockFreeW { d with rMsg := false } (-enomem)

def pcanOpenPath (iface : PathInterface) (env : OpenEnv P) (d : PathDev P) : PathResult P :=
  if 0 < d.dev.nOpenPaths then
    ⟨{ d with dev := { d.dev with nOpenPaths := d.dev.nOpenPaths + 1 } }, [.acquire .pathCount], 0⟩
  else if env.wMsg then
    let d := d.setDev { d.dev with writeFifo := .empty env.txqsize }
    (allocateReadFifo iface env { d with wMsg := true }).after [.acquire .wMsg]
  else ⟨{ d with wMsg := false }, [], -enomem⟩

/-- What one call of `pcan_release_path` finds; `wait` is what happens to the channel
    while its transmit FIFO is waited for. -/
structure ReleaseEnv (P : Type) where
  wait : DevCallback P
  deviceRelease : DevCallback P
  release : DevCallback P
  freeIrq : DevCallback P

/-- `case 1` of the switch. -/
def releaseDevice (iface : PathInterface) (env : ReleaseEnv P) (d : PathDev P) : PathDev P :=
  let dev := ({ d.dev with flags := d.dev.flags ||| pcanDevClosing }.called env.wait).1
  let dev := pcanSetTxEngine { dev with nOpenPaths := dev.nOpenPaths - 1 } .closed
  let dev := (dev.callIf iface.hasDeviceRelease env.deviceRelease).1
  let dev := pcanSetBusState
    { dev with flags := dev.flags &&& ~~~(pcanDevOpened ||| pcanDevClosing) } .unknown
  let dev := (dev.callIf iface.hasRelease env.release).1
  let dev := (dev.callIf iface.hasFreeIrq env.freeIrq).1
  { d with
    dev
    openedCount := if 0 < d.openedCount then d.openedCount - 1 else d.openedCount }

def releaseDeviceCalls (iface : PathInterface) (d : PathDev P) : List PathCall :=
  [.release .pathCount] ++ callEntry iface.hasDeviceRelease (.release .device) ++
    callEntry iface.hasRelease (.release .interface) ++
    callEntry iface.hasFreeIrq (.release .irq) ++
    callEntry (decide (0 < d.openedCount)) (.release .adapterCount)

/-- `case 0`. -/
def releaseFifos (d : PathDev P) : PathDev P := { d with wMsg := false, rMsg := false }

/-- `default`. -/
def releaseCount (d : PathDev P) : PathDev P :=
  if 0 ≤ d.dev.nOpenPaths then { d with dev := { d.dev with nOpenPaths := d.dev.nOpenPaths - 1 } }
  else d

/-- Every case of the switch falls through to those behind it. -/
def pcanReleasePath (iface : PathInterface) (env : ReleaseEnv P) (d : PathDev P) :
    PathDev P × List PathCall :=
  if d.dev.nOpenPaths = 1 then
    (releaseCount (releaseFifos (releaseDevice iface env d)),
      releaseDeviceCalls iface d ++ [.release .wMsg, .release .rMsg, .release .pathCount])
  else if d.dev.nOpenPaths = 0 then
    (releaseCount (releaseFifos d), [.release .wMsg, .release .rMsg, .release .pathCount])
  else (releaseCount d, callEntry (decide (0 ≤ d.dev.nOpenPaths)) (.release .pathCount))

end PcanDriver

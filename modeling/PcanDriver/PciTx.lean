import PcanDriver.TxEncode
import PcanDriver.TxPath

/-!
Transmission by a PCIe FD board (`pcanfd_pci.c`). Frames are written into one of
two DMA pages; a page that is full ends with a link record to the other one, and
the board raises an interrupt when it has followed a link.
-/
namespace PcanDriver

def pciefdTxPageSize : Nat := 2048

/-- `sizeof(struct pcifd_tx_link)`. -/
def pcifdTxLinkSize : Nat := 12

def pciefdMsgLnkTx : U16 := 0x1001

inductive TxRecord where
  | frame (tx : PcanfdTxmsg)
  | link (target : Fin 2)
deriving Repr, DecidableEq

/-- One record that the driver has put into a DMA page, while the board was reading
    `hwPage`. -/
structure TxWrite where
  page : Fin 2
  offset : Nat
  bytes : List U8
  record : TxRecord
  hwPage : Fin 2
deriving Repr, DecidableEq

structure UcanPciPage where
  offset : Nat
  size : Nat
deriving Repr, DecidableEq

/-- The members of `PCI_PORT` that transmission uses. `written` is what has been put
    into the DMA pages since they were set up; `hwPage`, `unfollowed` and `lnkRaised`
    belong to the board: the page it reads, the links it has not reached yet, and the
    LNK interrupts it has raised. -/
structure PciPort where
  txDmaLaddr : BitVec 64
  txPagesFree : Nat
  txPageIndex : Fin 2
  txPages : Vector UcanPciPage 2
  txReqAcc : Nat
  written : List TxWrite
  hwPage : Fin 2
  unfollowed : Nat
  lnkRaised : Nat

abbrev PciDev := Pcandev PciPort

def PciPort.page (port : PciPort) : UcanPciPage := port.txPages[port.txPageIndex]

def PciPort.lbase (port : PciPort) (page : Fin 2) : BitVec 64 :=
  port.txDmaLaddr + BitVec.ofNat 64 (page * pciefdTxPageSize)

/-- `pcifd_dma_init_tx`; leaving the reset state the board reads from page 0. -/
def pcifdDmaInitTx (dev : PciDev) : PciDev :=
  { dev with
    wCANStatus := dev.wCANStatus &&& ~~~canErrQxmtfull
    port := { dev.port with
      txPagesFree := 1
      txPageIndex := 0
      txPages := Vector.replicate 2 ⟨0, pciefdTxPageSize - pcifdTxLinkSize⟩
      written := []
      hwPage := 0
      unfollowed := 0
      lnkRaised := 0 } }

def pcifdEnableTxPath (dev : PciDev) : PciDev :=
  pcanSetTxEngine (if dev.busState ≠ .errorBusoff then pcifdDmaInitTx dev else dev) .stopped

/-- `ucan_encode_msg`: the bytes of the oldest frame and their number. -/
def ucanEncodeMsg (dev : PciDev) (bufferSize : Int) :
    Option (PcanfdTxmsg × List U8) × Int :=
  match dev.writeFifo.oldest with
  | none => (none, -enodata)
  | some tx =>
    if (ucanTxNeeds dev.txIframeDelayUs tx : Int) > bufferSize then (none, -enospc)
    else (some (tx, ucanTxRecord ⟨dev.nChannel, dev.txIframeDelayUs, 0, 0⟩ tx),
      ucanTxNeeds dev.txIframeDelayUs tx)

/-- The channel once a frame is in its page; a pause record counts as a request. -/
def storeFrame (dev : PciDev) (tx : PcanfdTxmsg) (bytes : List U8) (size : Nat) : PciDev :=
  let page := dev.port.page
  { dev with
    writeFifo := dev.writeFifo.dropOldest
    txIframeDelayUs := if dev.txIframeDelayUs > ucanTxpauseDelayMax then ucanTxpauseDelayMax
      else dev.txIframeDelayUs
    txFramesCounter := dev.txFramesCounter + 1
    port := { dev.port with
      txPages := dev.port.txPages.set dev.port.txPageIndex ⟨page.offset + size, page.size⟩
      txReqAcc := dev.port.txReqAcc + if dev.txIframeDelayUs = 0 then 1 else 2
      written := dev.port.written ++ [⟨dev.port.txPageIndex, page.offset, bytes, .frame tx,
        dev.port.hwPage⟩] } }

/-- `struct pcifd_tx_link` to the page at `laddr`. -/
def pcifdTxLink (laddr : BitVec 64) : List U8 :=
  le16 (BitVec.ofNat 16 pcifdTxLinkSize) ++ le16 pciefdMsgLnkTx ++ le32 (laddr.setWidth 32) ++
    le32 ((laddr >>> 32).setWidth 32)

/-- Puts a link at the end of the current page and goes on in the other one. -/
def linkPage (dev : PciDev) : PciDev :=
  let next := 1 - dev.port.txPageIndex
  let size := dev.port.txPages[next].size
  pcanSetTxEngine { dev with
    port := { dev.port with
      txPagesFree := dev.port.txPagesFree - 1
      txPageIndex := next
      txPages := dev.port.txPages.set next ⟨0, size⟩
      written := dev.port.written ++ [⟨dev.port.txPageIndex, dev.port.page.offset,
        pcifdTxLink (dev.port.lbase next), .link next, dev.port.hwPage⟩]
      unfollowed := dev.port.unfollowed + 1 } } .started

structure PciLoop where
  dev : PciDev
  lk : Bool
  err : Int

/-- The loop of `__pcifd_device_write`: a pass takes a frame or a free page. -/
def pciWriteLoop (host : Host) (stack : PcanfdRxmsg) : Nat → PciDev → Bool → PciLoop
  | 0, dev, lk => ⟨dev, lk, 0⟩
  | fuel + 1, dev, lk =>
    match ucanEncodeMsg dev (dev.port.page.size - dev.port.page.offset) with
    | (some (tx, bytes), size) =>
      pciWriteLoop host stack fuel (storeFrame dev tx bytes size.toNat) lk
    | (none, err) =>
      if err ≠ -enospc then ⟨dev, lk, err⟩
      else if dev.port.txPagesFree = 0 then
        ⟨if dev.wCANStatus &&& canErrQxmtfull = 0 then postErrorCtrl host dev stack .txOverflow
          else dev, lk, 0⟩
      else pciWriteLoop host stack fuel (linkPage dev) true

def pcifdDeviceWrite (host : Host) (stack : PcanfdRxmsg) (dev : PciDev) : PciDev × Int :=
  let w := pciWriteLoop host stack (dev.writeFifo.items.length + dev.port.txPagesFree + 1) dev false
  (if w.lk then w.dev else pcanSetTxEngine w.dev .stopped, w.err)

/-- What `pcifd_handle_status` does with the confirmation of the RX barrier. -/
def pcifdHandleBarrier (host : Host) (stack : PcanfdRxmsg) (dev : PciDev) : PciDev :=
  if dev.lockedTxEngineState = .idle then
    (pcifdDeviceWrite host stack (pcifdEnableTxPath dev)).1
  else dev

def takeLnk (dev : PciDev) : PciDev :=
  { dev with port := { dev.port with lnkRaised := dev.port.lnkRaised - 1 } }

def returnPage (dev : PciDev) : PciDev :=
  { dev with port := { dev.port with txPagesFree := dev.port.txPagesFree + 1 } }

/-- The LNK part of `pcifd_irq_handler`. -/
def pcifdLnkIrq (host : Host) (stack : PcanfdRxmsg) (dev : PciDev) : PciDev :=
  let dev := takeLnk dev
  if dev.lockedTxEngineState = .started then
    (pcifdDeviceWrite host stack (pcanClearStatusBit host (returnPage dev) canErrQxmtfull)).1
  else dev

/-- The board reaches the link at the end of its page. -/
def hwFollowLink (dev : PciDev) : PciDev :=
  { dev with port := { dev.port with
    hwPage := 1 - dev.port.hwPage
    unfollowed := dev.port.unfollowed - 1
    lnkRaised := dev.port.lnkRaised + 1 } }

end PcanDriver

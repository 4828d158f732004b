import PcanDriver.TxEncode
import PcanDriver.TxPath

/-!
Transmission by an SJA1000 (`pcan_sja1000.c`): one frame at a time goes into the
chip's transmit buffer, and the transmit interrupt fetches the next.
-/
namespace PcanDriver

/-- One use of the chip's transmit buffer: the frame information, identifier and
    data registers in address order, and the command that requests transmission. -/
structure Sja1000Request where
  frame : List U8
  command : U8
deriving Repr, DecidableEq

/-- The transmit buffer status bit of the chip is clear while `txBusy`. -/
structure Sja1000Port where
  txBusy : Bool
  requests : List Sja1000Request
deriving Repr, DecidableEq

abbrev Sja1000Dev := Pcandev Sja1000Port

def bufferEff : U8 := 0x80
def bufferRtr : U8 := 0x40

def transmissionRequest : U8 := 0x01
def singleShotRequest : U8 := 0x03
def selfRxRequest : U8 := 0x10
def selfRxSsRequest : U8 := 0x12

def sja1000Frame (pf : PcanfdMsg) : List U8 :=
  let ext := pf.flags &&& pcanfdMsgExt ≠ 0
  let fi := pf.dataLen.setWidth 8 ||| (if pf.flags &&& pcanfdMsgRtr ≠ 0 then bufferRtr else 0) |||
    (if ext then bufferEff else 0)
  let localID := if ext then le32 (pf.id <<< 3) else (le32 (pf.id <<< 21)).drop 2
  fi :: localID.reverse ++ pf.data.toList.take pf.dataLen.toNat

def sja1000Command (pf : PcanfdMsg) : U8 :=
  let self := pf.flags &&& pcanfdMsgSlf ≠ 0
  if pf.flags &&& pcanfdMsgSng ≠ 0 then if self then selfRxSsRequest else singleShotRequest
  else if self then selfRxRequest else transmissionRequest

def sja1000WriteMsg (dev : Sja1000Dev) (pf : PcanfdMsg) : Sja1000Dev × Int :=
  (pcanSetTxEngine { dev with port :=
    ⟨true, dev.port.requests ++ [⟨sja1000Frame pf, sja1000Command pf⟩]⟩ } .started, 0)

/-- `__sja1000_write`. -/
def sja1000WriteNext (dev : Sja1000Dev) : Sja1000Dev × Int :=
  match dev.writeFifo.oldest with
  | some tx => sja1000WriteMsg { dev with writeFifo := dev.writeFifo.dropOldest } tx.msg
  | none => (dev, -enodata)

def sja1000Write (dev : Sja1000Dev) : Sja1000Dev × Int :=
  if dev.port.txBusy then (dev, -eio) else sja1000WriteNext dev

/-- The `TRANSMIT_INTERRUPT` branch of `__pcan_sja1000_irqhandler`. The chip has
    released its transmit buffer when it raises the interrupt. -/
def sja1000TransmitInterrupt (dev : Sja1000Dev) : Sja1000Dev :=
  let written := sja1000WriteNext { dev with port := { dev.port with txBusy := false } }
  if written.2 = -enodata then pcanSetTxEngine written.1 .stopped
  else if written.2 = 0 then
    { written.1 with txFramesCounter := written.1.txFramesCounter + 1 }
  else countError written.1 canErrQxmtfull

end PcanDriver

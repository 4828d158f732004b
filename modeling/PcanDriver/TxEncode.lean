import PcanDriver.Lib.Packing
import PcanDriver.Device

/-!
The three packet encoders behind `device_ctrl_msg_encode`: uCAN records
(`pcanfd_ucan.c`), PCAN-USB telegrams (`pcan_usb.c`) and USB-Pro messages
(`pcan_usbpro.c`). Each takes frames out of the transmit FIFO and writes a packet;
bytes of the buffer behind the packet keep their old value.
-/
namespace PcanDriver

def le16 (x : U16) : List U8 := [x.setWidth 8, (x >>> 8).setWidth 8]

def le32 (x : U32) : List U8 :=
  [x.setWidth 8, (x >>> 8).setWidth 8, (x >>> 16).setWidth 8, (x >>> 24).setWidth 8]

/-- What an encoder reads of the channel and its interface besides the FIFO. -/
structure TxContext where
  nChannel : Nat
  txIframeDelayUs : U32
  ucRevision : Nat
  dwTelegramCount : U32
deriving Repr, DecidableEq

/-- `taken` are the frames read from the FIFO, `packed` those the packet holds;
    `bytes` are written from the start of the buffer on and `trailer` into the last
    byte of the packet; `size` is the value left in `*buffer_size`. -/
structure Encoded where
  taken : List PcanfdTxmsg
  packed : List PcanfdTxmsg
  rest : List PcanfdTxmsg
  bytes : List U8
  trailer : Option U8
  size : Nat
  err : Int
  context : TxContext

section Ucan

def pcanFdDlc2len : List Nat := [0, 1, 2, 3, 4, 5, 6, 7, 8, 12, 16, 20, 24, 32, 48, 64]

def pcanDlc2len (canDlc : U8) : Nat := pcanFdDlc2len.getD (canDlc &&& 0x0F).toNat 0

def pcanFdLen2dlc : List U8 :=
  [0, 1, 2, 3, 4, 5, 6, 7, 8,
    9, 9, 9, 9,
    10, 10, 10, 10,
    11, 11, 11, 11,
    12, 12, 12, 12,
    13, 13, 13, 13, 13, 13, 13, 13,
    14, 14, 14, 14, 14, 14, 14, 14, 14, 14, 14, 14, 14, 14, 14, 14,
    15, 15, 15, 15, 15, 15, 15, 15, 15, 15, 15, 15, 15, 15, 15, 15]

def pcanLen2dlc (len : U8) : U8 :=
  if len > 64 then 0xF else pcanFdLen2dlc.getD len.toNat 0

def ucanMsgCanTx : U16 := 0x1000
def ucanMsgCanTxPause : U16 := 0x1002
def ucanTxpauseDelayMax : U32 := 0x3ff

def ucanMsgRtr : U16 := 0x01
def ucanMsgExtId : U16 := 0x02
def ucanMsgHwSrr : U16 := 0x04
def ucanMsgSingleShot : U16 := 0x08
def ucanMsgExtDataLen : U16 := 0x10
def ucanMsgBitrateSwitch : U16 := 0x20
def ucanMsgErrorStateInd : U16 := 0x40
def ucanMsgApiSrr : U16 := 0x80

def align4 (n : Nat) : Nat := (n + 3) / 4 * 4

def ucanTxDlc (tx : PcanfdTxmsg) : U8 := pcanLen2dlc (tx.msg.dataLen.setWidth 8)

/-- `tx_msg_size`: the 20 bytes of `struct ucan_tx_msg` and the data. -/
def ucanTxMsgSize (tx : PcanfdTxmsg) : Nat := align4 (20 + pcanDlc2len (ucanTxDlc tx))

def ucanTxFlags (msg : PcanfdMsg) : U16 :=
  let has := fun (bit : U32) (flag : U16) => if msg.flags &&& bit ≠ 0 then flag else 0
  let ext := has pcanfdMsgExt ucanMsgExtId
  let loop :=
    if msg.flags &&& pcanfdMsgSlf ≠ 0 then ucanMsgHwSrr
    else has pcanfdMsgEcho (ucanMsgHwSrr ||| ucanMsgApiSrr)
  let single := has pcanfdMsgSng ucanMsgSingleShot
  let typed :=
    match msg.type with
    | .canfdMsg => ucanMsgExtDataLen ||| has pcanfdMsgBrs ucanMsgBitrateSwitch |||
        has pcanfdMsgEsi ucanMsgErrorStateInd
    | .can20Msg => has pcanfdMsgRtr ucanMsgRtr
    | _ => 0
  ext ||| loop ||| single ||| typed

def ucanTxCanId (msg : PcanfdMsg) : U32 :=
  if msg.flags &&& pcanfdMsgExt ≠ 0 then msg.id &&& 0x1FFFFFFF else msg.id &&& 0x7FF

def ucanTxData (tx : PcanfdTxmsg) : List U8 :=
  let data := tx.msg.data.toList.take tx.msg.dataLen.toNat
  data ++ List.replicate (ucanTxMsgSize tx - 20 - data.length) 0

/-- `struct ucan_tx_msg`; tags and client are cleared by the memset. -/
def ucanTxMsg (nChannel : Nat) (tx : PcanfdTxmsg) : List U8 :=
  le16 (BitVec.ofNat 16 (ucanTxMsgSize tx)) ++ le16 ucanMsgCanTx ++ le32 0 ++ le32 0 ++
    [(BitVec.ofNat 8 nChannel &&& 0xf) ||| (ucanTxDlc tx <<< 4), 0] ++
    le16 (ucanTxFlags tx.msg) ++ le32 (ucanTxCanId tx.msg) ++ ucanTxData tx

def ucanTxPause (delay : U32) : List U8 :=
  if delay = 0 then []
  else
    let delay := if delay > ucanTxpauseDelayMax then ucanTxpauseDelayMax else delay
    le16 8 ++ le16 ucanMsgCanTxPause ++ le16 (delay.setWidth 16) ++ le16 0

/-- Bytes a frame needs: the result of `ucan_encode_msg` when they are there. -/
def ucanTxNeeds (delay : U32) (tx : PcanfdTxmsg) : Nat :=
  ucanTxMsgSize tx + if delay = 0 then 0 else 8

def ucanTxRecord (context : TxContext) (tx : PcanfdTxmsg) : List U8 :=
  ucanTxMsg context.nChannel tx ++ ucanTxPause context.txIframeDelayUs

def ucanPacking (context : TxContext) (bufferSize : Nat) : Packing PcanfdTxmsg U8 where
  more msgLen := msgLen < bufferSize
  skip _ := false
  fits msgLen tx := msgLen + ucanTxNeeds context.txIframeDelayUs tx ≤ bufferSize
  record := ucanTxRecord context

def clampDelay (context : TxContext) (packed : List PcanfdTxmsg) : TxContext :=
  if packed ≠ [] ∧ context.txIframeDelayUs > ucanTxpauseDelayMax then
    { context with txIframeDelayUs := ucanTxpauseDelayMax }
  else context

/-- A full packet is reported by the size of the last frame put into it. -/
def ucanEncodeResult (context : TxContext) (stop : Packing.Stop) (packed : List PcanfdTxmsg) : Int :=
  match stop with
  | .drained => -enodata
  | .noSpace => -enospc
  | .full => match packed.getLast? with
    | some tx => ucanTxNeeds context.txIframeDelayUs tx
    | none => 0

def ucanEncodeMsgsBuffer (context : TxContext) (fifo : List PcanfdTxmsg) (bufferSize : Nat) :
    Encoded :=
  let filled := Packing.pack (ucanPacking context bufferSize) fifo []
  let msgLen := filled.bytes.length
  if msgLen = 0 then
    ⟨filled.taken, filled.packed, filled.rest, [], none, 0, -enodata, context⟩
  else
    -- a packet that is not entirely filled ends with a record of size 0
    let eor : List U8 := if msgLen < bufferSize then [0, 0, 0, 0] else []
    ⟨filled.taken, filled.packed, filled.rest, filled.bytes ++ eor, none, msgLen + eor.length,
      ucanEncodeResult context filled.stop filled.packed, clampDelay context filled.packed⟩

end Ucan

section PcanUsb

def stlnExtendedId : U8 := 0x20
def stlnRtr : U8 := 0x10
def stlnDataLength : U8 := 0x0F

/-- Firmware before revision 41 does not know self-received frames. -/
def pcanUsbFlags (ucRevision : Nat) (tx : PcanfdTxmsg) : U32 :=
  if ucRevision < 41 then tx.msg.flags &&& ~~~pcanfdMsgSlf else tx.msg.flags

def pcanUsbLen (tx : PcanfdTxmsg) : U8 := tx.msg.dataLen.setWidth 8 &&& stlnDataLength

def pcanUsbStatusLen (flags : U32) (tx : PcanfdTxmsg) : U8 :=
  pcanUsbLen tx ||| (if flags &&& pcanfdMsgRtr ≠ 0 then stlnRtr else 0) |||
    (if flags &&& pcanfdMsgExt ≠ 0 then stlnExtendedId else 0)

def pcanUsbLocalId (flags : U32) (tx : PcanfdTxmsg) : List U8 :=
  let srr : U32 := if flags &&& pcanfdMsgSlf ≠ 0 then 1 else 0
  if flags &&& pcanfdMsgExt ≠ 0 then le32 ((tx.msg.id <<< 3) ||| srr)
  else (le32 ((tx.msg.id <<< 5) ||| srr)).take 2

/-- No more than eight bytes are copied; a longer DLC is filled up with 0. -/
def pcanUsbData (flags : U32) (tx : PcanfdTxmsg) : List U8 :=
  if flags &&& pcanfdMsgRtr ≠ 0 then []
  else (List.range (pcanUsbLen tx).toNat).map fun j =>
    if j < 8 then tx.msg.data.toList.getD j 0 else 0

def pcanUsbRecord (ucRevision : Nat) (tx : PcanfdTxmsg) : List U8 :=
  let flags := pcanUsbFlags ucRevision tx
  [pcanUsbStatusLen flags tx] ++ pcanUsbLocalId flags tx ++ pcanUsbData flags tx ++
    (if flags &&& pcanfdMsgSlf ≠ 0 then [0x80] else [])

/-- 14 bytes below the end another record always fits. -/
def pcanUsbPacking (context : TxContext) (nDataLength : Nat) : Packing PcanfdTxmsg U8 where
  more len := (len : Int) < (nDataLength : Int) - 14
  skip _ := false
  fits _ _ := true
  record := pcanUsbRecord context.ucRevision

def pcanUsbEncodeMessage (context : TxContext) (fifo : List PcanfdTxmsg) (nDataLength : Nat) :
    Encoded :=
  let filled := Packing.pack (pcanUsbPacking context nDataLength) fifo [2, 0]
  let err := if filled.stop = .drained then -enodata else 0
  if filled.bytes.length > 2 then
    let payload := filled.bytes.drop 2
    -- the count of messages goes into byte 1, the telegram counter into the last byte
    ⟨filled.taken, filled.packed, filled.rest,
      2 :: BitVec.ofNat 8 filled.packed.length :: payload,
      some (context.dwTelegramCount.setWidth 8), nDataLength, err,
      { context with dwTelegramCount := context.dwTelegramCount + 1 }⟩
  else ⟨filled.taken, filled.packed, filled.rest, [2, 0], none, 0, err, context⟩

end PcanUsb

section UsbPro

def msgtypeStatus : U32 := 0x80

def dataTypeCanmsgTx8 : U8 := 0x41
def dataTypeCanmsgTx4 : U8 := 0x42
def dataTypeCanmsgTx0 : U8 := 0x43

def pcanUsbproSr : U8 := 0x80

def pcanUsbproDataType (tx : PcanfdTxmsg) : U8 × Nat :=
  if tx.msg.flags &&& pcanfdMsgRtr ≠ 0 ∨ tx.msg.dataLen = 0 then (dataTypeCanmsgTx0, 0)
  else if tx.msg.dataLen ≤ 4 then (dataTypeCanmsgTx4, 4)
  else (dataTypeCanmsgTx8, 8)

def pcanUsbproTxFlags (flags : U32) : U8 :=
  (if flags &&& pcanfdMsgExt ≠ 0 then 0x02 else 0) |||
    (if flags &&& pcanfdMsgRtr ≠ 0 then 0x01 else 0) |||
    (if flags &&& pcanfdMsgSlf ≠ 0 then 0x04 else 0)

/-- `pcan_usbpro_msg_add_rec` of a TX record: its type, client, flags, length and
    channel, id, and no, four or eight data bytes. -/
def pcanUsbproTxRecord (nChannel : Nat) (tx : PcanfdTxmsg) : List U8 :=
  let client := if tx.msg.flags &&& pcanfdMsgSlf ≠ 0 then pcanUsbproSr else 0
  let len := BitVec.ofNat 8 (nChannel * 16) ||| (tx.msg.dataLen.setWidth 8 &&& 0x0f)
  [(pcanUsbproDataType tx).1, client, pcanUsbproTxFlags tx.msg.flags, len] ++
    le32 tx.msg.id ++ tx.msg.data.toList.take (pcanUsbproDataType tx).2

def usbproRecMaxLen : Nat := 16

/-- Frames whose flags have the status bit are read and ignored. -/
def pcanUsbproPacking (context : TxContext) (bufferSize : Nat) : Packing PcanfdTxmsg U8 where
  more len := (len : Int) < (bufferSize : Int) - usbproRecMaxLen
  skip tx := tx.msg.flags &&& msgtypeStatus ≠ 0
  fits _ _ := true
  record := pcanUsbproTxRecord context.nChannel

def pcanUsbproMsgEncode (context : TxContext) (fifo : List PcanfdTxmsg) (bufferSize : Nat) :
    Encoded :=
  if fifo = [] then ⟨[], [], fifo, [], none, 0, -enodata, context⟩
  else if bufferSize < usbproRecMaxLen then ⟨[], [], fifo, [], none, 0, -enospc, context⟩
  else
    let filled := Packing.pack (pcanUsbproPacking context bufferSize) fifo [0, 0, 0, 0]
    let counter := BitVec.ofNat 32 filled.packed.length
    ⟨filled.taken, filled.packed, filled.rest, le32 counter ++ filled.bytes.drop 4,
      none,
      if filled.packed = [] then 0 else filled.bytes.length,
      if filled.stop = .drained then -enodata else 0, context⟩

end UsbPro

inductive UsbFamily where
  | pcanUsb
  | usbPro
  | ucan
deriving Repr, DecidableEq

def deviceCtrlMsgEncode : UsbFamily → TxContext → List PcanfdTxmsg → Nat → Encoded
  | .pcanUsb => pcanUsbEncodeMessage
  | .usbPro => pcanUsbproMsgEncode
  | .ucan => ucanEncodeMsgsBuffer

end PcanDriver

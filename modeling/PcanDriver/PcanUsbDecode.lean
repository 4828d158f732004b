import PcanDriver.UsbproDecode

/-!
`pcan_usb_DecodeMessage` (`pcan_usb.c`): a packet of a PCAN-USB adapter is a number of
records, each a frame or an internal message with one of six functions. Records do not
tell their size; the first timestamp of a packet has 16 bits and the others have 8.
-/
namespace PcanDriver

section Time

/-- `struct pcan_usb_time`: the 16 bits of the adapter's counter are extended here. -/
structure PcanUsbTime where
  ticks16 : U16
  syncTicksInit : U16
  syncTicksLow : U16
  syncTicksHigh : U32
deriving Repr, DecidableEq, Inhabited

def pcanUsbSyncPeriodTick : U16 := 23437

/-- Microseconds of 42.667 to a tick, rounded up, as low and high word. -/
def pcanTicksToTs (ticks : U32) : U32 × U32 :=
  let ts := (ticks.toNat * 42667 + 999) / 1000
  (BitVec.ofNat 32 ts, BitVec.ofNat 32 (ts / 2 ^ 32))

/-- `pcan_sync_decode` into a time that may be uninitialised. -/
def syncDecodeInto {P : Type} (host : Host) (dev : Pcandev P) (ts : U32 × U32)
    (hwtv : PcanTimeval) : PcanTimeval :=
  (pcanSyncDecode dev ts.1 ts.2).getD { hwtv with tsMode := .off, tv := host.now }

/-- A counter below the last synchronisation has wrapped, if the next one would too. -/
def PcanUsbTime.wrapped (t : PcanUsbTime) (ticks : U16) : Bool :=
  ticks < t.syncTicksLow && ticks < pcanUsbSyncPeriodTick &&
    t.syncTicksLow + pcanUsbSyncPeriodTick < t.syncTicksLow

def pcanUpdateTimeStampFromWord {P : Type} (host : Host) (dev : Pcandev P) (t : PcanUsbTime)
    (ticks : U16) (hwtv : PcanTimeval) : PcanUsbTime × PcanTimeval :=
  if t.syncTicksInit = 0 then (t, hwtv)
  else
    let high := if t.wrapped ticks then t.syncTicksHigh + 0x10000 else t.syncTicksHigh
    ({ t with ticks16 := ticks },
      syncDecodeInto host dev (pcanTicksToTs (high + ticks.setWidth 32)) hwtv)

def pcanUpdateTimeStampFromByte {P : Type} (host : Host) (dev : Pcandev P) (t : PcanUsbTime)
    (ticks8 : U8) (hwtv : PcanTimeval) : PcanUsbTime × PcanTimeval :=
  if t.syncTicksInit = 0 then (t, hwtv)
  else
    let hsb : U8 := (t.ticks16 >>> 8).setWidth 8
    let hsb := if ticks8 < t.ticks16.setWidth 8 then hsb + 1 else hsb
    pcanUpdateTimeStampFromWord host dev t (hsb ++ ticks8) hwtv

/-- The adapter's own timestamps are 50 µs late. -/
def pcanUsbSyncTimes {P : Type} (host : Host) (dev : Pcandev P) (t : PcanUsbTime) (ticks : U16) :
    Pcandev P × PcanUsbTime :=
  let t :=
    if t.syncTicksInit ≠ 0 then
      if ticks < t.syncTicksLow then { t with syncTicksHigh := t.syncTicksHigh + 0x10000 } else t
    else { t with syncTicksInit := ticks, ticks16 := ticks }
  let t := { t with syncTicksLow := ticks }
  let ts := pcanTicksToTs (t.syncTicksHigh + ticks.setWidth 32)
  ((pcanSyncTimes host dev ts.1 ts.2 (-50)).1, t)

end Time

section Records

def stlnWithTimestamp : U8 := 0x80
def stlnInternalData : U8 := 0x40

inductive UsbTicks where
  | word (ticks : U16)
  | byte (ticks8 : U8)
deriving Repr, DecidableEq

/-- What follows `ucFunction`, without the bytes that are only skipped. -/
inductive UsbFunction where
  | status (ucNumber : U8) (bytes : List U8)
  | analogValue
  | busLoad (load : U8)
  | onlyTimestamp (ticks : U16)
  | errorFrame (ecc : U8) (counters : Option (U8 × U8))
  | prepared
  | unexpected
deriving Repr, DecidableEq

inductive UsbRecord where
  | canMsg (ucStatusLen : U8) (slf : Bool) (id : U32) (ticks : UsbTicks) (data : List U8)
  | internal (ucStatusLen : U8) (ticks : Option UsbTicks) (function : UsbFunction)
deriving Repr, DecidableEq

/-- Where a record ends and how far its bytes have been looked at. -/
structure Parsed where
  record : UsbRecord
  usedEnd : Nat
  ptr : Nat
  ts8 : Bool

def ucLenOf (ucStatusLen : U8) : Nat := (ucStatusLen &&& stlnDataLength).toNat

def takeTicks (mem : Nat → U8) (ptr : Nat) (ts8 : Bool) : UsbTicks × Nat :=
  if ts8 then (.byte (mem ptr), ptr + 1) else (.word (u16At mem ptr), ptr + 2)

def bytesAt (mem : Nat → U8) (ptr count : Nat) : List U8 :=
  (List.range count).map fun j => mem (ptr + j)

/-- No more than eight data bytes are taken, whatever the length says. The client
    handle of a self-received frame is skipped. -/
def parseCanMsg (ucRevision : Nat) (mem : Nat → U8) (ptr : Nat) (ts8 : Bool) : Parsed :=
  let ucStatusLen := mem ptr
  let ext := ucStatusLen &&& stlnExtendedId ≠ 0
  let len := if ucStatusLen &&& stlnRtr ≠ 0 then 0 else ucLenOf ucStatusLen
  let slf := decide (41 ≤ ucRevision) && decide (mem (ptr + 1) &&& 0x01 ≠ 0)
  let id := if ext then u32At mem (ptr + 1) >>> 3 else (u16At mem (ptr + 1)).setWidth 32 >>> 5
  let stamped := takeTicks mem (ptr + if ext then 5 else 3) ts8
  ⟨.canMsg ucStatusLen slf id stamped.1 (bytesAt mem stamped.2 (min len 8)),
    stamped.2 + min len 8, stamped.2 + len + if slf then 1 else 0, true⟩

/-- The function with the bytes from `ptr` on, the end of those that matter and the end
    of all. A function 5 looks at its bytes whatever the length says. -/
def parseFunction (ucFunction ucNumber : U8) (ucLen : Nat) (mem : Nat → U8) (ptr : Nat) :
    UsbFunction × Nat × Nat :=
  if ucFunction = 1 then
    (.status ucNumber (bytesAt mem ptr (min ucLen 8)), ptr + min ucLen 8, ptr + ucLen)
  else if ucFunction = 2 then (.analogValue, 0, ptr + 2)
  else if ucFunction = 3 then (.busLoad (mem ptr), ptr + 1, ptr + 1)
  else if ucFunction = 4 then (.onlyTimestamp (u16At mem ptr), ptr + 2, ptr + 2)
  else if ucFunction = 5 then
    if ucNumber = 0x80 then
      (.errorFrame (mem ptr) (some (mem (ptr + 1), mem (ptr + 2))), ptr + 3, ptr + ucLen)
    else (.errorFrame (mem ptr) none, ptr + 1, ptr + ucLen)
  else if ucFunction = 10 then (.prepared, 0, ptr)
  else (.unexpected, 0, ptr)

def parseInternal (mem : Nat → U8) (ptr : Nat) (ts8 : Bool) : Parsed :=
  let ucStatusLen := mem ptr
  let ucFunction := mem (ptr + 1)
  let stamped :=
    if ucStatusLen &&& stlnWithTimestamp ≠ 0 then
      let taken := takeTicks mem (ptr + 3) ts8
      (some taken.1, taken.2)
    else (none, ptr + 3)
  let function := parseFunction ucFunction (mem (ptr + 2)) (ucLenOf ucStatusLen) mem stamped.2
  -- `ucNumber` is skipped by a function that has no use for it
  ⟨.internal ucStatusLen stamped.1 function.1,
    max (if stamped.1.isSome then stamped.2 else ptr + 2) function.2.1, function.2.2,
    ts8 || stamped.1.isSome⟩

def parseRecord (ucRevision : Nat) (mem : Nat → U8) (ptr : Nat) (ts8 : Bool) : Parsed :=
  if mem ptr &&& stlnInternalData = 0 then parseCanMsg ucRevision mem ptr ts8
  else parseInternal mem ptr ts8

end Records

section Handlers

structure PcanUsb where
  channel : UsbChannel
  time : PcanUsbTime

def PcanUsb.withDev (usb : PcanUsb) (dev : UsbDev) : PcanUsb :=
  { usb with channel := { usb.channel with dev := dev } }

/-- The time is left as it is without a synchronisation. -/
def PcanUsb.stamp (usb : PcanUsb) (host : Host) (ticks : UsbTicks) (hwtv : PcanTimeval) :
    PcanUsb × PcanTimeval :=
  let stamped := match ticks with
    | .word ticks => pcanUpdateTimeStampFromWord host usb.channel.dev usb.time ticks hwtv
    | .byte ticks8 => pcanUpdateTimeStampFromByte host usb.channel.dev usb.time ticks8 hwtv
  ({ usb with time := stamped.1 }, stamped.2)

def PcanUsb.stampIf (usb : PcanUsb) (host : Host) (ticks : Option UsbTicks) (hwtv : PcanTimeval) :
    PcanUsb × PcanTimeval :=
  match ticks with
  | some ticks => usb.stamp host ticks hwtv
  | none => (usb, hwtv)

/-- `posts` are the messages given to `pcan_chardev_rx`. -/
structure UsbHandled where
  usb : PcanUsb
  posts : List PcanfdRxmsg
  err : Int

def PcanUsb.post (usb : PcanUsb) (host : Host) (rx : PcanfdRxmsg) : UsbHandled :=
  let posted := pcanChardevRx host usb.channel.dev rx
  ⟨usb.withDev posted.1, [rx], posted.2.2⟩

def stampFlags : U32 := pcanfdHwtimestamp ||| pcanfdTimestamp

def pcanUsbFrame (ucStatusLen : U8) (slf : Bool) (id : U32) (data : List U8)
    (hwtv : PcanTimeval) : PcanfdRxmsg :=
  { msg := { PcanfdMsg.zero with
      type := .can20Msg
      dataLen := BitVec.ofNat 16 (min (ucLenOf ucStatusLen) 8)
      id := id
      flags := stampFlags ||| flagIf (ucStatusLen &&& stlnRtr ≠ 0) pcanfdMsgRtr |||
        flagIf slf pcanfdMsgSlf ||| flagIf (ucStatusLen &&& stlnExtendedId ≠ 0) pcanfdMsgExt
      data := Vector.ofFn fun j => data.getD j 0 }
    hwtv := hwtv }

def eilseq : Int := 84

/-- The switch over `ucFunction`; nothing is done about an unexpected one. -/
def handleFunction (env : DecodeEnv) (usb : PcanUsb) (rx : PcanfdRxmsg) (function : UsbFunction) :
    PcanUsb × PcanfdRxmsg :=
  let dev := usb.channel.dev
  let write := pcanUsbWrite .pcanUsb env.submit env.host
  match function with
  | .status ucNumber bytes =>
    let errors := pcanUsbCtrlErrors dev rx ucNumber
    let handled := handleBusBits write errors.1 errors.2 (ucNumber &&& busOff ≠ 0)
      (ucNumber &&& busLight ≠ 0) (ucNumber &&& busHeavy ≠ 0)
    (usb.withDev handled.1, handled.2.withData bytes)
  | .busLoad load => (usb.withDev { dev with busLoad := load.toNat }, rx)
  | .onlyTimestamp ticks =>
    let synced := pcanUsbSyncTimes env.host dev usb.time ticks
    let usb := { usb.withDev synced.1 with time := synced.2 }
    -- the first synchronisation tells that the bus is active
    if synced.1.busState = .unknown then
      let handled := pcanHandleErrorActive write synced.1 rx
      (usb.withDev handled.1, handled.2)
    else (usb, rx)
  | .errorFrame ecc counters =>
    let dev := match counters with
      | some (rxErr, txErr) => { dev with rxErrorCounter := rxErr, txErrorCounter := txErr }
      | none => dev
    let handled := pcanHandleErrorMsg dev rx (((ecc &&& 0xc0) >>> 6).setWidth 32) (ecc &&& 0x1f)
      (ecc &&& 0x20 ≠ 0) false
    (usb.withDev handled.1, handled.2)
  | .analogValue | .prepared | .unexpected => (usb, rx)

/-- The message of an internal record before its function is looked at. -/
def internalMsg (ucStatusLen : U8) (stamped : Bool) (hwtv : PcanTimeval) : PcanfdRxmsg :=
  { msg := { PcanfdMsg.zero with
      dataLen := BitVec.ofNat 16 (min (ucLenOf ucStatusLen) 8)
      flags := flagIf stamped stampFlags }
    hwtv := hwtv }

def handleInternal (env : DecodeEnv) (usb : PcanUsb) (rx : PcanfdRxmsg) (function : UsbFunction) :
    UsbHandled :=
  if function = .unexpected then ⟨usb, [], -eilseq⟩
  else
    let handled := handleFunction env usb rx function
    if handled.2.msg.type = .nop then ⟨handled.1, [], 0⟩
    else handled.1.post env.host handled.2

/-- One pass of the loop behind the bytes of the record. -/
def handleRecord (env : DecodeEnv) (usb : PcanUsb) : UsbRecord → UsbHandled
  | .canMsg ucStatusLen slf id ticks data =>
    let stamped := usb.stamp env.host ticks env.stack.hwtv
    stamped.1.post env.host (pcanUsbFrame ucStatusLen slf id data stamped.2)
  | .internal ucStatusLen ticks function =>
    let stamped := usb.stampIf env.host ticks env.stack.hwtv
    handleInternal env stamped.1 (internalMsg ucStatusLen ticks.isSome stamped.2) function

end Handlers

section Packet

/-- `records` are the places of the records that the loop has come to, each with `ts8`. -/
structure UsbPacket where
  usb : PcanUsb
  posts : List PcanfdRxmsg
  records : List (Nat × Bool)
  err : Int

def PcanUsb.failed (usb : PcanUsb) (err : Int) : PcanUsb :=
  { usb with channel := { usb.channel with
      dev := { usb.channel.dev with dwErrorCounter := usb.channel.dev.dwErrorCounter + 1 }
      nLastError := err } }

/-- Firmware up to revision 3 may exceed the packet by a byte. -/
def exceedsPacket (ucRevision ptr lCurrentLength : Nat) : Bool :=
  decide (lCurrentLength < ptr) && (decide (3 < ucRevision) || decide (lCurrentLength + 1 < ptr))

/-- The loop with `ucMsgLen` records left, of which the next is number `i`. -/
def decodeRecords (ucRevision : Nat) (env : Nat → DecodeEnv) (mem : Nat → U8)
    (lCurrentLength : Nat) : Nat → Nat → Nat → Bool → PcanUsb → UsbPacket
  | 0, _, _, _, usb => ⟨usb, [], [], 0⟩
  | ucMsgLen + 1, i, ptr, ts8, usb =>
    let parsed := parseRecord ucRevision mem ptr ts8
    let handled := handleRecord (env i) usb parsed.record
    if handled.err < 0 then
      ⟨handled.usb.failed handled.err, handled.posts, [(ptr, ts8)], handled.err⟩
    else if exceedsPacket ucRevision parsed.ptr lCurrentLength then
      ⟨handled.usb.failed (-efault), handled.posts, [(ptr, ts8)], -efault⟩
    else
      let rest := decodeRecords ucRevision env mem lCurrentLength ucMsgLen (i + 1) parsed.ptr
        parsed.ts8 handled.usb
      { rest with posts := handled.posts ++ rest.posts, records := (ptr, ts8) :: rest.records }

def pcanUsbDecodeMessage (env : Nat → DecodeEnv) (usb : PcanUsb) (mem : Nat → U8)
    (lCurrentLength : Nat) : UsbPacket :=
  let usb := { usb with channel := usb.channel.interrupted }
  if lCurrentLength = 0 then ⟨usb, [], [], 0⟩
  else
    decodeRecords usb.channel.dev.port.ucRevision env mem lCurrentLength (mem 1).toNat 0 2 false usb

end Packet

end PcanDriver

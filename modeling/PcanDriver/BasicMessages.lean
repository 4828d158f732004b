import PcanDriver.BasicChannels
import PcanDriver.DataLengths

/-!
Messages of PCAN-Basic (`pcbcore.c`). One function reads and one writes a message of the
driver; both have the form of CAN FD, and the classic calls convert it from and to their own
structure, which has room for eight bytes.
-/
namespace PcanDriver
variable {S : Type}

section Source

def pcanMessageStandard : U8 := 0x00
def pcanMessageRtr : U8 := 0x01
def pcanMessageExtended : U8 := 0x02
def pcanMessageFd : U8 := 0x04
def pcanMessageBrs : U8 := 0x08
def pcanMessageEsi : U8 := 0x10
def pcanMessageErrframe : U8 := 0x40
def pcanMessageStatus : U8 := 0x80

def pcanErrorBusoff : Status := 0x00010
def pcanErrorQrcvempty : Status := 0x00020
def pcanErrorQxmtfull : Status := 0x00080
def pcanErrorIllhw : Status := 0x01400

def pcanfdMsgStd : U32 := 0x00000000

structure TPCANMsgFD where
  id : U32
  msgtype : U8
  dlc : U8
  data : Vector U8 64
deriving Repr, DecidableEq

structure TPCANTimestamp where
  millis : U32
  millisOverflow : U16
  micros : U16
deriving Repr, DecidableEq

structure Memcpy where
  source : Nat
  target : Nat
  length : Nat
deriving Repr, DecidableEq

def Memcpy.Inside (copy : Memcpy) : Prop := copy.length ≤ copy.source ∧ copy.length ≤ copy.target

def pcanbasicErrnoToStatus (err : Nat) : Status :=
  if err = 11 then pcanErrorCaution
  else if err = 9 then pcanErrorIllhw
  else if err = 100 then pcanErrorBusoff
  else if err = 74 ∨ err = 22 then pcanErrorIllparamval
  else if err = 95 then pcanErrorIlloperation
  else pcanErrorUnknown

/-- `again` is the status of the context for `EAGAIN`. -/
def pcanbasicErrnoToStatusCtx (err : Nat) (again : Status) : Status :=
  if err = 11 then again else pcanbasicErrnoToStatus err

def pcanbasicGetFdDlc (len : Nat) : U8 :=
  if len ≤ 8 then BitVec.ofNat 8 len
  else if len ≤ 12 then 9
  else if len ≤ 16 then 10
  else if len ≤ 20 then 11
  else if len ≤ 24 then 12
  else if len ≤ 32 then 13
  else if len ≤ 48 then 14
  else 15

def pcanbasicGetFdLen (dlc : U8) : Nat :=
  let dlc := dlc &&& 0x0F
  if dlc ≤ 8 then dlc.toNat
  else if dlc = 9 then 12
  else if dlc = 10 then 16
  else if dlc = 11 then 20
  else if dlc = 12 then 24
  else if dlc = 13 then 32
  else if dlc = 14 then 48
  else 64

def typeIf (condition : Prop) [Decidable condition] (bit : U8) : U8 :=
  if condition then bit else 0

/-- A frame: the flag of the driver is or'ed into `MSGTYPE` for ESI, and cut off. -/
def frameOf (msg : PcanfdMsg) : TPCANMsgFD where
  id := msg.id
  dlc := pcanbasicGetFdDlc msg.dataLen.toNat
  msgtype := typeIf (msg.type = .canfdMsg) pcanMessageFd |||
    (if msg.flags &&& pcanfdMsgExt = pcanfdMsgExt then pcanMessageExtended
      else pcanMessageStandard) |||
    typeIf (msg.flags &&& pcanfdMsgRtr = pcanfdMsgRtr) pcanMessageRtr |||
    typeIf (msg.flags &&& pcanfdMsgBrs = pcanfdMsgBrs) pcanMessageBrs |||
    typeIf (msg.flags &&& pcanfdMsgEsi = pcanfdMsgEsi) (pcanfdMsgEsi.setWidth 8)
  data := Vector.ofFn fun j => if j.val < msg.dataLen.toNat then msg.data.get j else 0

theorem first_byte : 0 < 64 := by decide

/-- The message that a message of the driver is converted to. The number of an error is
    that of a bit. -/
def messageOf (msg : PcanfdMsg) : TPCANMsgFD :=
  match msg.type with
  | .canfdMsg | .can20Msg => frameOf msg
  | .status =>
    { id := msg.id, msgtype := pcanMessageStatus, dlc := 4
      data := (Vector.replicate 64 0).set 3 (legacyStatus msg.id) }
  | .errorMsg =>
    { id := 1 <<< msg.id.toNat, msgtype := pcanMessageErrframe
      dlc := pcanbasicGetFdDlc msg.dataLen.toNat
      data := ((((Vector.replicate 64 0).set 0
        (if msg.flags &&& pcanfdErrmsgRx = pcanfdErrmsgRx then 1 else 0) first_byte).set 1
        (msg.data.get 0)).set 2 msg.ctrlrData.rxErrCnt).set 3 msg.ctrlrData.txErrCnt }
  | _ =>
    { id := msg.id, msgtype := 0, dlc := pcanbasicGetFdDlc msg.dataLen.toNat
      data := Vector.replicate 64 0 }

/-- `memcpy(message->DATA, msg.data, msg.data_len)`. -/
def messageCopies (msg : PcanfdMsg) : List Memcpy :=
  if msg.type.isCan then [⟨64, 64, msg.dataLen.toNat⟩] else []

/-- What a read returns; `message` is what the structure holds afterwards, `t` the time if
    it was copied. -/
structure BasicRead (S : Type) where
  b : Pcanbasic S
  status : Status
  message : Option TPCANMsgFD
  t : Option Timeval
  copies : List Memcpy

def pcanbasicReadCommon (sys : System S) (b : Pcanbasic S) (channel : U16)
    (message : Option TPCANMsgFD) : BasicRead S :=
  match message with
  | none => ⟨b, pcanErrorIllparamval, none, none, []⟩
  | some before =>
    match pcanbasicGetChannel sys b channel true with
    | (b, none) => ⟨b, pcanErrorInitialize, before, none, []⟩
    | (b, some pchan) =>
      match sys.recvMsg b.system pchan.fd with
      | (system, .error err) =>
        ⟨{ b with system }, pcanbasicErrnoToStatusCtx err pcanErrorQrcvempty, before, none, []⟩
      | (system, .ok msg) =>
        let b := { b with system }
        if pchan.rcvStatus = pcanParameterOff then ⟨b, pcanErrorQrcvempty, before, none, []⟩
        else if msg.type = .status ∧ pchan.busoffReset ≠ 0 ∧ msg.flags &&& pcanfdErrorBus ≠ 0 ∧
            msg.id = PcanfdStatus.errorBusoff.code then
          let unread : TPCANMsgFD :=
            ⟨msg.id, 0, pcanbasicGetFdDlc msg.dataLen.toNat, Vector.replicate 64 0⟩
          ⟨(pcanbasicReset sys b channel).b, pcanErrorBusoff, unread, none, []⟩
        else ⟨b, pcanErrorOk, messageOf msg, msg.timestamp, messageCopies msg⟩

/-- What a write returns; `sent` is the message given to `pcanfd_send_msg`. -/
structure BasicWrite (S : Type) where
  b : Pcanbasic S
  status : Status
  sent : Option PcanfdMsg
  copies : List Memcpy

def pcanfdMsgOf (message : TPCANMsgFD) : PcanfdMsg :=
  let dataLen := pcanbasicGetFdLen message.dlc
  { PcanfdMsg.zero with
    id := message.id
    dataLen := BitVec.ofNat 16 dataLen
    data := Vector.ofFn fun j => if j.val < dataLen then message.data.get j else 0
    type := if message.msgtype &&& pcanMessageFd = pcanMessageFd then .canfdMsg else .can20Msg
    flags := (if message.msgtype &&& pcanMessageExtended = pcanMessageExtended then pcanfdMsgExt
        else pcanfdMsgStd) |||
      (if message.msgtype &&& pcanMessageRtr = pcanMessageRtr then pcanfdMsgRtr else 0) |||
      (if message.msgtype &&& pcanMessageBrs = pcanMessageBrs then pcanfdMsgBrs else 0) }

/-- The status is compared with the number of a bus state. -/
def pcanbasicWriteCommon (sys : System S) (b : Pcanbasic S) (channel : U16)
    (message : Option TPCANMsgFD) : BasicWrite S :=
  match message with
  | none => ⟨b, pcanErrorIllparamval, none, []⟩
  | some message =>
    match pcanbasicGetChannel sys b channel true with
    | (b, none) => ⟨b, pcanErrorInitialize, none, []⟩
    | (b, some pchan) =>
      let msg := pcanfdMsgOf message
      let copies := [⟨64, 64, pcanbasicGetFdLen message.dlc⟩]
      let sent := sys.sendMsg b.system pchan.fd msg
      let b := { b with system := sent.1 }
      if sent.2 = 0 then ⟨b, pcanErrorOk, some msg, copies⟩
      else
        let sts := pcanbasicErrnoToStatusCtx sent.2 pcanErrorQxmtfull
        let b :=
          if sts = PcanfdStatus.errorBusoff.code ∧ pchan.busoffReset ≠ 0 then
            (pcanbasicReset sys b channel).b
          else b
        ⟨b, sts, some msg, copies⟩

/-- The local message of a classic write. A `LEN` above eight has the bytes behind the
    caller's structure copied, whatever they are. -/
def fdMessageOf (message : TPCANMsg) (behind : Nat → U8) : TPCANMsgFD where
  id := message.id
  dlc := message.len
  msgtype := message.msgtype
  data := Vector.ofFn fun j =>
    if j.val < message.len.toNat then (message.data[j.val]?).getD (behind j) else 0

def pcanbasicWrite (sys : System S) (b : Pcanbasic S) (channel : U16)
    (message : Option TPCANMsg) (behind : Nat → U8) : BasicWrite S :=
  match message with
  | none => ⟨b, pcanErrorIllparamval, none, []⟩
  | some message =>
    let done := pcanbasicWriteCommon sys b channel (some (fdMessageOf message behind))
    { done with copies := ⟨8, 64, message.len.toNat⟩ :: done.copies }

def timestampOf (t : Timeval) : TPCANTimestamp :=
  let millis : BitVec 64 := BitVec.ofInt 64 t.tvSec * 1000 + BitVec.ofInt 64 (t.tvUsec.tdiv 1000)
  { micros := BitVec.ofInt 16 (t.tvUsec.tmod 1000)
    millis := millis.setWidth 32
    millisOverflow :=
      if (millis.setWidth 32).setWidth 64 ≠ millis then
        ((millis - (millis.setWidth 32).setWidth 64) >>> 32).setWidth 16
      else 0 }

structure ClassicRead (S : Type) where
  b : Pcanbasic S
  status : Status
  message : Option TPCANMsg
  timestamp : Option TPCANTimestamp
  copies : List Memcpy

/-- `stack` is what the local message holds before. -/
def pcanbasicRead (sys : System S) (b : Pcanbasic S) (channel : U16) (message : Option TPCANMsg)
    (stack : TPCANMsgFD) : ClassicRead S :=
  match message with
  | none => ⟨b, pcanErrorIllparamval, none, none, []⟩
  | some before =>
    let read := pcanbasicReadCommon sys b channel (some stack)
    if read.status = pcanErrorOk then
      let msgfd := read.message.getD stack
      ⟨read.b, read.status,
        some { id := msgfd.id, msgtype := msgfd.msgtype, len := msgfd.dlc
               data := Vector.ofFn fun j => msgfd.data.get (j.castLE (by decide)) },
        read.t.map timestampOf, read.copies ++ [⟨64, 8, 8⟩]⟩
    else ⟨read.b, read.status, before, none, read.copies⟩

end Source

section Statement

def Has {n : Nat} (word bits : BitVec n) : Prop := word &&& bits = bits

instance {n : Nat} (word bits : BitVec n) : Decidable (Has word bits) :=
  inferInstanceAs (Decidable (_ = _))

def TPCANMsgFD.ValidDlc (message : TPCANMsgFD) : Prop :=
  message.dlc ≤ if Has message.msgtype pcanMessageFd then 15 else 8

instance (message : TPCANMsgFD) : Decidable message.ValidDlc := inferInstanceAs (Decidable (_ ≤ _))

/-- What a message must still say when it has been sent and received. -/
structure SameMessage (message received : TPCANMsgFD) : Prop where
  id : received.id = message.id
  dlc : received.dlc = message.dlc
  bits : ∀ bit ∈ [pcanMessageExtended, pcanMessageRtr, pcanMessageFd, pcanMessageBrs,
    pcanMessageEsi], Has received.msgtype bit ↔ Has message.msgtype bit
  data : ∀ j : Fin 64, j.val < pcanbasicGetFdLen message.dlc →
    received.data.get j = message.data.get j

structure SameFlags (msg : PcanfdMsg) (received : TPCANMsgFD) : Prop where
  fd : Has received.msgtype pcanMessageFd ↔ msg.type = .canfdMsg
  flags : ∀ pair ∈ [(pcanMessageExtended, pcanfdMsgExt), (pcanMessageRtr, pcanfdMsgRtr),
    (pcanMessageBrs, pcanfdMsgBrs), (pcanMessageEsi, pcanfdMsgEsi)],
    Has received.msgtype pair.1 ↔ Has msg.flags pair.2

def BasicRead.Delivers (read : BasicRead S) (good : TPCANMsgFD → Prop) : Prop :=
  read.status = pcanErrorOk ∧ ∃ got, read.message = some got ∧ good got

/-- A classic write stays inside of its structures, and does not take more than eight bytes. -/
structure ClassicWriteInside (message : TPCANMsg) (result : BasicWrite S) : Prop where
  inside : ∀ copy ∈ result.copies, copy.Inside
  refused : 8 < message.len → result.sent = none ∧ result.status ≠ pcanErrorOk

/-- A classic read stays inside of its structures, and returns bytes of the message only. -/
structure ClassicReadInside (m : PcanfdMsg) (result : ClassicRead S) : Prop where
  inside : ∀ copy ∈ result.copies, copy.Inside
  message : result.status = pcanErrorOk → ∃ got, result.message = some got ∧ got.len ≤ 8 ∧
    ∀ j : Fin 8, j.val < got.len.toNat →
      got.data.get j = (messageOf m).data.get (j.castLE (by decide)) ∧
      (m.type.isCan = true → got.data.get j = m.data.get (j.castLE (by decide)))

end Statement

section Conversion

theorem getFd_roundTrip : ∀ dlc : U8, dlc ≤ 15 → pcanbasicGetFdDlc (pcanbasicGetFdLen dlc) = dlc := by
  decide

theorem getFdLen_le (dlc : U8) : pcanbasicGetFdLen dlc ≤ 64 := by
  revert dlc
  decide

theorem getFdDlc_le (len : Nat) : pcanbasicGetFdDlc len ≤ 8 ↔ len ≤ 8 := by
  unfold pcanbasicGetFdDlc
  split
  next short =>
    have small : ∀ len ≤ 8, BitVec.ofNat 8 len ≤ 8 := by decide
    exact ⟨fun _ => short, fun _ => small len short⟩
  next long =>
    refine ⟨fun le => absurd le ?_, fun le => absurd le long⟩
    split_ifs <;> decide

/-- The bits that a conversion makes of the type and four flags. -/
def typeBits (fd ext rtr brs : Bool) : U8 :=
  typeIf (fd = true) pcanMessageFd ||| typeIf (ext = true) pcanMessageExtended |||
    typeIf (rtr = true) pcanMessageRtr ||| typeIf (brs = true) pcanMessageBrs

theorem typeBits_has : ∀ fd ext rtr brs : Bool,
    (Has (typeBits fd ext rtr brs) pcanMessageFd ↔ fd = true) ∧
    (Has (typeBits fd ext rtr brs) pcanMessageExtended ↔ ext = true) ∧
    (Has (typeBits fd ext rtr brs) pcanMessageRtr ↔ rtr = true) ∧
    (Has (typeBits fd ext rtr brs) pcanMessageBrs ↔ brs = true) ∧
    ¬Has (typeBits fd ext rtr brs) pcanMessageEsi := by
  decide

theorem typeIf_zero (condition : Prop) [Decidable condition] : typeIf condition 0#8 = 0#8 := by
  unfold typeIf
  split <;> rfl

theorem frameOf_msgtype (msg : PcanfdMsg) : (frameOf msg).msgtype =
    typeBits (msg.type = .canfdMsg) (Has msg.flags pcanfdMsgExt) (Has msg.flags pcanfdMsgRtr)
      (Has msg.flags pcanfdMsgBrs) := by
  have cut : pcanfdMsgEsi.setWidth 8 = 0#8 := by decide
  unfold frameOf typeBits
  rw [cut, typeIf_zero, BitVec.or_zero]
  simp only [decide_eq_true_eq]
  rfl

theorem frameOf_has (msg : PcanfdMsg) :
    (Has (frameOf msg).msgtype pcanMessageFd ↔ msg.type = .canfdMsg) ∧
    (Has (frameOf msg).msgtype pcanMessageExtended ↔ Has msg.flags pcanfdMsgExt) ∧
    (Has (frameOf msg).msgtype pcanMessageRtr ↔ Has msg.flags pcanfdMsgRtr) ∧
    (Has (frameOf msg).msgtype pcanMessageBrs ↔ Has msg.flags pcanfdMsgBrs) ∧
    ¬Has (frameOf msg).msgtype pcanMessageEsi := by
  have bits := typeBits_has (msg.type = .canfdMsg) (Has msg.flags pcanfdMsgExt)
    (Has msg.flags pcanfdMsgRtr) (Has msg.flags pcanfdMsgBrs)
  simp only [decide_eq_true_eq] at bits
  rw [frameOf_msgtype]
  exact bits

/-- The flags that a conversion makes of three bits of the message. -/
def sentFlags (ext rtr brs : Bool) : U32 :=
  (if ext then pcanfdMsgExt else pcanfdMsgStd) ||| (if rtr then pcanfdMsgRtr else 0) |||
    (if brs then pcanfdMsgBrs else 0)

theorem sentFlags_has : ∀ ext rtr brs : Bool,
    (Has (sentFlags ext rtr brs) pcanfdMsgExt ↔ ext = true) ∧
    (Has (sentFlags ext rtr brs) pcanfdMsgRtr ↔ rtr = true) ∧
    (Has (sentFlags ext rtr brs) pcanfdMsgBrs ↔ brs = true) := by
  decide

theorem pcanfdMsgOf_has (message : TPCANMsgFD) :
    (Has (pcanfdMsgOf message).flags pcanfdMsgExt ↔ Has message.msgtype pcanMessageExtended) ∧
    (Has (pcanfdMsgOf message).flags pcanfdMsgRtr ↔ Has message.msgtype pcanMessageRtr) ∧
    (Has (pcanfdMsgOf message).flags pcanfdMsgBrs ↔ Has message.msgtype pcanMessageBrs) := by
  have flags := sentFlags_has (Has message.msgtype pcanMessageExtended)
    (Has message.msgtype pcanMessageRtr) (Has message.msgtype pcanMessageBrs)
  have same : (pcanfdMsgOf message).flags = sentFlags (Has message.msgtype pcanMessageExtended)
      (Has message.msgtype pcanMessageRtr) (Has message.msgtype pcanMessageBrs) := by
    unfold sentFlags
    simp only [decide_eq_true_eq]
    rfl
  simp only [decide_eq_true_eq] at flags
  rw [same]
  exact flags

theorem pcanfdMsgOf_type (message : TPCANMsgFD) :
    (pcanfdMsgOf message).type = .canfdMsg ↔ Has message.msgtype pcanMessageFd := by
  unfold pcanfdMsgOf
  dsimp only
  split
  next fd => exact ⟨fun _ => fd, fun _ => rfl⟩
  next classic => exact ⟨nofun, fun fd => absurd fd classic⟩

theorem pcanfdMsgOf_isCan (message : TPCANMsgFD) : (pcanfdMsgOf message).type.isCan = true := by
  unfold pcanfdMsgOf
  dsimp only
  split <;> rfl

theorem pcanfdMsgOf_dataLen (message : TPCANMsgFD) :
    (pcanfdMsgOf message).dataLen.toNat = pcanbasicGetFdLen message.dlc := by
  have short := getFdLen_le message.dlc
  exact Nat.mod_eq_of_lt (by omega)

theorem messageOf_frame {msg : PcanfdMsg} (can : msg.type.isCan = true) :
    messageOf msg = frameOf msg := by
  unfold messageOf
  cases type : msg.type <;> rw [type] at can <;> first | rfl | cases can

theorem sameMessage_frameOf {message : TPCANMsgFD} (valid : message.ValidDlc) :
    SameMessage message (frameOf (pcanfdMsgOf message)) ↔ ¬Has message.msgtype pcanMessageEsi := by
  obtain ⟨fd, ext, rtr, brs, esi⟩ := frameOf_has (pcanfdMsgOf message)
  obtain ⟨sentExt, sentRtr, sentBrs⟩ := pcanfdMsgOf_has message
  constructor
  · intro same has
    exact esi ((same.bits pcanMessageEsi (by decide)).mpr has)
  · intro clear
    refine ⟨rfl, ?_, ?_, ?_⟩
    · have short : message.dlc ≤ 15 := by
        unfold TPCANMsgFD.ValidDlc at valid
        split at valid
        · exact valid
        · exact BitVec.le_trans valid (by decide)
      have length := congrArg pcanbasicGetFdDlc (pcanfdMsgOf_dataLen message)
      exact length.trans (getFd_roundTrip message.dlc short)
    · simp only [List.forall_mem_cons]
      exact ⟨ext.trans sentExt, rtr.trans sentRtr, fd.trans (pcanfdMsgOf_type message),
        brs.trans sentBrs, ⟨fun has => absurd has esi, fun has => absurd has clear⟩, nofun⟩
    · intro j inside
      have received : (frameOf (pcanfdMsgOf message)).data.get j =
          if j.val < (pcanfdMsgOf message).dataLen.toNat then (pcanfdMsgOf message).data.get j
          else 0 := Vector.getElem_ofFn j.isLt
      have sent : (pcanfdMsgOf message).data.get j =
          if j.val < pcanbasicGetFdLen message.dlc then message.data.get j else 0 :=
        Vector.getElem_ofFn j.isLt
      rw [received, pcanfdMsgOf_dataLen, if_pos inside, sent, if_pos inside]

theorem sameFlags_frameOf (msg : PcanfdMsg) :
    SameFlags msg (frameOf msg) ↔ ¬Has msg.flags pcanfdMsgEsi := by
  obtain ⟨fd, ext, rtr, brs, esi⟩ := frameOf_has msg
  constructor
  · intro same has
    exact esi ((same.flags (pcanMessageEsi, pcanfdMsgEsi) (by simp)).mpr has)
  · intro clear
    refine ⟨fd, ?_⟩
    simp only [List.forall_mem_cons]
    exact ⟨ext, rtr, brs, ⟨fun has => absurd has esi, fun has => absurd has clear⟩, nofun⟩

end Conversion

section Calls
variable {sys : System S} {b : Pcanbasic S} {channel : U16} {pchan : PcanbasicChannel} {s : S}
  {m : PcanfdMsg}

theorem pcanbasicWriteCommon_sent {given : TPCANMsgFD}
    (sent : (pcanbasicWriteCommon sys b channel (some given)).sent = some m) :
    m = pcanfdMsgOf given := by
  unfold pcanbasicWriteCommon at sent
  dsimp only at sent
  split at sent
  next => cases sent
  next =>
    split at sent
    · exact (Option.some.inj sent).symm
    · exact (Option.some.inj sent).symm

/-- A bus-off that the channel is reset for is not delivered. -/
def resetsChannel (pchan : PcanbasicChannel) (m : PcanfdMsg) : Prop :=
  m.type = .status ∧ pchan.busoffReset ≠ 0 ∧ m.flags &&& pcanfdErrorBus ≠ 0 ∧
    m.id = PcanfdStatus.errorBusoff.code

theorem empty_fails : pcanErrorQrcvempty ≠ pcanErrorOk := by decide

theorem busoff_fails : pcanErrorBusoff ≠ pcanErrorOk := by decide

theorem pcanbasicReadCommon_received
    (opened : (pcanbasicGetChannel sys b channel true).2 = some pchan)
    (received : sys.recvMsg (pcanbasicGetChannel sys b channel true).1.system pchan.fd =
      (s, .ok m)) (before : TPCANMsgFD) :
    let read := pcanbasicReadCommon sys b channel (some before)
    ((pchan.rcvStatus = pcanParameterOff ∨ resetsChannel pchan m) ∧ read.status ≠ pcanErrorOk ∧
        read.copies = []) ∨
      (pchan.rcvStatus ≠ pcanParameterOff ∧ read.status = pcanErrorOk ∧
        read.message = some (messageOf m) ∧ read.copies = messageCopies m) := by
  unfold pcanbasicReadCommon
  generalize pcanbasicGetChannel sys b channel true = got at opened received
  obtain ⟨bs, found⟩ := got
  obtain rfl : found = some pchan := opened
  dsimp only at received ⊢
  rw [received]
  dsimp only
  split
  next off => exact .inl ⟨.inl off, empty_fails, rfl⟩
  next on =>
    split
    next resets => exact .inl ⟨.inr resets, busoff_fails, rfl⟩
    next => exact .inr ⟨on, rfl, rfl, rfl⟩

theorem resetsChannel_type (resets : resetsChannel pchan m) : m.type = .status := resets.1

theorem delivers_frame
    (opened : (pcanbasicGetChannel sys b channel true).2 = some pchan)
    (receives : pchan.rcvStatus ≠ pcanParameterOff)
    (received : sys.recvMsg (pcanbasicGetChannel sys b channel true).1.system pchan.fd =
      (s, .ok m)) (before : TPCANMsgFD) (can : m.type.isCan = true) (good : TPCANMsgFD → Prop) :
    (pcanbasicReadCommon sys b channel (some before)).Delivers good ↔ good (frameOf m) := by
  rcases pcanbasicReadCommon_received opened received before with ⟨lost, -⟩ | ⟨-, ok, message, -⟩
  · rcases lost with off | resets
    · exact absurd off receives
    · rw [resetsChannel_type resets] at can
      cases can
  · rw [messageOf_frame can] at message
    constructor
    · rintro ⟨-, got, same, well⟩
      obtain rfl := Option.some.inj (message.symm.trans same)
      exact well
    · exact fun well => ⟨ok, _, message, well⟩

/-- A message that is sent and received stays the same exactly if it has no ESI bit, and a
    frame is read with its flags exactly if ESI is not one of them. -/
theorem basic_conversion_iff
    (opened : (pcanbasicGetChannel sys b channel true).2 = some pchan)
    (receives : pchan.rcvStatus ≠ pcanParameterOff)
    (received : sys.recvMsg (pcanbasicGetChannel sys b channel true).1.system pchan.fd =
      (s, .ok m)) (before : TPCANMsgFD) :
    (∀ (writer : Pcanbasic S) (handle : U16) (given : TPCANMsgFD), given.ValidDlc →
      (pcanbasicWriteCommon sys writer handle (some given)).sent = some m →
      ((pcanbasicReadCommon sys b channel (some before)).Delivers (SameMessage given) ↔
        ¬Has given.msgtype pcanMessageEsi)) ∧
      (m.type.isCan = true → m.dataLen.toNat ≤ 64 →
        ((pcanbasicReadCommon sys b channel (some before)).Delivers (SameFlags m) ↔
          ¬Has m.flags pcanfdMsgEsi)) := by
  constructor
  · intro writer handle given valid sent
    obtain rfl := pcanbasicWriteCommon_sent sent
    rw [delivers_frame opened receives received before (pcanfdMsgOf_isCan given)]
    exact sameMessage_frameOf valid
  · intro can _
    rw [delivers_frame opened receives received before can]
    exact sameFlags_frameOf m

theorem messageCopies_inside (short : m.dataLen.toNat ≤ 64) :
    ∀ copy ∈ messageCopies m, copy.Inside := by
  unfold messageCopies
  split
  · intro copy member
    rw [List.mem_singleton.mp member]
    exact ⟨short, short⟩
  · intro copy member
    cases member

theorem readCommon_copies_inside
    (opened : (pcanbasicGetChannel sys b channel true).2 = some pchan)
    (received : sys.recvMsg (pcanbasicGetChannel sys b channel true).1.system pchan.fd =
      (s, .ok m)) (short : m.dataLen.toNat ≤ 64) (before : TPCANMsgFD) :
    ∀ copy ∈ (pcanbasicReadCommon sys b channel (some before)).copies, copy.Inside := by
  rcases pcanbasicReadCommon_received opened received before with ⟨-, -, none⟩ | ⟨-, -, -, copies⟩
  · rw [none]
    intro copy member
    cases member
  · rw [copies]
    exact messageCopies_inside short

theorem writeCommon_copies_inside (given : TPCANMsgFD) :
    ∀ copy ∈ (pcanbasicWriteCommon sys b channel (some given)).copies, copy.Inside := by
  have whole : ∀ copy ∈ [Memcpy.mk 64 64 (pcanbasicGetFdLen given.dlc)], copy.Inside := by
    intro copy member
    rw [List.mem_singleton.mp member]
    exact ⟨getFdLen_le given.dlc, getFdLen_le given.dlc⟩
  unfold pcanbasicWriteCommon
  dsimp only
  split
  next => exact fun copy member => nomatch member
  next =>
    split
    · exact whole
    · exact whole

theorem classicWriteInside_iff (message : TPCANMsg) (behind : Nat → U8) :
    ClassicWriteInside message (pcanbasicWrite sys b channel (some message) behind) ↔
      message.len ≤ 8 := by
  constructor
  · intro inside
    exact BitVec.le_def.mpr (inside.inside ⟨8, 64, message.len.toNat⟩ List.mem_cons_self).1
  · intro short
    have small : message.len.toNat ≤ 8 := BitVec.le_def.mp short
    refine ⟨?_, fun long => absurd long (BitVec.not_lt.mpr short)⟩
    intro copy member
    rcases List.mem_cons.mp member with first | later
    · rw [first]
      exact ⟨small, Nat.le_trans small (Nat.le_add_left 8 56)⟩
    · exact writeCommon_copies_inside _ copy later

theorem messageOf_dlc_le (m : PcanfdMsg) :
    (messageOf m).dlc ≤ 8 ↔ m.dataLen.toNat ≤ 8 ∨ m.type = .status := by
  unfold messageOf
  cases type : m.type with
  | status => exact ⟨fun _ => .inr rfl, fun _ => (by decide : (4 : U8) ≤ 8)⟩
  | nop | can20Msg | canfdMsg | errorMsg | other =>
    refine Iff.trans (getFdDlc_le m.dataLen.toNat) ⟨.inl, fun either => ?_⟩
    exact either.resolve_right nofun

theorem frameOf_data (m : PcanfdMsg) (j : Fin 64) (inside : j.val < m.dataLen.toNat) :
    (frameOf m).data.get j = m.data.get j :=
  (Vector.getElem_ofFn j.isLt).trans (if_pos inside)

theorem classicReadInside_iff
    (opened : (pcanbasicGetChannel sys b channel true).2 = some pchan)
    (received : sys.recvMsg (pcanbasicGetChannel sys b channel true).1.system pchan.fd =
      (s, .ok m)) (short : m.dataLen.toNat ≤ 64) (before : TPCANMsg) (stack : TPCANMsgFD) :
    ClassicReadInside m (pcanbasicRead sys b channel (some before) stack) ↔
      m.dataLen.toNat ≤ 8 ∨ m.type = .status ∨ pchan.rcvStatus = pcanParameterOff := by
  have copies := readCommon_copies_inside opened received short stack
  have ways := pcanbasicReadCommon_received opened received stack
  unfold pcanbasicRead
  dsimp only
  generalize pcanbasicReadCommon sys b channel (some stack) = read at copies ways
  rcases ways with ⟨lost, fails, -⟩ | ⟨on, ok, message, -⟩
  · rw [if_neg fails]
    constructor
    · intro _
      rcases lost with off | resets
      · exact .inr (.inr off)
      · exact .inr (.inl (resetsChannel_type resets))
    · exact fun _ => ⟨copies, fun ok => absurd ok fails⟩
  · rw [if_pos ok, message, Option.getD_some]
    constructor
    · intro inside
      obtain ⟨got, same, len, -⟩ := inside.message ok
      obtain rfl := Option.some.inj same
      exact ((messageOf_dlc_le m).mp len).imp_right .inl
    · intro either
      have either : m.dataLen.toNat ≤ 8 ∨ m.type = .status :=
        either.imp_right fun other => other.resolve_right on
      refine ⟨?_, fun _ => ⟨_, rfl, (messageOf_dlc_le m).mpr either, fun j inside => ?_⟩⟩
      · intro copy member
        rcases List.mem_append.mp member with first | last
        · exact copies copy first
        · rw [List.mem_singleton.mp last]
          exact ⟨by decide, by decide⟩
      · have copied : (Vector.ofFn fun j : Fin 8 =>
            (messageOf m).data.get (j.castLE (by decide))).get j =
            (messageOf m).data.get (j.castLE (by decide)) := Vector.getElem_ofFn j.isLt
        refine ⟨copied, fun can => copied.trans ?_⟩
        have length : m.dataLen.toNat ≤ 8 := by
          refine either.resolve_right fun status => ?_
          rw [status] at can
          cases can
        rw [messageOf_frame can] at inside ⊢
        have all : ∀ len ≤ 8, (pcanbasicGetFdDlc len).toNat = len := by decide
        have bound := all _ length
        exact frameOf_data m _ (Nat.lt_of_lt_of_eq inside bound)

/-- A classic write stays inside exactly if `LEN` is at most eight, and a classic read exactly
    if the message that is delivered has at most eight bytes. -/
theorem classic_calls_inside_iff
    (opened : (pcanbasicGetChannel sys b channel true).2 = some pchan)
    (received : sys.recvMsg (pcanbasicGetChannel sys b channel true).1.system pchan.fd =
      (s, .ok m)) (short : m.dataLen.toNat ≤ 64) (before : TPCANMsg) (stack : TPCANMsgFD) :
    (∀ (writer : Pcanbasic S) (handle : U16) (message : TPCANMsg) (behind : Nat → U8),
      ClassicWriteInside message (pcanbasicWrite sys writer handle (some message) behind) ↔
        message.len ≤ 8) ∧
      (ClassicReadInside m (pcanbasicRead sys b channel (some before) stack) ↔
        m.dataLen.toNat ≤ 8 ∨ m.type = .status ∨ pchan.rcvStatus = pcanParameterOff) ∧
      ∀ copy ∈ (pcanbasicReadCommon sys b channel (some stack)).copies, copy.Inside :=
  ⟨fun _ _ message behind => classicWriteInside_iff message behind,
    classicReadInside_iff opened received short before stack,
    readCommon_copies_inside opened received short stack⟩

end Calls

section Samples

/-- What is sent is received. -/
def loopSystem : System PcanfdMsg where
  openFile m _ _ := (m, 3)
  closeFile m _ := m
  getInit m _ := (m, default)
  setInit m _ _ := (m, 0)
  delFilters m _ := m
  sendMsg _ _ msg := (msg, 0)
  recvMsg m _ := (m, .ok m)
  pcaninfoGet _ := []
  pcaninfoUpdate _ pinfo := pinfo
  outdated _ := false
  allocate m := (m, true)

def loopBasic (m : PcanfdMsg) : Pcanbasic PcanfdMsg :=
  ⟨true, [], [{ newChannel pcanUsbbus1 with fd := 3 }], m⟩

def basicFrame (msgtype dlc : U8) : TPCANMsgFD := ⟨0x123, msgtype, dlc, Vector.replicate 64 0x55⟩

def fdFrame : TPCANMsgFD := basicFrame (pcanMessageFd ||| pcanMessageBrs) 15

theorem fd_frame_same :
    (pcanbasicReadCommon loopSystem (loopBasic (pcanfdMsgOf fdFrame)) pcanUsbbus1
      (some (basicFrame 0 0))).Delivers (SameMessage fdFrame) ∧
    (pcanbasicReadCommon loopSystem (loopBasic (pcanfdMsgOf fdFrame)) pcanUsbbus1
      (some (basicFrame 0 0))).Delivers (SameFlags (pcanfdMsgOf fdFrame)) := by
  have both := @basic_conversion_iff _ loopSystem (loopBasic (pcanfdMsgOf fdFrame)) pcanUsbbus1
    { newChannel pcanUsbbus1 with fd := 3 } _ (pcanfdMsgOf fdFrame) rfl (by decide) rfl
    (basicFrame 0 0)
  constructor
  · exact (both.1 (loopBasic PcanfdMsg.zero) pcanUsbbus1 fdFrame (by decide) rfl).mpr (by decide)
  · exact (both.2 (by decide) (by decide)).mpr (by decide)

theorem esi_lost :
    (¬∀ given : TPCANMsgFD, given.ValidDlc →
      (pcanbasicReadCommon loopSystem
        (loopBasic (pcanbasicWriteCommon loopSystem (loopBasic PcanfdMsg.zero) pcanUsbbus1
          (some given)).b.system) pcanUsbbus1 (some given)).Delivers (SameMessage given)) ∧
    ¬∀ m : PcanfdMsg, m.type.isCan = true → m.dataLen.toNat ≤ 64 →
      (pcanbasicReadCommon loopSystem (loopBasic m) pcanUsbbus1
        (some (basicFrame 0 0))).Delivers (SameFlags m) := by
  constructor
  · intro all
    obtain ⟨-, got, read, same⟩ := all (basicFrame (pcanMessageFd ||| pcanMessageEsi) 8) (by decide)
    obtain rfl := Option.some.inj read
    exact absurd ((same.bits pcanMessageEsi (by decide)).mpr (by decide)) (by decide +kernel)
  · intro all
    obtain ⟨-, got, read, same⟩ := all { PcanfdMsg.zero with type := .canfdMsg, flags := pcanfdMsgEsi }
      rfl (by decide)
    obtain rfl := Option.some.inj read
    exact absurd ((same.flags (pcanMessageEsi, pcanfdMsgEsi) (by simp)).mpr (by decide))
      (by decide +kernel)

def classicFrame (len : U8) : TPCANMsg := ⟨0x123, 0, len, Vector.replicate 8 0x55⟩

theorem classic_frame_inside :
    ClassicWriteInside (classicFrame 8) (pcanbasicWrite loopSystem (loopBasic PcanfdMsg.zero)
      pcanUsbbus1 (some (classicFrame 8)) fun _ => 0) ∧
    ClassicReadInside (pcanfdMsgOf (basicFrame 0 8)) (pcanbasicRead loopSystem
      (loopBasic (pcanfdMsgOf (basicFrame 0 8))) pcanUsbbus1 (some (classicFrame 0))
      (basicFrame 0 0)) := by
  have all := @classic_calls_inside_iff _ loopSystem (loopBasic (pcanfdMsgOf (basicFrame 0 8)))
    pcanUsbbus1 { newChannel pcanUsbbus1 with fd := 3 } _ (pcanfdMsgOf (basicFrame 0 8)) rfl rfl
    (by decide) (classicFrame 0) (basicFrame 0 0)
  exact ⟨(all.1 (loopBasic PcanfdMsg.zero) pcanUsbbus1 (classicFrame 8) fun _ => 0).mpr (by decide),
    all.2.1.mpr (.inl (by decide))⟩

theorem classic_calls_overrun :
    (¬∀ message : TPCANMsg, ClassicWriteInside message (pcanbasicWrite loopSystem
      (loopBasic PcanfdMsg.zero) pcanUsbbus1 (some message) fun _ => 0)) ∧
    ¬∀ m : PcanfdMsg, m.dataLen.toNat ≤ 64 → ClassicReadInside m (pcanbasicRead loopSystem
      (loopBasic m) pcanUsbbus1 (some (classicFrame 0)) (basicFrame 0 0)) := by
  constructor
  · intro all
    have inside := (all (classicFrame 255)).inside ⟨8, 64, 255⟩ List.mem_cons_self
    exact absurd inside.1 (by decide)
  · intro all
    obtain ⟨got, read, len, -⟩ := (all (pcanfdMsgOf (basicFrame pcanMessageFd 15))
      (by decide)).message rfl
    obtain rfl := Option.some.inj read
    exact absurd len (by decide +kernel)

end Samples

end PcanDriver

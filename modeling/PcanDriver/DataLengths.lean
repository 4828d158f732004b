import PcanDriver.Lib.ByteStores
import PcanDriver.PcanUsbDecode
import PcanDriver.Sja1000
import PcanDriver.TxEncodeSpec
import PcanDriver.TxSide

/-!
How long the data of received frames are. Each of the four decoders makes a length of
four bits of its own, and `pcan_fd_to_msg` (`pcan_fops.c`), which converts a message for
the old interface, copies that many bytes into an array of eight.
-/
namespace PcanDriver
variable {P : Type}

section Legacy

structure TPCANMsg where
  id : U32
  msgtype : U8
  len : U8
  data : Vector U8 8
deriving Repr, DecidableEq

structure TPCANRdMsg where
  msg : TPCANMsg
  dwTime : U32
  wUsec : U16
deriving Repr, DecidableEq

/-- What is or'ed into `DATA[3]`; `CAN_ERR_RESOURCE` does not fit into it. -/
def legacyStatus (id : U32) : U8 :=
  if id = PcanfdStatus.errorWarning.code then canErrBuslight.setWidth 8
  else if id = PcanfdStatus.errorPassive.code then canErrBusheavy.setWidth 8
  else if id = PcanfdStatus.errorBusoff.code then canErrBusoff.setWidth 8
  else if id = PcanfdStatus.rxEmpty.code then canErrQrcvempty.setWidth 8
  else if id = PcanfdStatus.rxOverflow.code then canErrOverrun.setWidth 8
  else if id = PcanfdStatus.txOverflow.code then canErrQxmtfull.setWidth 8
  else if id = PcanfdStatus.errorActive.code then 0
  else canErrResource.setWidth 8

def legacyStores (pf : PcanfdMsg) : List (Store U8) :=
  match pf.type with
  | .status => [⟨0, List.replicate 4 0⟩, ⟨3, [legacyStatus pf.id]⟩]
  | .can20Msg => [⟨0, (List.range pf.dataLen.toNat).map fun j => (pf.data[j]?).getD 0⟩]
  | _ => []

def TPCANRdMsg.timed (msg : TPCANRdMsg) (pf : PcanfdMsg) : TPCANRdMsg :=
  if pf.flags &&& pcanfdTimestamp = 0 then msg
  else { msg with
    dwTime := BitVec.ofInt 32 (pf.timestamp.tvSec * 1000 + pf.timestamp.tvUsec.tdiv 1000)
    wUsec := BitVec.ofInt 16 (pf.timestamp.tvUsec.tmod 1000) }

def TPCANRdMsg.filled (msg : TPCANRdMsg) (pf : PcanfdMsg) (msgtype len : U8) : TPCANRdMsg :=
  let before := fun k => (msg.msg.data[k]?).getD 0
  { msg with msg := ⟨pf.id, msgtype, len, Vector.ofFn fun j => Store.run (legacyStores pf) before j⟩ }

/-- Messages that the old interface does not have are not converted. -/
def pcanFdToMsg (msg : TPCANRdMsg) (pf : PcanfdMsg) : Option TPCANRdMsg :=
  match pf.type with
  | .status => some ((msg.filled pf (msgtypeStatus.setWidth 8) 4).timed pf)
  | .can20Msg => some ((msg.filled pf (pf.flags.setWidth 8) (pf.dataLen.setWidth 8)).timed pf)
  | _ => none

end Legacy

section Sja1000

def sja1000Sr : Nat := 2
def sja1000SrRbs : U8 := 0x01
def receiveFrameBase : Nat := 16
def bufferDlcMask : U8 := 0x0f

/-- The message of the frame in the receive buffer; `f` is what the message was before. -/
def sja1000RxFrame (readreg : Nat → U8) (f : PcanfdRxmsg) : PcanfdRxmsg :=
  let fi := readreg receiveFrameBase
  let dlc := min (fi &&& bufferDlcMask).toNat 8
  let eff := fi &&& bufferEff ≠ 0
  let localID : U32 :=
    if eff then
      readreg (receiveFrameBase + 1) ++ readreg (receiveFrameBase + 2) ++
        (readreg (receiveFrameBase + 3) ++ readreg (receiveFrameBase + 4))
    else readreg (receiveFrameBase + 1) ++ readreg (receiveFrameBase + 2) ++ (0 : U16)
  let dreg := receiveFrameBase + if eff then 5 else 3
  { f with msg := { f.msg with
      type := .can20Msg
      dataLen := BitVec.ofNat 16 dlc
      id := if eff then localID >>> 3 else localID >>> 21
      flags := flagIf eff pcanfdMsgExt ||| flagIf (fi &&& bufferRtr ≠ 0) pcanfdMsgRtr
      data := Vector.ofFn fun j =>
        if j.val < dlc then readreg (dreg + j) else if j.val < 8 then 0 else f.msg.data.get j } }

/-- `posts` are the messages given to `pcan_chardev_rx`. -/
structure Sja1000Reads where
  dev : Sja1000Dev
  posts : List PcanfdRxmsg
  result : Nat

/-- `__sja1000_read` with `msgs` passes left, of which the next is number `i`.
    `readreg i` are the registers when the receive buffer has been released `i` times. -/
def sja1000Read (host : Nat → Host) (readreg : Nat → Nat → U8) :
    Nat → Nat → PcanfdRxmsg → Sja1000Dev → Sja1000Reads
  | 0, _, _, dev => ⟨dev, [], 0⟩
  | msgs + 1, i, f, dev =>
    if readreg i sja1000Sr &&& sja1000SrRbs = 0 then ⟨dev, [], 0⟩
    else
      let frame := sja1000RxFrame (readreg i) f
      let posted := pcanChardevRx (host i) dev frame
      let rest := sja1000Read host readreg msgs (i + 1) posted.2.1 posted.1
      ⟨rest.dev, frame :: rest.posts, rest.result + if posted.2.2 > 0 then 1 else 0⟩

end Sja1000

section Statement

inductive Received (P : Type) where
  | pcanUsb (env : Nat → DecodeEnv) (usb : PcanUsb) (mem : Nat → U8) (lCurrentLength : Nat)
  | usbpro (env : DecodeEnv) (time : UsbTime) (rx : Nat → U8) (c : UsbChannel)
  | ucan (host : Host) (dev : Pcandev P) (rm : Nat → U8) (ptv : Option PcanTimeval)
  | sja1000 (host : Nat → Host) (readreg : Nat → Nat → U8) (irqmaxrmsg : Nat)
      (stack : PcanfdRxmsg) (dev : Sja1000Dev)

def usbproPost (env : DecodeEnv) (time : UsbTime) (rx : Nat → U8) (c : UsbChannel) : PcanfdRxmsg :=
  (usbproRxFrame rx).stamped (pcanUsbproTimestampDecode env.host time c.dev (u32At rx 4)).2

/-- Frames are ignored while the bus is off. -/
def ucanFramePosts (host : Host) (dev : Pcandev P) (rm : Nat → U8) (ptv : Option PcanTimeval) :
    List PcanfdRxmsg :=
  let busState := (pcanClearStatusBit host dev canErrQoverrun).busState
  if busState = .unknown ∨ busState = .errorBusoff then [] else [(ucanRxFrame rm).stamped ptv]

/-- The messages that the call gives to `pcan_chardev_rx`. -/
def Received.posts : Received P → List PcanfdRxmsg
  | .pcanUsb env usb mem lCurrentLength => (pcanUsbDecodeMessage env usb mem lCurrentLength).posts
  | .usbpro env time rx c => [usbproPost env time rx c]
  | .ucan host dev rm ptv => ucanFramePosts host dev rm ptv
  | .sja1000 host readreg irqmaxrmsg stack dev =>
    (sja1000Read host readreg irqmaxrmsg 0 stack dev).posts

/-- A length that the format has, and that the old interface has room for. The message
    is read with another time and other flags than it is posted with. -/
structure LengthSound (m : PcanfdMsg) : Prop where
  can20 : m.type = .can20Msg → m.dataLen.toNat ≤ 8
  canfd : m.type = .canfdMsg →
    m.dataLen.toNat ≤ 8 ∨ m.dataLen.toNat ∈ [12, 16, 20, 24, 32, 48, 64]
  legacy : ∀ pf : PcanfdMsg, pf.type = m.type → pf.dataLen = m.dataLen →
    ∀ store ∈ legacyStores pf, store.Inside 0 8

/-- A USB-Pro record says that there are more than eight data bytes. -/
def Received.overlong : Received P → Bool
  | .usbpro _ _ rx _ => decide (8 < (rx 3 &&& 0x0f).toNat)
  | _ => false

end Statement

section Posted

theorem pcanUsbproHandleCanmsgRx_posts (env : DecodeEnv) (time : UsbTime) (rx : Nat → U8)
    (c : UsbChannel) :
    pcanUsbproHandleCanmsgRx env time rx c =
      c.interrupted.noted (posted env.host
        (pcanUsbproTimestampDecode env.host time c.dev (u32At rx 4)).1
        (usbproPost env time rx c)) := rfl

theorem ucanPostCanrxMsg_posts (host : Host) (dev : Pcandev P) (rm : Nat → U8)
    (ptv : Option PcanTimeval) :
    ucanPostCanrxMsg host dev rm ptv =
      (ucanFramePosts host dev rm ptv).foldl (fun done rx => posted host done.1 rx)
        (pcanClearStatusBit host dev canErrQoverrun, 0) := by
  unfold ucanPostCanrxMsg ucanFramePosts
  simp only
  split
  next => rfl
  next => rfl

end Posted

section Lengths

theorem lengthSound_other {m : PcanfdMsg} (other : m.type.isCan = false) : LengthSound m := by
  constructor
  case can20 =>
    intro type
    rw [type] at other
    cases other
  case canfd =>
    intro type
    rw [type] at other
    cases other
  case legacy =>
    intro pf sameType _ store member
    rw [← sameType] at other
    unfold legacyStores at member
    split at member
    next =>
      rcases List.mem_cons.mp member with zeroed | coded
      · rw [zeroed]
        decide
      · rw [List.mem_singleton.mp coded]
        exact ⟨Nat.zero_le _, Nat.le_of_ble_eq_true rfl⟩
    next type =>
      rw [type] at other
      cases other
    next => cases member

theorem lengthSound_can20 {m : PcanfdMsg} (type : m.type = .can20Msg) :
    LengthSound m ↔ m.dataLen.toNat ≤ 8 := by
  constructor
  · exact fun sound => sound.can20 type
  · intro short
    constructor
    case can20 => exact fun _ => short
    case canfd =>
      intro fd
      rw [type] at fd
      cases fd
    case legacy =>
      intro pf sameType sameLen store member
      rw [type] at sameType
      unfold legacyStores at member
      rw [sameType] at member
      simp only [List.mem_singleton] at member
      subst member
      refine ⟨Nat.le_refl 0, ?_⟩
      simp only [List.length_map, List.length_range, Nat.zero_add]
      rw [sameLen]
      exact short

theorem lengthSound_canfd {m : PcanfdMsg} (type : m.type = .canfdMsg)
    (length : m.dataLen.toNat ∈ pcanFdDlc2len) : LengthSound m := by
  constructor
  case can20 =>
    intro classic
    rw [type] at classic
    cases classic
  case canfd =>
    have all : ∀ n ∈ pcanFdDlc2len, n ≤ 8 ∨ n ∈ [12, 16, 20, 24, 32, 48, 64] := by decide
    exact fun _ => all _ length
  case legacy =>
    intro pf sameType _ store member
    rw [type] at sameType
    unfold legacyStores at member
    rw [sameType] at member
    cases member

theorem pcanFdToMsg_frame {m : PcanfdMsg} (sound : LengthSound m) (type : m.type = .can20Msg)
    (msg : TPCANRdMsg) :
    ∃ converted, pcanFdToMsg msg m = some converted ∧
      converted.msg.len.toNat = m.dataLen.toNat ∧
      ∀ j : Fin 8, some (converted.msg.data.get j) =
        if j.val < m.dataLen.toNat then m.data[j.val]? else some (msg.msg.data.get j) := by
  have short := sound.can20 type
  have filled : ∀ converted : TPCANRdMsg, (converted.timed m).msg = converted.msg := by
    intro converted
    unfold TPCANRdMsg.timed
    split <;> rfl
  refine ⟨_, by unfold pcanFdToMsg; rw [type], ?_, ?_⟩
  · rw [filled]
    simp only [TPCANRdMsg.filled, BitVec.toNat_setWidth]
    omega
  · intro j
    have old : (msg.msg.data[j.val]?).getD 0 = msg.msg.data.get j := by
      rw [Vector.getElem?_eq_getElem j.isLt]
      rfl
    have read : ∀ f : Fin 8 → U8, (Vector.ofFn f).get j = f j :=
      fun f => Vector.getElem_ofFn j.isLt
    rw [filled]
    simp only [TPCANRdMsg.filled, legacyStores, type, Store.run, List.foldl_cons, List.foldl_nil,
      Store.apply, Nat.zero_le, if_true, Nat.sub_zero, read, old]
    by_cases inside : j.val < m.dataLen.toNat
    · have held : m.data[j.val]? = some m.data[j.val] := Vector.getElem?_eq_getElem (by omega)
      rw [if_pos inside, List.getElem?_map, List.getElem?_range inside, Option.map_some,
        Option.getD_some, held, Option.getD_some]
    · rw [if_neg inside, List.getElem?_eq_none
        (by simp only [List.length_map, List.length_range]; omega)]
      rfl

end Lengths

section Decoders

theorem stamped_type (rx : PcanfdRxmsg) (hwtv : Option PcanTimeval) :
    (rx.stamped hwtv).msg.type = rx.msg.type := by
  cases hwtv <;> rfl

theorem stamped_dataLen (rx : PcanfdRxmsg) (hwtv : Option PcanTimeval) :
    (rx.stamped hwtv).msg.dataLen = rx.msg.dataLen := by
  cases hwtv <;> rfl

theorem ofNat_le_toNat {n bound : Nat} (le : n ≤ bound) : (BitVec.ofNat 16 n).toNat ≤ bound := by
  rw [BitVec.toNat_ofNat]
  exact Nat.le_trans (Nat.mod_le _ _) le

theorem pcanDlc2len_mem (dlc : U8) : pcanDlc2len dlc ∈ pcanFdDlc2len := by
  unfold pcanDlc2len
  rw [List.getD_eq_getElem?_getD]
  cases entry : pcanFdDlc2len[(dlc &&& 0x0F).toNat]? with
  | none => exact List.mem_cons_self
  | some n => exact List.mem_of_getElem? entry

theorem ucanRxFrame_lengthSound (rm : Nat → U8) (ptv : Option PcanTimeval) :
    LengthSound ((ucanRxFrame rm).stamped ptv).msg := by
  by_cases fd : u16At rm 22 &&& ucanMsgExtDataLen ≠ 0
  · apply lengthSound_canfd
    · rw [stamped_type]
      exact if_pos (decide_eq_true fd)
    · rw [stamped_dataLen]
      simp only [ucanRxFrame, decide_eq_true fd, if_true, BitVec.toNat_ofNat]
      have bound := pcanDlc2len_le (rm 20 >>> 4)
      rw [Nat.mod_eq_of_lt (by omega)]
      exact pcanDlc2len_mem _
  · apply (lengthSound_can20 _).mpr
    · rw [stamped_dataLen]
      simp only [ucanRxFrame, decide_eq_false fd, Bool.false_eq_true, if_false]
      exact ofNat_le_toNat (Nat.min_le_right _ _)
    · rw [stamped_type]
      exact if_neg fun has => fd (of_decide_eq_true has)

theorem usbproPost_lengthSound (env : DecodeEnv) (time : UsbTime) (rx : Nat → U8) (c : UsbChannel) :
    LengthSound (usbproPost env time rx c).msg ↔ (rx 3 &&& 0x0f).toNat ≤ 8 := by
  unfold usbproPost
  rw [lengthSound_can20 (stamped_type _ _), stamped_dataLen]
  have small := (rx 3 &&& 0x0f).isLt
  simp only [usbproRxFrame, BitVec.toNat_ofNat]
  rw [Nat.mod_eq_of_lt (by omega)]

theorem sja1000Read_lengthSound (host : Nat → Host) (readreg : Nat → Nat → U8) (msgs i : Nat)
    (f : PcanfdRxmsg) (dev : Sja1000Dev) :
    ∀ rx ∈ (sja1000Read host readreg msgs i f dev).posts, LengthSound rx.msg := by
  induction msgs generalizing i f dev with
  | zero =>
    intro rx member
    cases member
  | succ msgs ih =>
    intro rx member
    unfold sja1000Read at member
    split at member
    next => cases member
    next =>
      rcases List.mem_cons.mp member with here | later
      · subst here
        exact (lengthSound_can20 rfl).mpr (ofNat_le_toNat (Nat.min_le_right _ _))
      · exact ih _ _ _ rx later

end Decoders

section PcanUsb

theorem pcanHandleErrorActive_other (write : Pcandev P → Pcandev P × Int) (dev : Pcandev P)
    (rx : PcanfdRxmsg) : (pcanHandleErrorActive write dev rx).2.msg.type.isCan = false := by
  unfold pcanHandleErrorActive
  simp only
  split <;> rfl

theorem pcanHandleErrorStatus_other (dev : Pcandev P) (rx : PcanfdRxmsg) (warning passive : Bool) :
    (pcanHandleErrorStatus dev rx warning passive).2.1.msg.type.isCan = false := by
  unfold pcanHandleErrorStatus
  simp only
  split
  next => rfl
  next =>
    split
    next => rfl
    next => split <;> rfl

theorem handleBusBits_other (write : Pcandev P → Pcandev P × Int) (dev : Pcandev P)
    (rx : PcanfdRxmsg) (busoff warning passive : Bool) :
    (handleBusBits write dev rx busoff warning passive).2.msg.type.isCan = false := by
  unfold handleBusBits
  simp only
  split
  next =>
    unfold pcanHandleBusoff
    split <;> rfl
  next =>
    split
    next => exact pcanHandleErrorStatus_other dev rx warning passive
    next => exact pcanHandleErrorActive_other write _ _

theorem handleFunction_other (env : DecodeEnv) (usb : PcanUsb) {rx : PcanfdRxmsg}
    (other : rx.msg.type.isCan = false) (function : UsbFunction) :
    (handleFunction env usb rx function).2.msg.type.isCan = false := by
  cases function with
  | status ucNumber bytes =>
    simp only [handleFunction, PcanfdRxmsg.withData]
    exact handleBusBits_other _ _ _ _ _ _
  | analogValue => exact other
  | busLoad load => exact other
  | onlyTimestamp ticks =>
    simp only [handleFunction]
    split
    next => exact pcanHandleErrorActive_other (pcanUsbWrite .pcanUsb env.submit env.host) _ _
    next => exact other
  | errorFrame ecc counters => rfl
  | prepared => exact other
  | unexpected => exact other

theorem handleRecord_lengthSound (env : DecodeEnv) (usb : PcanUsb) (record : UsbRecord) :
    ∀ rx ∈ (handleRecord env usb record).posts, LengthSound rx.msg := by
  intro rx member
  cases record with
  | canMsg ucStatusLen slf id ticks data =>
    rw [List.mem_singleton.mp member]
    exact (lengthSound_can20 rfl).mpr (ofNat_le_toNat (Nat.min_le_right _ _))
  | internal ucStatusLen ticks function =>
    simp only [handleRecord, handleInternal] at member
    split at member
    next => cases member
    next =>
      split at member
      next => cases member
      next =>
        rw [List.mem_singleton.mp member]
        exact lengthSound_other (handleFunction_other env _ rfl function)

theorem decodeRecords_lengthSound (ucRevision : Nat) (env : Nat → DecodeEnv) (mem : Nat → U8)
    (lCurrentLength ucMsgLen i ptr : Nat) (ts8 : Bool) (usb : PcanUsb) :
    ∀ rx ∈ (decodeRecords ucRevision env mem lCurrentLength ucMsgLen i ptr ts8 usb).posts,
      LengthSound rx.msg := by
  induction ucMsgLen generalizing i ptr ts8 usb with
  | zero =>
    intro rx member
    cases member
  | succ ucMsgLen ih =>
    intro rx member
    have here := handleRecord_lengthSound (env i) usb (parseRecord ucRevision mem ptr ts8).record rx
    unfold decodeRecords at member
    simp only at member
    split at member
    next => exact here member
    next =>
      split at member
      next => exact here member
      next =>
        rcases List.mem_append.mp member with now | later
        · exact here now
        · exact ih _ _ _ _ rx later

theorem pcanUsbDecodeMessage_lengthSound (env : Nat → DecodeEnv) (usb : PcanUsb) (mem : Nat → U8)
    (lCurrentLength : Nat) :
    ∀ rx ∈ (pcanUsbDecodeMessage env usb mem lCurrentLength).posts, LengthSound rx.msg := by
  unfold pcanUsbDecodeMessage
  simp only
  split
  next =>
    intro rx member
    cases member
  next => exact decodeRecords_lengthSound _ _ _ _ _ _ _ _ _

end PcanUsb

/-- Only a USB-Pro record makes a message of a length that frames do not have. -/
theorem lengths_sound_iff (r : Received P) :
    (∀ rx ∈ r.posts, LengthSound rx.msg) ↔ r.overlong = false := by
  cases r with
  | pcanUsb env usb mem lCurrentLength =>
    exact ⟨fun _ => rfl, fun _ => pcanUsbDecodeMessage_lengthSound env usb mem lCurrentLength⟩
  | usbpro env time rx c =>
    simp only [Received.posts, Received.overlong, List.forall_mem_singleton,
      usbproPost_lengthSound, decide_eq_false_iff_not, Nat.not_lt]
  | ucan host dev rm ptv =>
    refine ⟨fun _ => rfl, fun _ rx member => ?_⟩
    unfold Received.posts ucanFramePosts at member
    simp only at member
    split at member
    next => cases member
    next =>
      rw [List.mem_singleton.mp member]
      exact ucanRxFrame_lengthSound rm ptv
  | sja1000 host readreg irqmaxrmsg stack dev =>
    exact ⟨fun _ => rfl, fun _ => sja1000Read_lengthSound host readreg irqmaxrmsg 0 stack dev⟩

/-- A record of a frame with twelve data bytes: the old interface gets four more than it
    has room for. -/
theorem overlong_record_posted :
    let rx : Nat → U8 := fun k => if k = 0 then dataTypeCanmsgRx8 else if k = 3 then 0x0c else 0
    let c : UsbChannel := ⟨openedChannel ⟨64, 64, 0, 0, false, []⟩ 2 2 0, false, 0, 0⟩
    let received : Received Unit := .usbpro ⟨sampleHost, 0, .zero, 0⟩ default rx c
    received.posts.map (fun f => (f.msg.type, f.msg.dataLen)) = [(.can20Msg, 12)] ∧
      ¬∀ f ∈ received.posts, LengthSound f.msg := by
  intro rx c received
  refine ⟨by decide +kernel, fun sound => ?_⟩
  have short := (lengthSound_can20 (stamped_type _ _)).mp (sound _ List.mem_cons_self)
  exact absurd short (by decide +kernel)

end PcanDriver

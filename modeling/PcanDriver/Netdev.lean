import PcanDriver.RxAccounting
import PcanDriver.UcanRoundTrip

/-!
The CAN network device of a channel (`pcan_netdev.c`): frames of the socket layer go
into the channel's FIFO, and messages of the channel come out as frames. The device
starts and stops the queue of the socket layer.
-/
namespace PcanDriver
open StepSystem
variable {P Q : Type}

section Model

def canEffFlag : U32 := 0x80000000
def canRtrFlag : U32 := 0x40000000
def canErrFlag : U32 := 0x20000000
def canErrMask : U32 := 0x1FFFFFFF

def canfdBrs : U8 := 0x01
def canfdEsi : U8 := 0x02

def canErrCrtl : U32 := 0x00000004
def canErrProt : U32 := 0x00000008
def canErrBusoffNetdev : U32 := 0x00000040

def canErrCrtlRxOverflow : U8 := 0x01
def canErrCrtlTxOverflow : U8 := 0x02
def canErrCrtlRxWarning : U8 := 0x04
def canErrCrtlTxWarning : U8 := 0x08
def canErrCrtlRxPassive : U8 := 0x10
def canErrCrtlTxPassive : U8 := 0x20
def canErrProtOverload : U8 := 0x20

/-- A socket buffer with a `struct can_frame` or, if `fd`, a `struct canfd_frame`. The
    socket layer lets no other lengths pass. -/
@[ext]
structure CanSkb where
  fd : Bool
  canId : U32
  len : U8
  flags : U8
  data : Vector U8 64
  fits : len.toNat ≤ if fd then 64 else 8
deriving DecidableEq

inductive CanState where
  | errorActive
  | errorWarning
  | errorPassive
  | busOff
  | stopped
deriving Repr, DecidableEq

/-- `struct can_device_stats`, as far as the driver counts. -/
structure CanDeviceStats where
  busOff : Nat
  errorPassive : Nat
  errorWarning : Nat
deriving Repr, DecidableEq

structure NetDeviceStats where
  rxPackets : Nat
  rxBytes : Nat
  rxErrors : Nat
  rxOverErrors : Nat
  txPackets : Nat
  txBytes : Nat
  txDropped : Nat
  txFifoErrors : Nat
deriving Repr, DecidableEq

/-- The network device with its `struct pcan_priv` and its channel. `inList` tells
    whether the channel is still in the driver's list, `queueStopped` whether the socket
    layer may not send. -/
structure PcanNetdev (P : Type) where
  pdev : Pcandev P
  inList : Bool
  fdMode : Bool
  state : CanState
  canStats : CanDeviceStats
  stats : NetDeviceStats
  queueStopped : Bool

/-- Whether `pcan_netdev_get_dev` finds the channel. -/
def PcanNetdev.present (nd : PcanNetdev P) : Bool := nd.inList && nd.pdev.isPlugged

def netdevTxMsg (skb : CanSkb) : PcanfdMsg :=
  { PcanfdMsg.zero with
    type := if skb.fd then .canfdMsg else .can20Msg
    flags := flagIf (skb.canId &&& canRtrFlag ≠ 0) pcanfdMsgRtr |||
      flagIf (skb.canId &&& canEffFlag ≠ 0) pcanfdMsgExt |||
      flagIf (skb.fd && decide (skb.flags &&& canfdEsi ≠ 0)) pcanfdMsgEsi |||
      flagIf (skb.fd && decide (skb.flags &&& canfdBrs ≠ 0)) pcanfdMsgBrs
    id := skb.canId &&& canErrMask
    dataLen := skb.len.setWidth 16
    data := Vector.ofFn fun j => if j.val < skb.len.toNat then skb.data.get j else 0 }

def pcanFifoRatio {A : Type} (fifo : BoundedQueue A) : Nat :=
  if fifo.capacity = 0 then 0 else fifo.items.length * 10000 % 2 ^ 32 / fifo.capacity

/-- `stack` is what lies behind the message on the stack: the FIFO takes more bytes than
    the message has. -/
def pcanNetdevTx (deviceWrite : Pcandev P → Pcandev P × Int) (stack : Timeval)
    (nd : PcanNetdev P) (skb : CanSkb) : PcanNetdev P :=
  if !nd.present then { nd with stats.txDropped := nd.stats.txDropped + 1 }
  else
    let f := netdevTxMsg skb
    let stored := fifoPut nd.pdev.writeFifo ⟨f, stack⟩
    if stored.2 < 0 then
      { nd with
        queueStopped := true
        stats := { nd.stats with
          txFifoErrors := nd.stats.txFifoErrors + 1
          txDropped := nd.stats.txDropped + 1 } }
    else
      let pdev := (pcanDevStartWriting deviceWrite { nd.pdev with writeFifo := stored.1 }).1
      { nd with
        pdev := pdev
        queueStopped := nd.queueStopped || decide (pcanFifoRatio pdev.writeFifo > 8000)
        stats := { nd.stats with
          txPackets := nd.stats.txPackets + 1
          txBytes := nd.stats.txBytes + f.dataLen.toNat } }

def netdevRxFrame (fd : Bool) (pf : PcanfdMsg) : CanSkb where
  fd := fd
  canId := (pf.id &&& canErrMask) ||| flagIf (pf.has pcanfdMsgRtr) canRtrFlag |||
    flagIf (pf.has pcanfdMsgExt) canEffFlag
  len := BitVec.ofNat 8 (min pf.dataLen.toNat (if fd then 64 else 8))
  flags := if fd then (if pf.has pcanfdMsgEsi then canfdEsi else 0) |||
    (if pf.has pcanfdMsgBrs then canfdBrs else 0) else 0
  data := Vector.ofFn fun j =>
    if j.val < min pf.dataLen.toNat (if fd then 64 else 8) then pf.data.get j else 0
  fits := by
    rw [BitVec.toNat_ofNat]
    exact Nat.le_trans (Nat.mod_le _ _) (Nat.min_le_right _ _)

theorem crtl_byte : 1 < 64 := by decide

theorem prot_byte : 2 < 64 := by decide

/-- An error frame, of `CAN_ERR_DLC` bytes. -/
def netdevErrFrame (canId : U32) (crtl prot : U8) : CanSkb where
  fd := false
  canId := canErrFlag ||| canId
  len := 8
  flags := 0
  data := ((Vector.replicate 64 0).set 1 crtl crtl_byte).set 2 prot prot_byte
  fits := by decide

/-- `frame` is what is given to the socket layer, with its hardware time. -/
structure NetdevRx (P : Type) where
  ndev : PcanNetdev P
  frame : Option (CanSkb × Option Timeval)
  err : Int

/-- A frame that reaches `netif_rx`. -/
def PcanNetdev.deliver (nd : PcanNetdev P) (skb : CanSkb) (tstamp : Option Timeval) : NetdevRx P :=
  ⟨{ nd with stats := { nd.stats with
      rxPackets := nd.stats.rxPackets + 1
      rxBytes := nd.stats.rxBytes + skb.len.toNat } }, some (skb, tstamp), 1⟩

def netdevCanRx (host : Host) (nd : PcanNetdev P) (fd : Bool) (pqm : PcanfdRxmsg) : NetdevRx P :=
  if pqm.msg.flags &&& pcanfdHwtimestamp ≠ 0 then
    let synced := pcanSyncTimestamps host nd.pdev pqm
    { nd with pdev := synced.1 }.deliver (netdevRxFrame fd synced.2.msg)
      (some synced.2.msg.timestamp)
  else nd.deliver (netdevRxFrame fd pqm.msg) none

/-- A state of the bus that differs from the last one. -/
def PcanNetdev.entered (nd : PcanNetdev P) (state : CanState) : PcanNetdev P :=
  { nd with
    state := state
    canStats := match state with
      | .busOff => { nd.canStats with busOff := nd.canStats.busOff + 1 }
      | .errorPassive => { nd.canStats with errorPassive := nd.canStats.errorPassive + 1 }
      | .errorWarning => { nd.canStats with errorWarning := nd.canStats.errorWarning + 1 }
      | .errorActive | .stopped => nd.canStats
    queueStopped := nd.queueStopped || decide (state = .busOff) }

/-- The part of `pcan_netdev_rx` about a status once it has a socket buffer. -/
def netdevStatusRx (nd : PcanNetdev P) (pf : PcanfdMsg) : NetdevRx P :=
  let above := fun (limit : U8) (rx tx : U8) =>
    (if nd.pdev.rxErrorCounter > limit then rx else 0) |||
      (if nd.pdev.txErrorCounter > limit then tx else 0)
  if pf.id = PcanfdStatus.errorBusoff.code then
    if nd.state = .busOff then ⟨nd, none, 0⟩
    else (nd.entered .busOff).deliver (netdevErrFrame canErrBusoffNetdev 0 0) none
  else if pf.id = PcanfdStatus.errorPassive.code then
    if nd.state = .errorPassive then ⟨nd, none, 0⟩
    else (nd.entered .errorPassive).deliver
      (netdevErrFrame canErrCrtl (above 127 canErrCrtlRxPassive canErrCrtlTxPassive) 0) none
  else if pf.id = PcanfdStatus.errorWarning.code then
    if nd.state = .errorWarning then ⟨nd, none, 0⟩
    else (nd.entered .errorWarning).deliver
      (netdevErrFrame canErrCrtl (above 96 canErrCrtlRxWarning canErrCrtlTxWarning) 0) none
  else if pf.id = PcanfdStatus.rxOverflow.code then
    if pf.flags &&& pcanfdErrorProtocol ≠ 0 then
      nd.deliver (netdevErrFrame canErrProt 0 canErrProtOverload) none
    else
      { nd with stats := { nd.stats with
          rxOverErrors := nd.stats.rxOverErrors + 1
          rxErrors := nd.stats.rxErrors + 1 } }.deliver
        (netdevErrFrame canErrCrtl canErrCrtlRxOverflow 0) none
  else if pf.id = PcanfdStatus.txOverflow.code then
    nd.deliver (netdevErrFrame canErrCrtl canErrCrtlTxOverflow 0) none
  else nd.deliver (netdevErrFrame 0 0 0) none

/-- `alloc` tells whether there is memory for a socket buffer. An ERROR_ACTIVE lets the
    socket layer send again and needs none. -/
def pcanNetdevRx (host : Host) (alloc : Bool) (nd : PcanNetdev P) (pqm : PcanfdRxmsg) :
    NetdevRx P :=
  match pqm.msg.type with
  | .nop | .errorMsg => ⟨nd, none, 0⟩
  | .canfdMsg =>
    if !nd.fdMode then ⟨nd, none, 0⟩
    else if !alloc then ⟨nd, none, -enomem⟩
    else netdevCanRx host nd true pqm
  | .can20Msg => if !alloc then ⟨nd, none, -enomem⟩ else netdevCanRx host nd false pqm
  | .status =>
    if pqm.msg.id = PcanfdStatus.errorActive.code then
      ⟨{ nd with state := .errorActive, queueStopped := false }, none, 0⟩
    else if pqm.msg.id = PcanfdStatus.unknown.code ∨ pqm.msg.id = PcanfdStatus.busError.code ∨
        pqm.msg.id = PcanfdStatus.busLoad.code then ⟨nd, none, 0⟩
    else if !alloc then ⟨nd, none, -enomem⟩
    else netdevStatusRx nd pqm.msg
  | .other _ => ⟨nd, none, if !alloc then -enomem else -einval⟩

end Model

section Wire

/-- A frame as the bus carries it: a standard identifier has 11 bits, the length is one
    that a DLC can say, and a remote frame has no data. CAN FD has no remote frames. -/
def CanSkb.onBus (skb : CanSkb) : CanSkb where
  fd := skb.fd
  canId := (if skb.canId &&& canEffFlag ≠ 0 then skb.canId &&& canErrMask
      else skb.canId &&& 0x7FF) |||
    flagIf (!skb.fd && decide (skb.canId &&& canRtrFlag ≠ 0)) canRtrFlag |||
    flagIf (skb.canId &&& canEffFlag ≠ 0) canEffFlag
  len := BitVec.ofNat 8 (pcanDlc2len (pcanLen2dlc skb.len))
  flags := if skb.fd then skb.flags &&& (canfdEsi ||| canfdBrs) else 0
  data := Vector.ofFn fun j =>
    if (skb.fd || decide (skb.canId &&& canRtrFlag = 0)) && decide (j.val < skb.len.toNat) then
      skb.data.get j else 0
  fits := by
    have all : ∀ len : U8, len.toNat ≤ 8 →
        (BitVec.ofNat 8 (pcanDlc2len (pcanLen2dlc len))).toNat ≤ 8 := by decide +kernel
    cases fd : skb.fd with
    | false => exact all skb.len (by have := skb.fits; rwa [fd] at this)
    | true =>
      rw [BitVec.toNat_ofNat]
      exact Nat.le_trans (Nat.mod_le _ _) (pcanDlc2len_le _)

theorem netdevTxMsg_has (skb : CanSkb) :
    (netdevTxMsg skb).has pcanfdMsgRtr = decide (skb.canId &&& canRtrFlag ≠ 0) ∧
      (netdevTxMsg skb).has pcanfdMsgExt = decide (skb.canId &&& canEffFlag ≠ 0) ∧
      (netdevTxMsg skb).has pcanfdMsgEsi = (skb.fd && decide (skb.flags &&& canfdEsi ≠ 0)) ∧
      (netdevTxMsg skb).has pcanfdMsgBrs = (skb.fd && decide (skb.flags &&& canfdBrs ≠ 0)) := by
  have all : ∀ rtr ext esi brs : Bool,
      let flags := flagIf rtr pcanfdMsgRtr ||| flagIf ext pcanfdMsgExt |||
        flagIf esi pcanfdMsgEsi ||| flagIf brs pcanfdMsgBrs
      decide (flags &&& pcanfdMsgRtr ≠ 0) = rtr ∧ decide (flags &&& pcanfdMsgExt ≠ 0) = ext ∧
        decide (flags &&& pcanfdMsgEsi ≠ 0) = esi ∧ decide (flags &&& pcanfdMsgBrs ≠ 0) = brs := by
    decide +kernel
  exact all _ _ _ _

theorem netdevTxMsg_dataLen (skb : CanSkb) : (netdevTxMsg skb).dataLen.toNat = skb.len.toNat := by
  show (skb.len.setWidth 16).toNat = _
  rw [BitVec.toNat_setWidth]
  exact Nat.mod_eq_of_lt (Nat.lt_trans skb.len.isLt (by decide))

/-- `pcanfd_send_msg` would take the frames of the socket layer. -/
theorem netdevTxMsg_sent (skb : CanSkb) (tv : Timeval) : SentFrame Unit ⟨netdevTxMsg skb, tv⟩ := by
  have fits := skb.fits
  rw [← netdevTxMsg_dataLen] at fits
  refine ⟨{ openedChannel () 4 4 0 with
    initSettings := { (openedChannel () 4 4 0).initSettings with flags := pcanfdInitFd } },
    ⟨netdevTxMsg skb, tv⟩, ⟨netdevTxMsg skb, tv⟩, ?_, rfl⟩
  have typed : checkTxType { openedChannel () 4 4 0 with
      initSettings := { (openedChannel () 4 4 0).initSettings with flags := pcanfdInitFd } }
      ⟨netdevTxMsg skb, tv⟩ = .ok ⟨netdevTxMsg skb, tv⟩ := by
    unfold checkTxType
    cases fd : skb.fd with
    | true =>
      rw [fd, if_pos rfl] at fits
      have type : (netdevTxMsg skb).type = .canfdMsg := by simp [netdevTxMsg, fd]
      simp only [type]
      exact if_pos ⟨by decide, BitVec.le_def.mpr fits⟩
    | false =>
      rw [fd] at fits
      have type : (netdevTxMsg skb).type = .can20Msg := by simp [netdevTxMsg, fd]
      simp only [type, checkClassic]
      exact if_pos (BitVec.le_def.mpr fits)
  unfold checkTxmsg
  rw [typed]
  exact if_neg fun both => absurd both.1 (by decide)

theorem ucanRxFrame_has_rtr (rm : Nat → U8) :
    (ucanRxFrame rm).msg.has pcanfdMsgRtr = decide (u16At rm 22 &&& ucanMsgRtr ≠ 0) := by
  have all : ∀ brs esi ext rtr echo slf sng : Bool,
      decide ((flagIf brs pcanfdMsgBrs ||| flagIf esi pcanfdMsgEsi ||| flagIf ext pcanfdMsgExt |||
        flagIf rtr pcanfdMsgRtr ||| flagIf echo pcanfdMsgEcho ||| flagIf slf pcanfdMsgSlf |||
        flagIf sng pcanfdMsgSng) &&& pcanfdMsgRtr ≠ 0) = rtr := by decide +kernel
  exact all _ _ _ _ _ _ _

theorem ucanRxFrame_remote {rm : Nat → U8} (remote : (ucanRxFrame rm).msg.has pcanfdMsgRtr = true)
    (j : Fin 64) : (ucanRxFrame rm).msg.data.get j = 0 := by
  rw [ucanRxFrame_has_rtr] at remote
  have data : (ucanRxFrame rm).msg.data.get j =
      if !decide (u16At rm 22 &&& ucanMsgRtr ≠ 0) && decide (j.val < (if decide
        (u16At rm 22 &&& ucanMsgExtDataLen ≠ 0) then pcanDlc2len (rm 20 >>> 4)
          else min (rm 20 >>> 4).toNat 8)) then rm (28 + j) else 0 := by
    unfold ucanRxFrame
    exact Vector.getElem_ofFn _
  rw [data, remote]
  rfl

theorem onBus_flags : ∀ flags : U8,
    ((if decide (flags &&& canfdEsi ≠ 0) then canfdEsi else 0) |||
      (if decide (flags &&& canfdBrs ≠ 0) then canfdBrs else 0)) =
      flags &&& (canfdEsi ||| canfdBrs) := by
  decide +kernel

theorem netdevRxFrame_roundTrip {skb : CanSkb} {r : PcanfdMsg}
    (trip : RoundTrip (netdevTxMsg skb) r)
    (remote : r.has pcanfdMsgRtr = true → ∀ j : Fin 64, r.data.get j = 0) :
    netdevRxFrame skb.fd r = skb.onBus := by
  obtain ⟨rtr, ext, esi, brs⟩ := netdevTxMsg_has skb
  have length : r.dataLen.toNat = pcanDlc2len (pcanLen2dlc skb.len) := by
    rw [trip.length]
    congr 2
    apply BitVec.eq_of_toNat_eq
    rw [BitVec.toNat_setWidth, netdevTxMsg_dataLen]
    exact Nat.mod_eq_of_lt skb.len.isLt
  have classic : ∀ len : U8, len.toNat ≤ 8 → pcanDlc2len (pcanLen2dlc len) ≤ 8 := by
    decide +kernel
  have bounded : min r.dataLen.toNat (if skb.fd then 64 else 8) =
      pcanDlc2len (pcanLen2dlc skb.len) := by
    rw [length]
    cases fd : skb.fd with
    | true => exact Nat.min_eq_left (pcanDlc2len_le _)
    | false => exact Nat.min_eq_left (classic _ (by have := skb.fits; rwa [fd] at this))
  have type : decide ((netdevTxMsg skb).type = .can20Msg) = !skb.fd ∧
      decide ((netdevTxMsg skb).type = .canfdMsg) = skb.fd := by
    cases fd : skb.fd <;> simp [netdevTxMsg, fd]
  have remoted : r.has pcanfdMsgRtr = (!skb.fd && decide (skb.canId &&& canRtrFlag ≠ 0)) := by
    rw [trip.rtr, type.1, rtr]
  ext1
  case fd => rfl
  case canId =>
    show r.id &&& canErrMask ||| flagIf (r.has pcanfdMsgRtr) canRtrFlag |||
      flagIf (r.has pcanfdMsgExt) canEffFlag = _
    have id : r.id &&& canErrMask = if skb.canId &&& canEffFlag ≠ 0 then skb.canId &&& canErrMask
        else skb.canId &&& 0x7FF := by
      rw [trip.id, ext]
      simp only [decide_eq_true_eq, netdevTxMsg]
      split <;> simp only [BitVec.and_assoc] <;> rfl
    rw [id, remoted, trip.ext, ext]
    rfl
  case len =>
    show BitVec.ofNat 8 (min r.dataLen.toNat (if skb.fd then 64 else 8)) = _
    rw [bounded]
    rfl
  case flags =>
    show (if skb.fd then (if r.has pcanfdMsgEsi then canfdEsi else 0) |||
      (if r.has pcanfdMsgBrs then canfdBrs else 0) else 0) = if skb.fd then _ else 0
    rw [trip.esi, trip.brs, type.2, esi, brs]
    cases skb.fd with
    | true => exact onBus_flags skb.flags
    | false => rfl
  case data =>
    apply Vector.ext
    intro j inside
    have received : (netdevRxFrame skb.fd r).data[j] =
        if j < min r.dataLen.toNat (if skb.fd then 64 else 8) then
          r.data.get ⟨j, inside⟩ else 0 := Vector.getElem_ofFn _
    have carried : skb.onBus.data[j] =
        if (skb.fd || decide (skb.canId &&& canRtrFlag = 0)) && decide (j < skb.len.toNat) then
          skb.data.get ⟨j, inside⟩ else 0 := Vector.getElem_ofFn _
    rw [received, carried, bounded]
    have holds := dlc_holds_length ⟨skb.len.toNat, by
      have := skb.fits
      have : (if skb.fd then 64 else 8) ≤ 64 := by cases skb.fd <;> decide
      omega⟩
    simp only [BitVec.ofNat_toNat, BitVec.setWidth_eq] at holds
    by_cases isRemote : r.has pcanfdMsgRtr = true
    · have zero := remote isRemote ⟨j, inside⟩
      rw [remoted] at isRemote
      simp only [Bool.and_eq_true, Bool.not_eq_true', decide_eq_true_eq] at isRemote
      rw [zero, isRemote.1, decide_eq_false isRemote.2]
      simp
    · rw [Bool.not_eq_true] at isRemote
      have plain : r.data.get ⟨j, inside⟩ = if j < (netdevTxMsg skb).dataLen.toNat then
          (netdevTxMsg skb).data.get ⟨j, inside⟩ else 0 := trip.data isRemote ⟨j, inside⟩
      rw [remoted] at isRemote
      have carries : (skb.fd || decide (skb.canId &&& canRtrFlag = 0)) = true := by
        revert isRemote
        cases skb.fd <;> simp
      rw [plain, carries]
      simp only [Bool.true_and, decide_eq_true_eq, netdevTxMsg_dataLen]
      by_cases short : j < skb.len.toNat
      · rw [if_pos (by omega), if_pos short, if_pos short]
        exact (Vector.getElem_ofFn inside).trans (if_pos short)
      · rw [if_neg short, if_neg short, ite_self]

theorem has_of_content {rx rx' : PcanfdRxmsg} (same : rx.content = rx'.content) {bit : U32}
    (apart : ~~~driverFlags &&& bit = bit) : rx.msg.has bit = rx'.msg.has bit := by
  have flags : rx.msg.flags &&& ~~~driverFlags = rx'.msg.flags &&& ~~~driverFlags :=
    congrArg FrameContent.flags same
  have masked : ∀ f : U32, f &&& bit = (f &&& ~~~driverFlags) &&& bit := by
    intro f
    rw [BitVec.and_assoc, apart]
  unfold PcanfdMsg.has
  rw [masked, flags, ← masked]

theorem netdevRxFrame_content (fd : Bool) {rx rx' : PcanfdRxmsg} (same : rx.content = rx'.content) :
    netdevRxFrame fd rx.msg = netdevRxFrame fd rx'.msg := by
  have id : rx.msg.id = rx'.msg.id := congrArg FrameContent.id same
  have dataLen : rx.msg.dataLen = rx'.msg.dataLen := congrArg FrameContent.dataLen same
  have data : rx.msg.data = rx'.msg.data := congrArg FrameContent.data same
  simp only [netdevRxFrame, id, dataLen, data, @has_of_content _ _ same pcanfdMsgRtr (by decide),
    @has_of_content _ _ same pcanfdMsgExt (by decide),
    @has_of_content _ _ same pcanfdMsgEsi (by decide),
    @has_of_content _ _ same pcanfdMsgBrs (by decide)]

theorem stamped_content (rx : PcanfdRxmsg) (ptv : Option PcanTimeval) :
    (rx.stamped ptv).content = rx.content := by
  cases ptv with
  | none => rfl
  | some hwtv =>
    have flags : (rx.msg.flags ||| (pcanfdTimestamp ||| pcanfdHwtimestamp)) &&& ~~~driverFlags =
        rx.msg.flags &&& ~~~driverFlags := Masks.or_and_of_disjoint _ (by decide)
    simp only [PcanfdRxmsg.stamped, PcanfdRxmsg.content, flags]

/-- With memory for it, a CAN message becomes a frame whatever its time is. -/
theorem pcanNetdevRx_can (host : Host) {nd : PcanNetdev P} {fd : Bool} (mode : fd = true → nd.fdMode)
    {pqm : PcanfdRxmsg} (type : pqm.msg.type = if fd then .canfdMsg else .can20Msg) :
    (pcanNetdevRx host true nd pqm).frame.map Prod.fst = some (netdevRxFrame fd pqm.msg) := by
  have delivered : (netdevCanRx host nd fd pqm).frame.map Prod.fst =
      some (netdevRxFrame fd pqm.msg) := by
    unfold netdevCanRx
    split
    · exact congrArg some (netdevRxFrame_content fd (pcanSyncTimestamps_spec host nd.pdev pqm).2)
    · rfl
  unfold pcanNetdevRx
  cases fd with
  | true =>
    rw [if_pos rfl] at type
    simp only [type, mode rfl, Bool.not_true, Bool.false_eq_true, if_false]
    exact delivered
  | false =>
    rw [if_neg Bool.false_ne_true] at type
    simp only [type, Bool.not_true, Bool.false_eq_true, if_false]
    exact delivered

theorem encoded_copied {sender : Pcandev P} {tx : PcanfdTxmsg}
    (queued : sender.writeFifo.oldest = some tx) (short : tx.msg.dataLen.toNat ≤ 64) {size : Nat}
    (room : ucanTxNeeds sender.txIframeDelayUs tx ≤ size) (addr : Nat) (mem rm : Nat → U8) :
    Copied tx (asRxMsg rm fun k =>
      Store.run (ucanEncodeMsgAt sender addr size).stores mem (addr + k)) := by
  have stores : (ucanEncodeMsgAt sender addr size).stores =
      ucanMsgStores sender.nChannel addr tx ++
        ucanPauseStores (addr + ucanTxMsgSize tx) sender.txIframeDelayUs := by
    unfold ucanEncodeMsgAt
    simp only [queued]
    rw [if_neg (by omega)]
  have pause := (ucanPauseStores_read (addr + ucanTxMsgSize tx) sender.txIframeDelayUs
    (Store.run (ucanMsgStores sender.nChannel addr tx) mem)).1
  apply @copied sender.nChannel _ short
  rw [← (ucanMsgStores_read sender.nChannel addr short mem).2]
  apply List.map_congr_left
  intro k member
  have inside := List.mem_range.mp member
  simp only [stores, Store.run_append, Nat.zero_add]
  exact Store.run_outside pause (.inl (by omega)) _

/-- A frame that the socket layer sends is encoded for the device, comes back from it and
    is received by a network device: it is the frame that the bus has carried. -/
theorem netdev_wire_round_trip {sender : Pcandev P} {skb : CanSkb} {tv : Timeval}
    (queued : sender.writeFifo.oldest = some ⟨netdevTxMsg skb, tv⟩) {size : Nat}
    (room : ucanTxNeeds sender.txIframeDelayUs ⟨netdevTxMsg skb, tv⟩ ≤ size) (addr : Nat)
    (mem rm : Nat → U8) (ptv : Option PcanTimeval) (host : Host) {nd : PcanNetdev Q}
    (mode : skb.fd = true → nd.fdMode) :
    let record := fun k => Store.run (ucanEncodeMsgAt sender addr size).stores mem (addr + k)
    let rx := (ucanRxFrame (asRxMsg rm record)).stamped ptv
    (pcanNetdevRx host true nd rx).frame.map Prod.fst = some skb.onBus := by
  intro record rx
  have sent := netdevTxMsg_sent skb tv
  have trip := decoded_frame sent (encoded_copied queued sent.short room addr mem rm)
  have type : rx.msg.type = if skb.fd then .canfdMsg else .can20Msg := by
    have kept : rx.msg.type = (ucanRxFrame (asRxMsg rm record)).msg.type := by cases ptv <;> rfl
    exact kept.trans trip.type
  rw [pcanNetdevRx_can host mode type, netdevRxFrame_content skb.fd (stamped_content _ ptv),
    netdevRxFrame_roundTrip trip ucanRxFrame_remote]

/-- An extended FD frame of nine bytes is received with twelve. -/
def sampleSkb : CanSkb :=
  ⟨true, canEffFlag ||| 0x12345, 9, canfdBrs, Vector.replicate 64 0x5a, by decide⟩

def sampleNetdev (pdev : Pcandev P) : PcanNetdev P :=
  ⟨pdev, true, true, .stopped, ⟨0, 0, 0⟩, ⟨0, 0, 0, 0, 0, 0, 0, 0⟩, false⟩

theorem netdev_wire_round_trip_fd :
    let frame : PcanfdTxmsg := ⟨netdevTxMsg sampleSkb, ⟨0, 0⟩⟩
    let sender : Pcandev Unit := { openedChannel () 4 4 0 with writeFifo := ⟨4, [frame], by decide⟩ }
    let record := fun k => Store.run (ucanEncodeMsgAt sender 0 64).stores (fun _ => 0xff) (0 + k)
    let rx := (ucanRxFrame (asRxMsg (fun _ => 0) record)).stamped none
    (pcanNetdevRx sampleHost true (sampleNetdev (openedChannel () 4 4 0)) rx).frame.map
        (fun f => (f.1.canId, f.1.len, f.1.flags)) = some (canEffFlag ||| 0x12345, 12, canfdBrs) := by
  intro frame sender record rx
  have trip := @netdev_wire_round_trip Unit Unit sender sampleSkb ⟨0, 0⟩ rfl 64 (by decide +kernel) 0
    (fun _ => 0xff) (fun _ => 0) none sampleHost (sampleNetdev (openedChannel () 4 4 0))
    (fun _ => rfl)
  have fields := congrArg (Option.map fun f : CanSkb => (f.canId, f.len, f.flags)) trip
  rw [Option.map_map] at fields
  exact fields.trans (by decide +kernel)

end Wire

end PcanDriver

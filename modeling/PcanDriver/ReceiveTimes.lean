import PcanDriver.BusReports
import PcanDriver.PcanUsbTicks
import PcanDriver.PciTx
import PcanDriver.Sja1000Irq

/-!
Where the hardware time of a received message comes from. A message is flagged with
`PCANFD_TIMESTAMP` by its decoder, and `pcan_chardev_rx` then takes the time it finds in
it; here the memory that a decoder finds its message in is a parameter.
-/
namespace PcanDriver
open StepSystem
variable {P : Type}

section Handed

/-- What can be seen of a hardware time: nothing of the device's clock without one. -/
def PcanTimeval.shown (hwtv : PcanTimeval) : HwTimestamp × Timeval × Option (Nat × Nat × Int) :=
  (hwtv.tsMode, hwtv.tv,
    if hwtv.tsMode = .off then none else some (hwtv.tsUs, hwtv.tvUs, hwtv.clockDrift))

def PcanfdRxmsg.flagged (rx : PcanfdRxmsg) : Bool := rx.msg.flags &&& pcanfdTimestamp ≠ 0

/-- The messages that a call hands to `pcan_chardev_rx`, by what its memory holds, and the
    time that decoding has given. -/
structure HandedOver where
  posts : PcanfdRxmsg → List PcanfdRxmsg
  decoded : Option (HwTimestamp × Timeval × Option (Nat × Nat × Int))

/-- Whatever the memory holds, the time of a flagged message is the decoded one. -/
def HandedOver.Assigned (h : HandedOver) : Prop :=
  ∀ memory, ∀ rx ∈ h.posts memory, rx.flagged = true → h.decoded = some rx.hwtv.shown

theorem stamped_flagged {rx : PcanfdRxmsg} {ptv : Option PcanTimeval}
    (unflagged : rx.flagged = false) (flagged : (rx.stamped ptv).flagged = true) :
    ptv = some (rx.stamped ptv).hwtv := by
  cases ptv with
  | none => exact absurd flagged (by rw [PcanfdRxmsg.stamped, unflagged]; exact Bool.false_ne_true)
  | some hwtv => rfl

theorem flagged_of_flags {rx : PcanfdRxmsg} {flags : U32} (same : rx.msg.flags = flags)
    (clear : flags &&& pcanfdTimestamp = 0) : rx.flagged = false := by
  unfold PcanfdRxmsg.flagged
  rw [same, clear]
  rfl

theorem zero_unflagged : PcanfdRxmsg.zero.flagged = false := by decide

theorem pcanHandleErrorActive_flags (write : Pcandev P → Pcandev P × Int) (dev : Pcandev P)
    (rx : PcanfdRxmsg) : (pcanHandleErrorActive write dev rx).2.msg.type = .nop ∨
      (pcanHandleErrorActive write dev rx).2.msg.flags = pcanfdErrorBus := by
  unfold pcanHandleErrorActive
  simp only
  split
  · exact .inr rfl
  · exact .inl rfl

theorem handleBusBits_flags (write : Pcandev P → Pcandev P × Int) (dev : Pcandev P)
    (rx : PcanfdRxmsg) (busoff warning passive : Bool) :
    (handleBusBits write dev rx busoff warning passive).2.msg.type = .nop ∨
      (handleBusBits write dev rx busoff warning passive).2.msg.flags = pcanfdErrorBus := by
  unfold handleBusBits
  split
  · unfold pcanHandleBusoff
    split
    · exact .inl rfl
    · exact .inr rfl
  · unfold pcanHandleErrorStatus
    cases passive <;> cases warning <;> simp only [Bool.false_eq_true, if_false, if_true]
    · split
      · simp only [if_true]
        exact .inl rfl
      · simp only [Bool.false_eq_true, if_false]
        exact pcanHandleErrorActive_flags write dev _
    all_goals exact .inr rfl

end Handed

section Ucan

def ucanFrameHanded (dev : Pcandev P) (rm : Nat → U8) (ptv : Option PcanTimeval) :
    Option PcanfdRxmsg :=
  if dev.busState = .unknown ∨ dev.busState = .errorBusoff then none
  else some ((ucanRxFrame rm).stamped ptv)

/-- The channel when its message is ready, and the message, of the kinds that carry a
    channel. -/
def ucanPrepared (write : Pcandev P → Pcandev P × Int) (host : Host) (stack : PcanfdRxmsg)
    (dev : Pcandev P) (ptv : Option PcanTimeval) (kind : UcanMsg) (msg : Nat → U8) :
    Pcandev P × Option PcanfdRxmsg :=
  match kind with
  | .canRx =>
    let dev := pcanClearStatusBit host dev canErrQoverrun
    (dev, ucanFrameHanded dev msg ptv)
  | .error =>
    let dev := { dev with rxErrorCounter := msg 15, txErrorCounter := msg 14 }
    let errType : U32 := ((msg 12 >>> 4) &&& 0x07).setWidth 32
    let handled :=
      if errType > pcanfdErrmsgOther then (dev, busStateNotice dev)
      else pcanHandleErrorMsg dev .zero errType (msg 13 &&& 0x7f) (msg 12 &&& 0x80 ≠ 0)
        (msg 13 &&& 0x80 ≠ 0)
    (handled.1, some (handled.2.stamped ptv))
  | .status =>
    let handled := handleBusBits write dev stack (msg 12 &&& 0x80 ≠ 0) (msg 12 &&& 0x40 ≠ 0)
      (msg 12 &&& 0x20 ≠ 0)
    (handled.1, if handled.2.msg.type = .nop then none else some (handled.2.stamped ptv))
  | .busLoad =>
    ({ dev with busLoad := (10000 * (u16At msg 14).toNat / 4096 : Nat) },
      some (busLoadMsg.stamped ptv))
  | .overrun =>
    let counted := { dev with dwErrorCounter := dev.dwErrorCounter + 1 }
    if dev.wCANStatus &&& canErrQoverrun ≠ 0 then (counted, none)
    else ({ counted with wCANStatus := counted.wCANStatus ||| canErrQoverrun },
      some (overflowMsg.stamped ptv))
  | .calibration => (dev, none)

def handOver (host : Host) (prepared : Pcandev P × Option PcanfdRxmsg) : Pcandev P × Int :=
  match prepared.2 with
  | some rx => posted host prepared.1 rx
  | none => (prepared.1, 0)

/-- A USB FD device does not decode the timestamp of a bus load. -/
def usbfdDecoded (env : DecodeEnv) (time : UsbTime) (kind : UcanMsg) (msg : Nat → U8)
    (dev : UsbDev) : UsbDev × Option PcanTimeval :=
  if kind = .busLoad then (dev, none)
  else pcanUsbproTimestampDecode env.host time dev (u32At msg 4)

def usbfdPrepared (env : DecodeEnv) (time : UsbTime) (kind : UcanMsg) (msg : Nat → U8)
    (c : UsbChannel) : UsbDev × Option PcanfdRxmsg :=
  let decoded := usbfdDecoded env time kind msg c.dev
  ucanPrepared (pcanUsbWrite .ucan env.submit env.host) env.host env.stack decoded.1 decoded.2 kind
    msg

theorem pcanUsbfdDecode_prepared (env : DecodeEnv) (time : UsbTime) {kind : UcanMsg}
    (msg : Nat → U8) (c : UsbChannel) (carries : kind ≠ .calibration) :
    pcanUsbfdDecode env time kind msg c =
      let done := c.noted (handOver env.host (usbfdPrepared env time kind msg c))
      (if kind = .status then { done.1 with dev := stopIdleEngine done.1.dev } else done.1,
        done.2) := by
  unfold pcanUsbfdDecode usbfdPrepared usbfdDecoded
  cases kind with
  | canRx =>
    simp only [reduceCtorEq, if_false, ucanPrepared, ucanPostCanrxMsg, ucanFrameHanded]
    split <;> rfl
  | error => rfl
  | status =>
    simp only [reduceCtorEq, if_false, if_true, ucanPrepared, pcanUsbfdDecodeStatus,
      ucanPostStatusMsg, postUnlessNop]
    rw [stamped_type]
    split <;> rfl
  | busLoad => rfl
  | overrun =>
    simp only [reduceCtorEq, if_false, ucanPrepared, ucanPostOverflowMsg]
    split <;> rfl
  | calibration => exact absurd rfl carries

theorem or_flagIf_and {flag mask : U32} (clear : flag &&& mask = 0) (flags : U32)
    (condition : Bool) : (flags ||| flagIf condition flag) &&& mask = flags &&& mask := by
  unfold flagIf
  split
  · exact Masks.or_and_of_disjoint _ clear
  · rw [show flags ||| (0 : U32) = flags from BitVec.or_zero]

theorem ucanRxFrame_unflagged (rm : Nat → U8) : (ucanRxFrame rm).flagged = false := by
  unfold PcanfdRxmsg.flagged ucanRxFrame
  simp only
  rw [or_flagIf_and (by decide), or_flagIf_and (by decide), or_flagIf_and (by decide),
    or_flagIf_and (by decide), or_flagIf_and (by decide), or_flagIf_and (by decide)]
  unfold flagIf
  split <;> decide

theorem busStateNotice_unflagged (dev : Pcandev P) : (busStateNotice dev).flagged = false :=
  @flagged_of_flags _ pcanfdErrorBus rfl (by decide)

theorem pcanHandleErrorMsg_flagged (dev : Pcandev P) (rx : PcanfdRxmsg) (errType : U32)
    (errCode : U8) (errRx errGen : Bool) :
    (pcanHandleErrorMsg dev rx errType errCode errRx errGen).2.flagged = rx.flagged := by
  unfold PcanfdRxmsg.flagged pcanHandleErrorMsg
  simp only
  rw [or_flagIf_and (by decide), or_flagIf_and (by decide)]

theorem ucanPrepared_time (write : Pcandev P → Pcandev P × Int) (host : Host) (stack : PcanfdRxmsg)
    (dev : Pcandev P) (ptv : Option PcanTimeval) (kind : UcanMsg) (msg : Nat → U8) :
    ∀ rx ∈ (ucanPrepared write host stack dev ptv kind msg).2, rx.flagged = true →
      ptv = some rx.hwtv := by
  intro rx member flagged
  unfold ucanPrepared at member
  cases kind with
  | canRx =>
    simp only [ucanFrameHanded] at member
    split at member
    · cases member
    · cases member
      exact stamped_flagged (ucanRxFrame_unflagged msg) flagged
  | error =>
    simp only at member
    cases member
    refine stamped_flagged ?_ flagged
    split
    · exact busStateNotice_unflagged _
    · rw [pcanHandleErrorMsg_flagged]
      decide
  | status =>
    simp only at member
    split at member
    · cases member
    next told =>
      cases member
      refine stamped_flagged ?_ flagged
      rcases handleBusBits_flags write dev stack (msg 12 &&& 0x80 ≠ 0) (msg 12 &&& 0x40 ≠ 0)
        (msg 12 &&& 0x20 ≠ 0) with nop | flags
      · exact absurd nop told
      · exact flagged_of_flags flags (by decide)
  | busLoad =>
    cases member
    exact stamped_flagged (by decide) flagged
  | overrun =>
    simp only at member
    split at member
    · cases member
    · cases member
      exact stamped_flagged (by decide) flagged
  | calibration => cases member

end Ucan

section Usbpro

theorem usbproRxFrame_unflagged (rx : Nat → U8) : (usbproRxFrame rx).flagged = false := by
  unfold PcanfdRxmsg.flagged usbproRxFrame
  simp only
  rw [or_flagIf_and (by decide), or_flagIf_and (by decide)]
  unfold flagIf
  split <;> decide

/-- The message of a status record, and the time that is decoded for it. -/
def usbproStatusPrepared (write : Pcandev P → Pcandev P × Int) (host : Host) (time : UsbTime)
    (dev : Pcandev P) (rawStatus errorFrame timestamp32 : U32) :
    Option PcanfdRxmsg × Option PcanTimeval :=
  let handled := usbproStatus write dev rawStatus errorFrame
  let decoded := pcanUsbproTimestampDecode host time handled.1 timestamp32
  (if handled.2.msg.type = .nop then none else some (handled.2.stamped decoded.2), decoded.2)

theorem pcanUsbproHandleStatusErrRx_prepared (write : Pcandev P → Pcandev P × Int) (host : Host)
    (time : UsbTime) (dev : Pcandev P) (rawStatus errorFrame timestamp32 : U32) :
    let handled := usbproStatus write dev rawStatus errorFrame
    pcanUsbproHandleStatusErrRx write host time dev rawStatus errorFrame timestamp32 =
      match (usbproStatusPrepared write host time dev rawStatus errorFrame timestamp32).1 with
      | some rx =>
        let posted := posted host (pcanUsbproTimestampDecode host time handled.1 timestamp32).1 rx
        (countFailure posted.1 posted.2, posted.2)
      | none => (handled.1, 0) := by
  unfold pcanUsbproHandleStatusErrRx usbproStatusPrepared
  simp only
  split <;> rfl

theorem usbproStatus_unflagged (write : Pcandev P → Pcandev P × Int) (dev : Pcandev P)
    (rawStatus errorFrame : U32)
    (told : (usbproStatus write dev rawStatus errorFrame).2.msg.type ≠ .nop) :
    (usbproStatus write dev rawStatus errorFrame).2.flagged = false := by
  unfold usbproStatus usbproOverruns at told ⊢
  simp only at told ⊢
  split
  · exact @flagged_of_flags _ pcanfdErrorCtrlr rfl (by decide)
  · split
    · exact @flagged_of_flags _ pcanfdErrorProtocol rfl (by decide)
    next unqueued unoverrun =>
      rw [if_neg unqueued, if_neg unoverrun] at told
      rcases handleBusBits_flags write (usbproErrorCounters dev rawStatus errorFrame) .zero
        (rawStatus &&& fwUsbproStatusMaskBusS ≠ 0) (rawStatus &&& fwUsbproStatusMaskErrorS ≠ 0)
        (usbproPassive errorFrame) with nop | flags
      · exact absurd nop told
      · exact flagged_of_flags flags (by decide)

theorem usbproStatusPrepared_time (write : Pcandev P → Pcandev P × Int) (host : Host)
    (time : UsbTime) (dev : Pcandev P) (rawStatus errorFrame timestamp32 : U32) :
    ∀ rx ∈ (usbproStatusPrepared write host time dev rawStatus errorFrame timestamp32).1,
      rx.flagged = true →
        (usbproStatusPrepared write host time dev rawStatus errorFrame timestamp32).2 =
          some rx.hwtv := by
  intro rx member flagged
  unfold usbproStatusPrepared at member ⊢
  simp only at member ⊢
  split at member
  · cases member
  next told =>
    cases member
    exact stamped_flagged (usbproStatus_unflagged write dev rawStatus errorFrame told) flagged

end Usbpro

section Pcifd

/-- The messages that a PCIe FD board puts into its Rx DMA area. -/
inductive PcifdMsg where
  | canRx
  | error
  | busLoad
  | status
  | cacheCritical
deriving Repr, DecidableEq

def pcifdDecodeTimestamp (dev : PciDev) (msg : Nat → U8) : Option PcanTimeval :=
  pcanSyncDecode dev (u32At msg 4) (u32At msg 8)

/-- `pcifd_handlers` and `ucan_pcie_handle_private_msg`. A status with the RB bit is the
    confirmation of the RX barrier. -/
def pcifdHandle (host : Host) (stack : PcanfdRxmsg) (dev : PciDev) (msg : Nat → U8) :
    PcifdMsg → PciDev × Int
  | .canRx => ucanPostCanrxMsg host dev msg (pcifdDecodeTimestamp dev msg)
  | .error => ucanPostErrorMsg host dev msg (pcifdDecodeTimestamp dev msg)
  | .busLoad => ucanPostBusLoadMsg host dev msg (pcifdDecodeTimestamp dev msg)
  | .status =>
    if msg 12 &&& 0x10 ≠ 0 then (pcifdHandleBarrier host stack dev, 0)
    else ucanPostStatusMsg (pcifdDeviceWrite host stack) host stack dev (msg 12 &&& 0x80 ≠ 0)
      (msg 12 &&& 0x40 ≠ 0) (msg 12 &&& 0x20 ≠ 0) (pcifdDecodeTimestamp dev msg)
  | .cacheCritical => (postErrorCtrl host dev stack .rxOverflow, 0)

def PcifdMsg.decoded (dev : PciDev) (msg : Nat → U8) : PcifdMsg → Option PcanTimeval
  | .canRx | .error | .busLoad | .status => pcifdDecodeTimestamp dev msg
  | .cacheCritical => none

def pcifdPrepared (host : Host) (stack : PcanfdRxmsg) (dev : PciDev) (msg : Nat → U8)
    (kind : PcifdMsg) : PciDev × Option PcanfdRxmsg :=
  let ucan := ucanPrepared (pcifdDeviceWrite host stack) host stack dev (kind.decoded dev msg)
  match kind with
  | .canRx => ucan .canRx msg
  | .error => ucan .error msg
  | .busLoad => ucan .busLoad msg
  | .status =>
    if msg 12 &&& 0x10 ≠ 0 then (pcifdHandleBarrier host stack dev, none) else ucan .status msg
  | .cacheCritical =>
    let handled := pcanHandleErrorCtrl dev stack .rxOverflow
    (handled.1, some handled.2)

theorem pcifdHandle_prepared (host : Host) (stack : PcanfdRxmsg) (dev : PciDev) (msg : Nat → U8)
    (kind : PcifdMsg) : pcifdHandle host stack dev msg kind =
      let done := handOver host (pcifdPrepared host stack dev msg kind)
      (done.1, if kind = .cacheCritical then 0 else done.2) := by
  unfold pcifdHandle pcifdPrepared
  cases kind with
  | canRx =>
    simp only [reduceCtorEq, if_false, ucanPrepared, ucanPostCanrxMsg, ucanFrameHanded]
    split <;> rfl
  | error => rfl
  | busLoad => rfl
  | status =>
    simp only [reduceCtorEq, if_false]
    split
    · rfl
    · simp only [ucanPrepared, ucanPostStatusMsg, postUnlessNop]
      rw [stamped_type]
      split <;> rfl
  | cacheCritical => rfl

theorem pcifdPrepared_time (host : Host) (stack : PcanfdRxmsg) (dev : PciDev) (msg : Nat → U8)
    (kind : PcifdMsg) : ∀ rx ∈ (pcifdPrepared host stack dev msg kind).2, rx.flagged = true →
      kind.decoded dev msg = some rx.hwtv := by
  intro rx member flagged
  unfold pcifdPrepared at member
  cases kind with
  | canRx => exact ucanPrepared_time _ _ _ _ _ _ _ rx member flagged
  | error => exact ucanPrepared_time _ _ _ _ _ _ _ rx member flagged
  | busLoad => exact ucanPrepared_time _ _ _ _ _ _ _ rx member flagged
  | status =>
    simp only at member
    split at member
    · cases member
    · exact ucanPrepared_time _ _ _ _ _ _ _ rx member flagged
  | cacheCritical =>
    cases member
    exact absurd flagged (by
      rw [@flagged_of_flags _ pcanfdErrorCtrlr rfl (by decide)]
      exact Bool.false_ne_true)

end Pcifd

section Sja1000

theorem sja1000RxFrame_unflagged (readreg : Nat → U8) (f : PcanfdRxmsg) :
    (sja1000RxFrame readreg f).flagged = false := by
  unfold PcanfdRxmsg.flagged sja1000RxFrame
  simp only
  rw [or_flagIf_and (by decide)]
  unfold flagIf
  split <;> decide

theorem sja1000Read_unflagged (host : Nat → Host) (readreg : Nat → Nat → U8) (msgs i : Nat)
    (f : PcanfdRxmsg) (dev : Sja1000Dev) :
    ∀ rx ∈ (sja1000Read host readreg msgs i f dev).posts, rx.flagged = false := by
  induction msgs generalizing i f dev with
  | zero => exact fun _ member => nomatch member
  | succ msgs ih =>
    intro rx member
    unfold sja1000Read at member
    split at member
    · cases member
    · rcases List.mem_cons.mp member with frame | later
      · rw [frame]
        exact sja1000RxFrame_unflagged (readreg i) f
      · exact ih _ _ _ rx later

theorem sja1000ErrorState_unflagged (irq : Sja1000Irq) (dev : Sja1000Dev) {ef : PcanfdRxmsg}
    (clear : ef.flagged = false) : (sja1000ErrorState irq dev ef).2.flagged = false := by
  have told : ∀ {rx : PcanfdRxmsg}, rx.msg.flags = pcanfdErrorBus → rx.flagged = false :=
    fun flags => flagged_of_flags flags (by decide)
  unfold sja1000ErrorState
  simp only
  split
  · unfold pcanHandleErrorActive
    simp only
    split
    · exact told rfl
    · exact clear
  · split
    · unfold pcanHandleErrorStatus
      cases irq.raised errorPassivInterrupt <;> exact told rfl
    · unfold pcanHandleBusoff
      split
      · exact clear
      · exact told rfl

theorem sja1000Errors_unflagged (irq : Sja1000Irq) (dev : Sja1000Dev) {ef : PcanfdRxmsg}
    (clear : ef.flagged = false) : (sja1000Errors irq dev ef).2.flagged = false := by
  have overrun : (if irq.raised dataOverrunInterrupt then pcanHandleErrorCtrl dev ef .rxOverflow
      else (dev, ef)).2.flagged = false := by
    split
    · exact @flagged_of_flags _ pcanfdErrorCtrlr rfl (by decide)
    · exact clear
  unfold sja1000Errors
  simp only
  split
  · exact sja1000ErrorState_unflagged irq _ overrun
  · split
    · exact (pcanHandleErrorMsg_flagged dev _ _ _ _ _).trans overrun
    · exact overrun

theorem sja1000IrqLoop_unflagged (irqmaxrmsg : Nat) (irqs : Nat → Sja1000Irq) (irqmaxloop j : Nat)
    (dev : Sja1000Dev) {ef : PcanfdRxmsg} (clear : ef.flagged = false) :
    ∀ rx ∈ (sja1000IrqLoop irqmaxrmsg irqs irqmaxloop j dev ef).posts, rx.flagged = false := by
  induction irqmaxloop generalizing j dev ef with
  | zero => exact fun _ member => nomatch member
  | succ irqmaxloop ih =>
    intro rx member
    have frames : ∀ rx ∈ (sja1000Frames irqmaxrmsg (irqs j) dev).posts, rx.flagged = false := by
      unfold sja1000Frames
      simp only
      split
      · exact sja1000Read_unflagged _ _ _ _ _ _
      · exact fun _ member => nomatch member
    have errors :=
      sja1000Errors_unflagged (irqs j) (sja1000Frames irqmaxrmsg (irqs j) dev).dev clear
    unfold sja1000IrqLoop sja1000IrqPass at member
    simp only at member
    split at member
    · cases member
    · rcases List.mem_append.mp member with pass | later
      · split at pass
        · exact frames rx pass
        · rcases List.mem_append.mp pass with frame | told
          · exact frames rx frame
          · rw [List.mem_singleton.mp told]
            exact errors
      · refine ih _ _ ?_ rx later
        split
        · exact errors
        · exact zero_unflagged

end Sja1000

section PcanUsb

/-- Records whose message is flagged: all frames, and errors that carry a stamp. The
    handlers of the other functions set the flags of their messages anew. -/
def UsbRecord.stampedPost : UsbRecord → Bool
  | .canMsg .. => true
  | .internal _ ticks (.errorFrame ..) => ticks.isSome
  | .internal .. => false

def PcanUsb.decoded (usb : PcanUsb) (host : Host) (ticks : UsbTicks) :
    Option (HwTimestamp × Timeval × Option (Nat × Nat × Int)) :=
  (usb.time.converted ticks).map fun count =>
    (syncDecodeInto host usb.channel.dev (pcanTicksToTs count) default).shown

/-- What `pcan_sync_decode` leaves of a time is not shown. -/
theorem syncDecodeInto_shown (host : Host) (dev : Pcandev P) (ts : U32 × U32)
    (hwtv hwtv' : PcanTimeval) :
    (syncDecodeInto host dev ts hwtv).shown = (syncDecodeInto host dev ts hwtv').shown := by
  unfold syncDecodeInto
  cases pcanSyncDecode dev ts.1 ts.2 with
  | some given => rfl
  | none => rfl

theorem PcanUsb.stamp_shown {usb : PcanUsb} {host : Host} {ticks : UsbTicks} (hwtv : PcanTimeval)
    (synced : usb.time.syncTicksInit ≠ 0) :
    usb.decoded host ticks = some (usb.stamp host ticks hwtv).2.shown := by
  rw [usb.stamp_eq]
  unfold PcanUsb.decoded PcanUsbTime.converted
  rw [if_neg synced]
  exact congrArg some (syncDecodeInto_shown host usb.channel.dev _ _ _)

def handedRecord (env : DecodeEnv) (usb : PcanUsb) (record : UsbRecord) : HandedOver where
  posts memory := (handleRecord { env with stack := memory } usb record).posts
  decoded := record.ticks.bind (usb.decoded env.host)

/-- A flagged message comes from a synchronised adapter. -/
def SyncedStamp (usb : PcanUsb) (record : UsbRecord) : Prop :=
  record.stampedPost = true → usb.time.syncTicksInit ≠ 0

instance decidableSyncedStamp (usb : PcanUsb) (record : UsbRecord) :
    Decidable (SyncedStamp usb record) := inferInstanceAs (Decidable (_ → _))

theorem pcanUsbFrame_flagged (ucStatusLen : U8) (slf : Bool) (id : U32) (data : List U8)
    (hwtv : PcanTimeval) : (pcanUsbFrame ucStatusLen slf id data hwtv).flagged = true := by
  unfold PcanfdRxmsg.flagged pcanUsbFrame
  simp only
  rw [or_flagIf_and (by decide), or_flagIf_and (by decide), or_flagIf_and (by decide)]
  decide

theorem PcanfdRxmsg.withData_flagged (rx : PcanfdRxmsg) (bytes : List U8) :
    (rx.withData bytes).flagged = rx.flagged := by
  unfold PcanfdRxmsg.flagged PcanfdRxmsg.withData
  simp only

theorem PcanfdRxmsg.withData_type (rx : PcanfdRxmsg) (bytes : List U8) :
    (rx.withData bytes).msg.type = rx.msg.type := by
  unfold PcanfdRxmsg.withData
  simp only

/-- Of the internal functions only the error frame keeps the flags of its record. -/
theorem handleFunction_flagged (env : DecodeEnv) (usb : PcanUsb) {rx : PcanfdRxmsg}
    (blank : rx.msg.type = .nop) {function : UsbFunction}
    (told : (handleFunction env usb rx function).2.msg.type ≠ .nop) :
    (handleFunction env usb rx function).2.flagged =
      match function with
      | .errorFrame .. => rx.flagged
      | _ => false := by
  have bus : ∀ {rx' : PcanfdRxmsg}, rx'.msg.type = .nop ∨ rx'.msg.flags = pcanfdErrorBus →
      rx'.msg.type ≠ .nop → rx'.flagged = false := by
    intro rx' handled posted
    exact flagged_of_flags (handled.resolve_left posted) (by decide)
  cases function with
  | status ucNumber bytes =>
    simp only [handleFunction] at told ⊢
    rw [PcanfdRxmsg.withData_flagged]
    rw [PcanfdRxmsg.withData_type] at told
    exact bus (handleBusBits_flags _ _ _ _ _ _) told
  | onlyTimestamp ticks =>
    simp only [handleFunction] at told ⊢
    split at told
    next unknown =>
      rw [if_pos unknown]
      exact bus (pcanHandleErrorActive_flags (pcanUsbWrite .pcanUsb env.submit env.host) _ _) told
    next => exact absurd blank told
  | errorFrame ecc counters =>
    simp only [handleFunction]
    exact pcanHandleErrorMsg_flagged _ _ _ _ _ _
  | analogValue | busLoad | prepared | unexpected => exact absurd blank told

theorem internalMsg_flagged (ucStatusLen : U8) (stamped : Bool) (hwtv : PcanTimeval) :
    (internalMsg ucStatusLen stamped hwtv).flagged = stamped := by
  have flags : (internalMsg ucStatusLen stamped hwtv).msg.flags = flagIf stamped stampFlags := rfl
  unfold PcanfdRxmsg.flagged
  rw [flags]
  cases stamped <;> decide

theorem handleInternal_posts {env : DecodeEnv} {usb : PcanUsb} {rx rx' : PcanfdRxmsg}
    {function : UsbFunction} (member : rx' ∈ (handleInternal env usb rx function).posts) :
    rx' = (handleFunction env usb rx function).2 ∧ rx'.msg.type ≠ .nop := by
  unfold handleInternal at member
  split at member
  · cases member
  · simp only at member
    split at member
    · cases member
    next told =>
      rw [List.mem_singleton.mp member]
      exact ⟨rfl, told⟩

theorem handleInternal_flagged {env : DecodeEnv} {usb : PcanUsb} {ucStatusLen : U8}
    {ticks : Option UsbTicks} {hwtv : PcanTimeval} {function : UsbFunction} {rx : PcanfdRxmsg}
    (member : rx ∈ (handleInternal env usb (internalMsg ucStatusLen ticks.isSome hwtv)
      function).posts) (flagged : rx.flagged = true) :
    (UsbRecord.internal ucStatusLen ticks function).stampedPost = true ∧ rx.hwtv = hwtv := by
  obtain ⟨same, told⟩ := handleInternal_posts member
  rw [same] at told flagged
  rw [handleFunction_flagged env usb rfl told] at flagged
  cases function with
  | errorFrame ecc counters =>
    rw [same]
    simp only [internalMsg_flagged] at flagged
    exact ⟨flagged, rfl⟩
  | status | analogValue | busLoad | onlyTimestamp | prepared | unexpected => cases flagged

theorem handleInternal_error (env : DecodeEnv) (usb : PcanUsb) (ucStatusLen : U8)
    (hwtv : PcanTimeval) (ecc : U8) (counters : Option (U8 × U8)) :
    ∃ rx ∈ (handleInternal env usb (internalMsg ucStatusLen true hwtv)
      (.errorFrame ecc counters)).posts, rx.flagged = true := by
  refine ⟨(handleFunction env usb (internalMsg ucStatusLen true hwtv)
    (.errorFrame ecc counters)).2, ?_, ?_⟩
  · simp only [handleInternal, reduceCtorEq, if_false]
    exact List.mem_singleton_self _
  · simp only [handleFunction]
    rw [pcanHandleErrorMsg_flagged, internalMsg_flagged]

theorem handedRecord_assigned_iff (env : DecodeEnv) (usb : PcanUsb) (record : UsbRecord) :
    (handedRecord env usb record).Assigned ↔ SyncedStamp usb record := by
  have unsynced : ∀ ticks, usb.time.syncTicksInit = 0 → usb.decoded env.host ticks = none := by
    intro ticks zero
    unfold PcanUsb.decoded PcanUsbTime.converted
    rw [if_pos zero]
    rfl
  cases record with
  | canMsg ucStatusLen slf id ticks data =>
    constructor
    · intro assigned _ zero
      have decoded := assigned .zero _ (List.mem_singleton_self _) (pcanUsbFrame_flagged _ _ _ _ _)
      have nothing :
          (handedRecord env usb (.canMsg ucStatusLen slf id ticks data)).decoded = none :=
        unsynced ticks zero
      rw [nothing] at decoded
      cases decoded
    · intro synced memory rx member _
      rw [List.mem_singleton.mp member]
      exact PcanUsb.stamp_shown memory.hwtv (synced rfl)
  | internal ucStatusLen ticks function =>
    constructor
    · intro assigned stamped zero
      cases function with
      | errorFrame ecc counters =>
        cases ticks with
        | none => cases stamped
        | some ticks =>
          obtain ⟨rx, member, flagged⟩ := handleInternal_error { env with stack := .zero }
            (usb.stampIf env.host (some ticks) PcanfdRxmsg.zero.hwtv).1 ucStatusLen
            (usb.stampIf env.host (some ticks) PcanfdRxmsg.zero.hwtv).2 ecc counters
          have decoded := assigned .zero rx member flagged
          have nothing : (handedRecord env usb (.internal ucStatusLen (some ticks)
              (.errorFrame ecc counters))).decoded = none := unsynced ticks zero
          rw [nothing] at decoded
          cases decoded
      | status | analogValue | busLoad | onlyTimestamp | prepared | unexpected => cases stamped
    · intro synced memory rx member flagged
      obtain ⟨stamped, hwtv⟩ := handleInternal_flagged member flagged
      have base := synced stamped
      rw [hwtv]
      cases ticks with
      | none =>
        cases function with
        | errorFrame => cases stamped
        | status | analogValue | busLoad | onlyTimestamp | prepared | unexpected => cases stamped
      | some ticks => exact PcanUsb.stamp_shown memory.hwtv base

end PcanUsb

section Packets

/-- A record, and the state in which the loop over the records comes to it. -/
structure UsbVisit where
  env : DecodeEnv
  usb : PcanUsb
  record : UsbRecord

def recordVisits (ucRevision : Nat) (env : Nat → DecodeEnv) (mem : Nat → U8)
    (lCurrentLength : Nat) : Nat → Nat → Nat → Bool → PcanUsb → List UsbVisit
  | 0, _, _, _, _ => []
  | ucMsgLen + 1, i, ptr, ts8, usb =>
    let parsed := parseRecord ucRevision mem ptr ts8
    let handled := handleRecord (env i) usb parsed.record
    ⟨env i, usb, parsed.record⟩ ::
      if handled.err < 0 ∨ exceedsPacket ucRevision parsed.ptr lCurrentLength = true then []
      else recordVisits ucRevision env mem lCurrentLength ucMsgLen (i + 1) parsed.ptr parsed.ts8
        handled.usb

theorem decodeRecords_posts (ucRevision : Nat) (env : Nat → DecodeEnv) (mem : Nat → U8)
    (lCurrentLength ucMsgLen i ptr : Nat) (ts8 : Bool) (usb : PcanUsb) :
    (decodeRecords ucRevision env mem lCurrentLength ucMsgLen i ptr ts8 usb).posts =
      (recordVisits ucRevision env mem lCurrentLength ucMsgLen i ptr ts8 usb).flatMap
        fun v => (handleRecord v.env v.usb v.record).posts := by
  induction ucMsgLen generalizing i ptr ts8 usb with
  | zero => rfl
  | succ ucMsgLen ih =>
    simp only [decodeRecords, recordVisits, List.flatMap_cons]
    split
    next failed => rw [if_pos (.inl failed), List.flatMap_nil, List.append_nil]
    next handled =>
      split
      next exceeds => rw [if_pos (.inr exceeds), List.flatMap_nil, List.append_nil]
      next inside =>
        rw [if_neg (not_or.mpr ⟨handled, inside⟩)]
        exact congrArg _ (ih _ _ _ _)

structure UsbPacketInput where
  env : Nat → DecodeEnv
  mem : Nat → U8
  lCurrentLength : Nat

def UsbPacketInput.visits (packet : UsbPacketInput) (usb : PcanUsb) : List UsbVisit :=
  let usb := { usb with channel := usb.channel.interrupted }
  if packet.lCurrentLength = 0 then []
  else
    recordVisits usb.channel.dev.port.ucRevision packet.env packet.mem packet.lCurrentLength
      (packet.mem 1).toNat 0 2 false usb

theorem pcanUsbDecodeMessage_posts (usb : PcanUsb) (packet : UsbPacketInput) :
    (pcanUsbDecodeMessage packet.env usb packet.mem packet.lCurrentLength).posts =
      (packet.visits usb).flatMap fun v => (handleRecord v.env v.usb v.record).posts := by
  unfold pcanUsbDecodeMessage UsbPacketInput.visits
  simp only
  split
  · rfl
  · exact decodeRecords_posts _ _ _ _ _ _ _ _ _

def packetStep (usb : PcanUsb) (packet : UsbPacketInput) : PcanUsb × List UsbVisit :=
  ((pcanUsbDecodeMessage packet.env usb packet.mem packet.lCurrentLength).usb, packet.visits usb)

/-- No frame and no stamped error comes before the adapter is synchronised. -/
def SyncedPacket (usb : PcanUsb) (packet : UsbPacketInput) : Prop :=
  ∀ v ∈ packet.visits usb, SyncedStamp v.usb v.record

end Packets

section Times

/-- What one call of a decoder of the other families is given. -/
inductive ReceiveCall where
  | sja1000 (irqmaxrmsg irqmaxloop : Nat) (irqs : Nat → Sja1000Irq) (dev : Sja1000Dev)
  | usbproFrame (env : DecodeEnv) (time : UsbTime) (rx : Nat → U8) (c : UsbChannel)
  | usbproStatus (env : DecodeEnv) (time : UsbTime) (dev : UsbDev)
      (rawStatus errorFrame timestamp32 : U32)
  | usbproBuslast
  | ucanUsb (env : DecodeEnv) (time : UsbTime) (kind : UcanMsg) (msg : Nat → U8) (c : UsbChannel)
  | pcieFd (host : Host) (dev : PciDev) (msg : Nat → U8) (kind : PcifdMsg)

def ReceiveCall.handed : ReceiveCall → HandedOver
  | .sja1000 irqmaxrmsg irqmaxloop irqs dev =>
    ⟨fun memory => (sja1000Irqhandler irqmaxrmsg irqmaxloop
      (fun j => { irqs j with stack := memory }) dev).posts, none⟩
  | .usbproFrame env time rx c =>
    ⟨fun _ => [usbproPost env time rx c],
      (pcanUsbproTimestampDecode env.host time c.dev (u32At rx 4)).2.map (·.shown)⟩
  | .usbproStatus env time dev rawStatus errorFrame timestamp32 =>
    let prepared := usbproStatusPrepared (pcanUsbWrite .usbPro env.submit env.host) env.host time
      dev rawStatus errorFrame timestamp32
    ⟨fun _ => prepared.1.toList, prepared.2.map (·.shown)⟩
  | .usbproBuslast => ⟨fun _ => [busLoadMsg], none⟩
  | .ucanUsb env time kind msg c =>
    ⟨fun memory => (usbfdPrepared { env with stack := memory } time kind msg c).2.toList,
      (usbfdDecoded env time kind msg c.dev).2.map (·.shown)⟩
  | .pcieFd host dev msg kind =>
    ⟨fun memory => (pcifdPrepared host memory dev msg kind).2.toList,
      (kind.decoded dev msg).map (·.shown)⟩

/-- The other families flag a message only when its time has been decoded into it. -/
theorem ReceiveCall.assigned (call : ReceiveCall) : call.handed.Assigned := by
  intro memory rx member flagged
  cases call with
  | sja1000 irqmaxrmsg irqmaxloop irqs dev =>
    have unflagged := sja1000IrqLoop_unflagged irqmaxrmsg
      (fun j => { irqs j with stack := memory }) irqmaxloop 0 dev zero_unflagged rx member
    rw [unflagged] at flagged
    cases flagged
  | usbproFrame env time frame c =>
    rw [List.mem_singleton.mp member] at flagged ⊢
    exact congrArg (Option.map (·.shown))
      (stamped_flagged (usbproRxFrame_unflagged frame) flagged)
  | usbproStatus env time dev rawStatus errorFrame timestamp32 =>
    exact congrArg (Option.map (·.shown)) (usbproStatusPrepared_time _ _ _ _ _ _ _ rx
      (Option.mem_toList.mp member) flagged)
  | usbproBuslast =>
    rw [List.mem_singleton.mp member] at flagged
    exact absurd flagged (by decide)
  | ucanUsb env time kind msg c =>
    exact congrArg (Option.map (·.shown)) (ucanPrepared_time _ _ _ _ _ _ _ rx
      (Option.mem_toList.mp member) flagged)
  | pcieFd host dev msg kind =>
    exact congrArg (Option.map (·.shown)) (pcifdPrepared_time _ _ _ _ _ rx
      (Option.mem_toList.mp member) flagged)

/-- Over every run of packets, and in every call of the other decoders, the time of a
    flagged message is the one decoded for it exactly if no PCAN-USB adapter sends a frame
    or a stamped error before it is synchronised. -/
theorem receive_times_assigned_iff (usb : PcanUsb) (packets : List UsbPacketInput) :
    ((∀ call : ReceiveCall, call.handed.Assigned) ∧
        ∀ visits ∈ (run packetStep usb packets).2, ∀ v ∈ visits,
          (handedRecord v.env v.usb v.record).Assigned) ↔
      Admitted SyncedPacket packetStep usb packets := by
  have each : ∀ (usb : PcanUsb) (packet : UsbPacketInput), True → True →
      ((∀ v ∈ (packetStep usb packet).2, (handedRecord v.env v.usb v.record).Assigned) ↔
        SyncedPacket usb packet) := by
    intro usb packet _ _
    exact forall₂_congr fun v _ => handedRecord_assigned_iff v.env v.usb v.record
  have runs := @outputs_iff_admitted PcanUsb UsbPacketInput (List UsbVisit) packetStep
    (fun _ _ => True) SyncedPacket (fun _ => True)
    (fun visits => ∀ v ∈ visits, (handedRecord v.env v.usb v.record).Assigned)
    (fun _ _ _ _ _ => trivial) each usb packets trivial (admitted_true _ _ _)
  rw [← runs]
  exact and_iff_right ReceiveCall.assigned

end Times

section Samples

/-- A packet with one frame, for a decoder that finds the time `tv` in its memory. -/
def frameBehind (tv : Timeval) : UsbPacketInput where
  env _ := { idleEnv with stack := { PcanfdRxmsg.zero with hwtv := ⟨tv, 0, 0, .off, 0⟩ } }
  mem k := if k = 0 then 2 else if k = 1 then 1 else if k = 4 then 0x20 else 0
  lCurrentLength := 7

/-- The times that the application reads after a packet has been received. -/
def timesRead (usb : PcanUsb) (packet : UsbPacketInput) : List Timeval :=
  let dev := (packetStep usb packet).1.channel.dev
  dev.readFifo.items.map fun rx => (pcanSyncTimestamps sampleHost dev rx).2.msg.timestamp

/-- The first packet after opening is a frame: its time is what the memory held. -/
theorem first_frame_shows_memory :
    timesRead freshPcanUsb (frameBehind ⟨7, 0⟩) = [⟨7, 0⟩] ∧
      timesRead freshPcanUsb (frameBehind ⟨9, 0⟩) = [⟨9, 0⟩] ∧
      (pcanUsbDecodeMessage (frameBehind ⟨7, 0⟩).env freshPcanUsb
        (frameBehind ⟨7, 0⟩).mem 7).posts.map PcanfdRxmsg.flagged = [true] := by
  refine ⟨by decide +kernel, by decide +kernel, by decide +kernel⟩

end Samples

end PcanDriver

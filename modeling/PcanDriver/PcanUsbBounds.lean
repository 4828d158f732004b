import PcanDriver.ClosedChannels
import PcanDriver.PcanUsbDecode
import PcanDriver.UcanBounds

/-!
Which bytes of a packet `pcan_usb_DecodeMessage` makes something of. Only behind each
record it is checked that the record has ended inside of the packet, when what the
record says has already been posted.
-/
namespace PcanDriver

section Statement

def UsbRecord.isUnexpected : UsbRecord → Bool
  | .internal _ _ .unexpected => true
  | _ => false

variable (ucRevision : Nat) (mem : Nat → U8) (lCurrentLength : Nat)

/-- The places of the announced records, whatever the channel does with them. -/
def recordPlaces : Nat → Nat → Bool → List (Nat × Bool)
  | 0, _, _ => []
  | ucMsgLen + 1, ptr, ts8 =>
    let parsed := parseRecord ucRevision mem ptr ts8
    (ptr, ts8) ::
      if parsed.record.isUnexpected || exceedsPacket ucRevision parsed.ptr lCurrentLength then []
      else recordPlaces ucMsgLen parsed.ptr parsed.ts8

/-- The loop ends, it takes nothing from behind the packet, and messages and state do not
    depend on what is there. -/
structure PacketInside : Prop where
  ends : ∀ env usb, usb.channel.dev.port.ucRevision = ucRevision →
    (pcanUsbDecodeMessage env usb mem lCurrentLength).records.length ≤ (mem 1).toNat
  header : lCurrentLength ≠ 0 → 2 ≤ lCurrentLength
  inside : ∀ env usb, usb.channel.dev.port.ucRevision = ucRevision →
    ∀ place ∈ (pcanUsbDecodeMessage env usb mem lCurrentLength).records,
      (parseRecord ucRevision mem place.1 place.2).usedEnd ≤ lCurrentLength
  same : ∀ env usb mem', usb.channel.dev.port.ucRevision = ucRevision →
    Agree lCurrentLength mem mem' →
    pcanUsbDecodeMessage env usb mem' lCurrentLength = pcanUsbDecodeMessage env usb mem lCurrentLength

/-- Nothing has been received, or all that the announced records need. -/
def PacketComplete : Prop :=
  lCurrentLength = 0 ∨
    2 ≤ lCurrentLength ∧
      ∀ place ∈ recordPlaces ucRevision mem lCurrentLength (mem 1).toNat 2 false,
        (parseRecord ucRevision mem place.1 place.2).usedEnd ≤ lCurrentLength

end Statement

section Parse
variable {mem mem' : Nat → U8} {count : Nat}

theorem takeTicks_congr (same : Agree count mem mem') {ptr : Nat} {ts8 : Bool}
    (inside : (takeTicks mem ptr ts8).2 ≤ count) : takeTicks mem' ptr ts8 = takeTicks mem ptr ts8 := by
  unfold takeTicks at inside ⊢
  cases ts8 with
  | true =>
    simp only [if_true] at inside ⊢
    rw [same ptr (by omega)]
  | false =>
    simp only [Bool.false_eq_true, if_false] at inside ⊢
    rw [u16At_congr same inside]

theorem takeTicks_ptr (mem : Nat → U8) (ptr : Nat) (ts8 : Bool) :
    ptr < (takeTicks mem ptr ts8).2 := by
  unfold takeTicks
  cases ts8 <;> simp

theorem bytesAt_congr (same : Agree count mem mem') {ptr n : Nat} (inside : ptr + n ≤ count) :
    bytesAt mem' ptr n = bytesAt mem ptr n := by
  apply List.map_congr_left
  intro j member
  have := List.mem_range.mp member
  exact same (ptr + j) (by omega)

theorem parseCanMsg_congr (ucRevision : Nat) {ptr : Nat} {ts8 : Bool} (same : Agree count mem mem')
    (inside : (parseCanMsg ucRevision mem ptr ts8).usedEnd ≤ count) :
    parseCanMsg ucRevision mem' ptr ts8 = parseCanMsg ucRevision mem ptr ts8 := by
  unfold parseCanMsg at inside ⊢
  simp only at inside ⊢
  by_cases ext : mem ptr &&& stlnExtendedId ≠ 0
  · simp only [if_pos ext] at inside
    have behind := takeTicks_ptr mem (ptr + 5) ts8
    rw [same ptr (by omega)]
    simp only [if_pos ext]
    rw [same (ptr + 1) (by omega), takeTicks_congr same (by omega), u32At_congr same (by omega),
      bytesAt_congr same inside]
  · simp only [if_neg ext] at inside
    have behind := takeTicks_ptr mem (ptr + 3) ts8
    rw [same ptr (by omega)]
    simp only [if_neg ext]
    rw [same (ptr + 1) (by omega), takeTicks_congr same (by omega), u16At_congr same (by omega),
      bytesAt_congr same inside]

/-- A function that has a use for `ucNumber` has bytes behind it. -/
theorem parseFunction_congr (ucFunction ucNumber ucNumber' : U8) (ucLen : Nat) {ptr : Nat}
    (same : Agree count mem mem')
    (inside : (parseFunction ucFunction ucNumber ucLen mem ptr).2.1 ≤ count)
    (number : ptr ≤ count → ucNumber' = ucNumber) :
    parseFunction ucFunction ucNumber' ucLen mem' ptr =
      parseFunction ucFunction ucNumber ucLen mem ptr := by
  unfold parseFunction at inside ⊢
  by_cases status : ucFunction = 1
  · simp only [if_pos status] at inside ⊢
    rw [number (by omega), bytesAt_congr same inside]
  by_cases analogValue : ucFunction = 2
  · simp only [if_neg status, if_pos analogValue]
  by_cases busLoad : ucFunction = 3
  · simp only [if_neg status, if_neg analogValue, if_pos busLoad] at inside ⊢
    rw [same ptr inside]
  by_cases onlyTimestamp : ucFunction = 4
  · simp only [if_neg status, if_neg analogValue, if_neg busLoad,
      if_pos onlyTimestamp] at inside ⊢
    rw [u16At_congr same inside]
  simp only [if_neg status, if_neg analogValue, if_neg busLoad, if_neg onlyTimestamp] at inside ⊢
  by_cases errorFrame : ucFunction = 5
  · simp only [if_pos errorFrame] at inside ⊢
    by_cases counters : ucNumber = 0x80
    · simp only [if_pos counters] at inside
      rw [number (by omega)]
      simp only [if_pos counters]
      rw [same ptr (by omega), same (ptr + 1) (by omega), same (ptr + 2) (by omega)]
    · simp only [if_neg counters] at inside
      rw [number (by omega)]
      simp only [if_neg counters]
      rw [same ptr (by omega)]
  · simp only [if_neg errorFrame]

theorem parseInternal_congr {ptr : Nat} {ts8 : Bool} (same : Agree count mem mem')
    (inside : (parseInternal mem ptr ts8).usedEnd ≤ count) :
    parseInternal mem' ptr ts8 = parseInternal mem ptr ts8 := by
  unfold parseInternal at inside ⊢
  simp only at inside ⊢
  by_cases stamped : mem ptr &&& stlnWithTimestamp ≠ 0
  · simp only [if_pos stamped, Option.isSome_some, if_true, Nat.max_le] at inside
    have behind := takeTicks_ptr mem (ptr + 3) ts8
    rw [same ptr (by omega), same (ptr + 1) (by omega)]
    simp only [if_pos stamped]
    rw [takeTicks_congr same inside.1,
      parseFunction_congr _ _ _ _ same inside.2 fun _ => same (ptr + 2) (by omega)]
  · simp only [if_neg stamped, Option.isSome_none, Bool.false_eq_true, if_false,
      Nat.max_le] at inside
    rw [same ptr (by omega), same (ptr + 1) (by omega)]
    simp only [if_neg stamped]
    rw [parseFunction_congr _ _ _ _ same inside.2 fun _ => same (ptr + 2) (by omega)]

theorem parseRecord_status {ucRevision ptr : Nat} {ts8 : Bool} (mem : Nat → U8) :
    ptr < (parseRecord ucRevision mem ptr ts8).usedEnd := by
  unfold parseRecord
  split
  · unfold parseCanMsg
    have behind := takeTicks_ptr mem (ptr + if mem ptr &&& stlnExtendedId ≠ 0 then 5 else 3) ts8
    simp only
    omega
  · unfold parseInternal
    simp only
    split
    next =>
      have behind := takeTicks_ptr mem (ptr + 3) ts8
      simp only [Option.isSome_some, if_true]
      omega
    next =>
      simp only [Option.isSome_none, Bool.false_eq_true, if_false]
      omega

/-- A record is taken from the bytes up to `usedEnd`. -/
theorem parseRecord_congr (ucRevision : Nat) {ptr : Nat} {ts8 : Bool} (same : Agree count mem mem')
    (inside : (parseRecord ucRevision mem ptr ts8).usedEnd ≤ count) :
    parseRecord ucRevision mem' ptr ts8 = parseRecord ucRevision mem ptr ts8 := by
  have status := same ptr (Nat.lt_of_lt_of_le (parseRecord_status mem) inside)
  unfold parseRecord at inside ⊢
  rw [status]
  split at inside
  next canMsg =>
    rw [if_pos canMsg, if_pos canMsg]
    exact parseCanMsg_congr ucRevision same inside
  next internal =>
    rw [if_neg internal, if_neg internal]
    exact parseInternal_congr same inside

end Parse

section Closed
variable (env : DecodeEnv)

theorem post_closed (host : Host) {usb : PcanUsb} (closed : usb.channel.dev.nOpenPaths ≤ 0)
    (rx : PcanfdRxmsg) :
    (usb.post host rx).usb.channel.dev.nOpenPaths ≤ 0 ∧ (usb.post host rx).err = 0 := by
  have paths := paths_of_transmit (pcanChardevRx_transmit host usb.channel.dev rx)
  exact ⟨Int.le_trans (Int.le_of_eq paths) closed, pcanChardevRx_closed host closed rx⟩

theorem pcanUsbCtrlErrors_paths {P : Type} (dev : Pcandev P) (rx : PcanfdRxmsg) (ucNumber : U8) :
    (pcanUsbCtrlErrors dev rx ucNumber).1.nOpenPaths = dev.nOpenPaths := by
  unfold pcanUsbCtrlErrors
  simp only
  split <;> split <;> rfl

theorem handleFunction_paths (usb : PcanUsb) (rx : PcanfdRxmsg) (function : UsbFunction) :
    (handleFunction env usb rx function).1.channel.dev.nOpenPaths =
      usb.channel.dev.nOpenPaths := by
  have kept := pcanUsbWrite_paths env.host .pcanUsb env.submit
  cases function with
  | status ucNumber bytes =>
    exact (handleBusBits_paths kept _ _ _ _ _).trans (pcanUsbCtrlErrors_paths _ _ _)
  | onlyTimestamp ticks =>
    unfold handleFunction
    simp only
    split
    · exact pcanHandleErrorActive_paths kept _ rx
    · rfl
  | errorFrame ecc counters => cases counters <;> rfl
  | analogValue | busLoad | prepared | unexpected => rfl

theorem handleInternal_closed {usb : PcanUsb} (closed : usb.channel.dev.nOpenPaths ≤ 0)
    (rx : PcanfdRxmsg) (function : UsbFunction) :
    (handleInternal env usb rx function).usb.channel.dev.nOpenPaths ≤ 0 ∧
      ((handleInternal env usb rx function).err < 0 → function = .unexpected) := by
  have handled := Int.le_trans (Int.le_of_eq (handleFunction_paths env usb rx function)) closed
  have posted := post_closed env.host handled (handleFunction env usb rx function).2
  unfold handleInternal
  split
  next unexpected => exact ⟨closed, fun _ => unexpected⟩
  next =>
    simp only
    split
    next => exact ⟨handled, fun fails => absurd fails (Int.lt_irrefl 0)⟩
    next => exact ⟨posted.1, fun fails => absurd posted.2 (Int.ne_of_lt fails)⟩

/-- With the channel closed only an unexpected function ends the loop. -/
theorem handleRecord_closed {usb : PcanUsb} (closed : usb.channel.dev.nOpenPaths ≤ 0)
    (record : UsbRecord) :
    (handleRecord env usb record).usb.channel.dev.nOpenPaths ≤ 0 ∧
      ((handleRecord env usb record).err < 0 →
        record.isUnexpected = true) := by
  cases record with
  | canMsg ucStatusLen slf id ticks data =>
    have posted := @post_closed env.host (usb.stamp env.host ticks env.stack.hwtv).1 closed
      (pcanUsbFrame ucStatusLen slf id data (usb.stamp env.host ticks env.stack.hwtv).2)
    exact ⟨posted.1, fun fails => absurd posted.2 (Int.ne_of_lt fails)⟩
  | internal ucStatusLen ticks function =>
    have same : (usb.stampIf env.host ticks env.stack.hwtv).1.channel = usb.channel := by
      cases ticks <;> rfl
    have handled := handleInternal_closed env (same ▸ closed)
      (internalMsg ucStatusLen ticks.isSome (usb.stampIf env.host ticks env.stack.hwtv).2) function
    exact ⟨handled.1, fun fails => by rw [handled.2 fails]; rfl⟩

theorem handleRecord_unexpected (usb : PcanUsb) {record : UsbRecord}
    (unexpected : record.isUnexpected = true) : (handleRecord env usb record).err < 0 := by
  unfold UsbRecord.isUnexpected at unexpected
  split at unexpected
  next => exact (by decide : -eilseq < 0)
  next => cases unexpected

end Closed

section Loop
variable {ucRevision : Nat} {mem mem' : Nat → U8} {lCurrentLength : Nat}

theorem recordPlaces_length (ucMsgLen ptr : Nat) (ts8 : Bool) :
    (recordPlaces ucRevision mem lCurrentLength ucMsgLen ptr ts8).length ≤ ucMsgLen := by
  induction ucMsgLen generalizing ptr ts8 with
  | zero => exact Nat.le_refl 0
  | succ ucMsgLen ih =>
    unfold recordPlaces
    simp only [List.length_cons]
    split
    · exact Nat.succ_le_succ (Nat.zero_le _)
    · exact Nat.succ_le_succ (ih _ _)

theorem decodeRecords_places (env : Nat → DecodeEnv) (ucMsgLen i ptr : Nat) (ts8 : Bool)
    (usb : PcanUsb) :
    (decodeRecords ucRevision env mem lCurrentLength ucMsgLen i ptr ts8 usb).records <+:
      recordPlaces ucRevision mem lCurrentLength ucMsgLen ptr ts8 := by
  induction ucMsgLen generalizing i ptr ts8 usb with
  | zero => exact List.prefix_refl _
  | succ ucMsgLen ih =>
    unfold decodeRecords recordPlaces
    simp only
    split
    next => exact List.cons_prefix_cons.mpr ⟨rfl, List.nil_prefix⟩
    next goes =>
      split
      next => exact List.cons_prefix_cons.mpr ⟨rfl, List.nil_prefix⟩
      next fits =>
        have expected : ¬(parseRecord ucRevision mem ptr ts8).record.isUnexpected = true :=
          fun unexpected => goes (handleRecord_unexpected (env i) usb unexpected)
        rw [if_neg (by simp only [Bool.or_eq_true, not_or]; exact ⟨expected, fits⟩)]
        exact List.cons_prefix_cons.mpr ⟨rfl, ih _ _ _ _⟩

theorem decodeRecords_closed (env : Nat → DecodeEnv) (ucMsgLen i ptr : Nat) (ts8 : Bool)
    {usb : PcanUsb} (closed : usb.channel.dev.nOpenPaths ≤ 0) :
    (decodeRecords ucRevision env mem lCurrentLength ucMsgLen i ptr ts8 usb).records =
      recordPlaces ucRevision mem lCurrentLength ucMsgLen ptr ts8 := by
  induction ucMsgLen generalizing i ptr ts8 usb with
  | zero => rfl
  | succ ucMsgLen ih =>
    obtain ⟨after, fails⟩ :=
      handleRecord_closed (env i) closed (parseRecord ucRevision mem ptr ts8).record
    unfold decodeRecords recordPlaces
    simp only
    split
    next failed => rw [fails failed, Bool.true_or, if_pos rfl]
    next goes =>
      split
      next exceeds => rw [exceeds, Bool.or_true, if_pos rfl]
      next fits =>
        have expected : ¬(parseRecord ucRevision mem ptr ts8).record.isUnexpected = true :=
          fun unexpected => goes (handleRecord_unexpected (env i) usb unexpected)
        rw [if_neg (by simp only [Bool.or_eq_true, not_or]; exact ⟨expected, fits⟩)]
        exact congrArg _ (ih _ _ _ after)

/-- Complete records are decoded alike, whatever is behind the packet. -/
theorem decodeRecords_congr (env : Nat → DecodeEnv) (ucMsgLen i ptr : Nat) (ts8 : Bool)
    (usb : PcanUsb) (same : Agree lCurrentLength mem mem')
    (complete : ∀ place ∈ recordPlaces ucRevision mem lCurrentLength ucMsgLen ptr ts8,
      (parseRecord ucRevision mem place.1 place.2).usedEnd ≤ lCurrentLength) :
    decodeRecords ucRevision env mem' lCurrentLength ucMsgLen i ptr ts8 usb =
      decodeRecords ucRevision env mem lCurrentLength ucMsgLen i ptr ts8 usb := by
  induction ucMsgLen generalizing i ptr ts8 usb with
  | zero => rfl
  | succ ucMsgLen ih =>
    unfold recordPlaces at complete
    have here := parseRecord_congr ucRevision same (complete (ptr, ts8) List.mem_cons_self)
    unfold decodeRecords
    simp only at complete ⊢
    rw [here]
    split
    next => rfl
    next goes =>
      split
      next => rfl
      next fits =>
        have expected : ¬(parseRecord ucRevision mem ptr ts8).record.isUnexpected = true :=
          fun unexpected => goes (handleRecord_unexpected (env i) usb unexpected)
        rw [if_neg (by simp only [Bool.or_eq_true, not_or]; exact ⟨expected, fits⟩)] at complete
        rw [ih _ _ _ _ fun place member => complete place (List.mem_cons_of_mem _ member)]

end Loop

section Packet
variable {ucRevision : Nat} {mem : Nat → U8} {lCurrentLength : Nat}

theorem pcanUsbDecodeMessage_records (env : Nat → DecodeEnv) {usb : PcanUsb}
    (revision : usb.channel.dev.port.ucRevision = ucRevision) (received : lCurrentLength ≠ 0) :
    pcanUsbDecodeMessage env usb mem lCurrentLength =
      decodeRecords ucRevision env mem lCurrentLength (mem 1).toNat 0 2 false
        { usb with channel := usb.channel.interrupted } := by
  unfold pcanUsbDecodeMessage
  simp only [if_neg received]
  rw [← revision]
  rfl

def closedPcanUsb (ucRevision : Nat) : PcanUsb :=
  ⟨⟨{ openedChannel ⟨64, 64, ucRevision, 0, false, []⟩ 2 2 0 with nOpenPaths := 0 }, false, 0, 0⟩,
    default⟩

/-- Nothing of what is behind a packet is used exactly if the packet is complete. -/
theorem packet_inside_iff (ucRevision : Nat) (mem : Nat → U8) (lCurrentLength : Nat) :
    PacketInside ucRevision mem lCurrentLength ↔ PacketComplete ucRevision mem lCurrentLength := by
  by_cases received : lCurrentLength = 0
  · subst received
    have empty : ∀ env usb (m : Nat → U8), pcanUsbDecodeMessage env usb m 0 =
        ⟨{ usb with channel := usb.channel.interrupted }, [], [], 0⟩ := fun _ _ _ => rfl
    refine ⟨fun _ => .inl rfl, fun _ => ?_⟩
    constructor
    case ends => exact fun _ _ _ => Nat.zero_le _
    case header => exact fun some => absurd rfl some
    case inside =>
      intro env usb _ place member
      rw [empty] at member
      cases member
    case same =>
      intro env usb mem' _ _
      rw [empty, empty]
  · constructor
    · intro decoded
      refine .inr ⟨decoded.header received, fun place member => ?_⟩
      apply decoded.inside (fun _ => ⟨sampleHost, 0, .zero, 0⟩) (closedPcanUsb ucRevision) rfl
      rw [pcanUsbDecodeMessage_records _ rfl received, decodeRecords_closed]
      · exact member
      · exact Int.le_refl 0
    · rintro (empty | ⟨header, complete⟩)
      · exact absurd empty received
      · constructor
        case ends =>
          intro env usb revision
          rw [pcanUsbDecodeMessage_records env revision received]
          exact Nat.le_trans (decodeRecords_places env _ _ _ _ _).length_le
            (recordPlaces_length _ _ _)
        case header => exact fun _ => header
        case inside =>
          intro env usb revision place member
          rw [pcanUsbDecodeMessage_records env revision received] at member
          exact complete place ((decodeRecords_places env _ _ _ _ _).subset member)
        case same =>
          intro env usb mem' revision same
          rw [pcanUsbDecodeMessage_records env revision received,
            pcanUsbDecodeMessage_records env revision received, same 1 (by omega)]
          exact decodeRecords_congr env _ _ _ _ _ same complete

/-- A packet that announces a record and ends there: the frame is made of bytes of an
    earlier packet. -/
theorem announced_record_posts_stale_frame :
    let usb : PcanUsb :=
      ⟨⟨{ openedChannel ⟨64, 64, 28, 0, false, []⟩ 2 2 0 with busState := .errorActive }, false, 0, 0⟩,
        default⟩
    let behind := fun (id : U8) (k : Nat) => if k = 0 then 2 else if k = 1 then 1
      else if k = 4 then id else 0
    let posts := fun (mem : Nat → U8) =>
      (pcanUsbDecodeMessage (fun _ => ⟨sampleHost, 0, .zero, 0⟩) usb mem 2).posts.map (·.msg.id)
    ¬PacketInside 28 (behind 0x20) 2 ∧ posts (behind 0x20) = [0x100] ∧
      posts (behind 0x40) = [0x200] := by
  intro usb behind posts
  refine ⟨?_, by decide +kernel, by decide +kernel⟩
  intro decoded
  have used := decoded.inside (fun _ => ⟨sampleHost, 0, .zero, 0⟩) usb rfl (2, false)
    (by decide +kernel)
  exact absurd used (by decide +kernel)

end Packet

end PcanDriver

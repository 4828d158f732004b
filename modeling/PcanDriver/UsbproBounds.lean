import PcanDriver.ChannelIsolation
import PcanDriver.ClosedChannels

/-!
What the records of a USB-Pro message make the driver access. `pcan_usbpro_msg_decode`
knows the size of each record, but its handlers take the controller and the length of
the data from two halves of one byte without looking at the number of channels or at
that size.
-/
namespace PcanDriver
variable {n : Nat}

section Statement

def isCanmsgRx (pr : Nat → U8) : Prop :=
  pr 0 = dataTypeCanmsgRx8 ∨ pr 0 = dataTypeCanmsgRx4 ∨ pr 0 = dataTypeCanmsgRx0 ∨
    pr 0 = dataTypeCanmsgRtrRx

instance (pr : Nat → U8) : Decidable (isCanmsgRx pr) := inferInstanceAs (Decidable (_ ∨ _))

def usbproHandles (pr : Nat → U8) : Prop :=
  isCanmsgRx pr ∨ pr 0 = dataTypeCanmsgStatusErrorRx ∨ pr 0 = dataTypeCalibrationTimestampRx ∨
    pr 0 = dataTypeBuslastRx

/-- `ctrl_index` of the handlers. -/
def usbproCtrlIndex (pr : Nat → U8) : Option Nat :=
  if isCanmsgRx pr then some (pr 3 >>> 4).toNat
  else if pr 0 = dataTypeCanmsgStatusErrorRx ∨ pr 0 = dataTypeBuslastRx then
    some (pr 1 >>> 4).toNat
  else none

def usbproReads (pr : Nat → U8) : Nat :=
  if isCanmsgRx pr then 12 + (pr 3 &&& 0x0f).toNat
  else if pr 0 = dataTypeCanmsgStatusErrorRx ∨ pr 0 = dataTypeCalibrationTimestampRx then 12
  else if pr 0 = dataTypeBuslastRx then 4
  else 1

/-- A record with a handler is for a channel that exists and contains what the handler
    reads; any other one changes nothing. -/
structure RecordSound (n : Nat) (pr : Nat → U8) : Prop where
  channel : ∀ ctrlIndex, usbproCtrlIndex pr = some ctrlIndex → ctrlIndex < n + 1
  inside : ∀ size, pcanUsbproSizeofRec (pr 0) = some size → usbproReads pr ≤ size
  other : ¬usbproHandles pr → ∀ env (usbIf : UsbInterface n),
    usbproHandleRec usbIf (env, pr) = (usbIf, .ignored)

/-- The loop takes no more records than the counter says, and all of them are sound. -/
structure MessageSound (n : Nat) (fragRecOffset : Nat) (mem : Int → U8) (msgLen : Nat) : Prop where
  ends : ∀ env (usbIf : UsbInterface n), usbIf.fragRecOffset = fragRecOffset →
    (pcanUsbproMsgDecode env usbIf mem msgLen).handled.length ≤
      recCounter mem (-(fragRecOffset : Int))
  sound : ∀ env (usbIf : UsbInterface n), usbIf.fragRecOffset = fragRecOffset →
    ∀ input ∈ (pcanUsbproMsgDecode env usbIf mem msgLen).handled, RecordSound n input.2

/-- Data bytes that a record of a frame has room for. -/
def canmsgRxRoom (dataType : U8) : Nat :=
  if dataType = dataTypeCanmsgRx8 then 8 else if dataType = dataTypeCanmsgRx4 then 4 else 0

/-- What the two halves of the channel byte have to be. -/
def RecordFits (n : Nat) (pr : Nat → U8) : Prop :=
  (isCanmsgRx pr → (pr 3 >>> 4).toNat < n + 1 ∧ (pr 3 &&& 0x0f).toNat ≤ canmsgRxRoom (pr 0)) ∧
    (pr 0 = dataTypeCanmsgStatusErrorRx ∨ pr 0 = dataTypeBuslastRx → (pr 1 >>> 4).toNat < n + 1)

def usbproPacketRecs (fragRecOffset : Nat) (mem : Int → U8) (msgLen : Nat) : List (Nat → U8) :=
  (usbproMsgRecs (fun _ => sampleEnv) fragRecOffset mem msgLen).map Prod.snd

end Statement

section Records

theorem not_canmsgRx {pr : Nat → U8} {type : U8} (same : pr 0 = type)
    (other : ¬(type = dataTypeCanmsgRx8 ∨ type = dataTypeCanmsgRx4 ∨ type = dataTypeCanmsgRx0 ∨
      type = dataTypeCanmsgRtrRx)) : ¬isCanmsgRx pr := by
  unfold isCanmsgRx
  rw [same]
  exact other

theorem canmsgRx_size {pr : Nat → U8} (frame : isCanmsgRx pr) :
    pcanUsbproSizeofRec (pr 0) = some (12 + canmsgRxRoom (pr 0)) := by
  rcases frame with type | type | type | type <;> rw [type] <;> decide

theorem sizeofRec_min {dataType : U8} {size : Nat}
    (known : pcanUsbproSizeofRec dataType = some size) : 4 ≤ size := by
  have large : ∀ entry ∈ pcanUsbproRecSizes, 4 ≤ entry.2 := by decide
  obtain ⟨before, behind, found, _⟩ := List.lookup_eq_some_iff.mp known
  exact large (dataType, size) (by rw [found]; simp)

theorem recordSound_iff (pr : Nat → U8) : RecordSound n pr ↔ RecordFits n pr := by
  constructor
  · intro sound
    constructor
    · intro frame
      have channel := sound.channel (pr 3 >>> 4).toNat (by rw [usbproCtrlIndex, if_pos frame])
      have inside := sound.inside _ (canmsgRx_size frame)
      rw [usbproReads, if_pos frame] at inside
      exact ⟨channel, by omega⟩
    · intro type
      have other : ¬isCanmsgRx pr := by
        rcases type with type | type <;> exact not_canmsgRx type (by decide)
      exact sound.channel (pr 1 >>> 4).toNat
        (by rw [usbproCtrlIndex, if_neg other, if_pos type])
  · rintro ⟨frames, others⟩
    constructor
    case channel =>
      intro ctrlIndex found
      unfold usbproCtrlIndex at found
      split at found
      next frame => cases found; exact (frames frame).1
      next =>
        split at found
        next type => cases found; exact others type
        next => cases found
    case inside =>
      intro size known
      unfold usbproReads
      split
      next frame =>
        rw [canmsgRx_size frame] at known
        have := (frames frame).2
        cases known
        omega
      next =>
        split
        next type => rcases type with type | type <;> rw [type] at known <;> cases known <;> decide
        next =>
          split
          next type => rw [type] at known; cases known; decide
          next =>
            exact Nat.le_trans (by decide) (sizeofRec_min known)
    case other =>
      intro unhandled env usbIf
      obtain ⟨frame, rest⟩ := not_or.mp unhandled
      obtain ⟨status, rest⟩ := not_or.mp rest
      obtain ⟨calibration, buslast⟩ := not_or.mp rest
      unfold isCanmsgRx at frame
      unfold usbproHandleRec
      simp only
      rw [if_neg frame, if_neg status, if_neg calibration, if_neg buslast]

theorem usbproHandleRec_closed {usbIf : UsbInterface n} (closed : usbIf.Closed)
    {input : DecodeEnv × (Nat → U8)} (fits : RecordFits n input.2) :
    (usbproHandleRec usbIf input).1.Closed ∧ (usbproHandleRec usbIf input).2.stops = false := by
  have onController_closed : ∀ (channel : U8) (handle : UsbChannel → UsbChannel × Int)
      (result : Int → RecResult), (channel >>> 4).toNat < n + 1 →
      (∀ c, HarmlessTo c (handle c)) → (∀ err, 0 ≤ err → (result err).stops = false) →
      (onController usbIf channel handle result).1.Closed ∧
        (onController usbIf channel handle result).2.stops = false := by
    intro channel handle result exists_ harmless goes
    unfold onController
    rw [dif_pos exists_]
    exact ⟨closed.withDev _ (harmless _).paths, goes _ ((harmless _).result (closed _))⟩
  have checked_goes : ∀ err : Int, 0 ≤ err → (RecResult.checked err).stops = false := by
    intro err positive
    unfold RecResult.checked
    rw [if_neg (by omega)]
    rfl
  obtain ⟨frames, others⟩ := fits
  unfold usbproHandleRec
  simp only
  split
  next frame =>
    exact onController_closed _ _ _ (frames frame).1
      (pcanUsbproHandleCanmsgRx_harmless input.1 usbIf.time input.2) checked_goes
  next =>
    split
    next status =>
      exact onController_closed _ _ _ (others (.inl status))
        (handleStatusErrRx_harmless input.1 usbIf.time input.2) checked_goes
    next =>
      split
      next => exact ⟨closed.calibration _ _ _, rfl⟩
      next =>
        split
        next buslast =>
          exact onController_closed _ _ _ (others (.inr buslast))
            (pcanUsbproHandleBuslastRx_harmless input.1 input.2) fun _ _ => rfl
        next => exact ⟨closed, rfl⟩

end Records

section Message
variable {mem : Int → U8} {msgLen fragRecOffset : Nat}

theorem usbproRecs_length (env : Nat → DecodeEnv) (msgEnd : Int) (recCount i : Nat)
    (recPtr : Int) : (usbproRecs env mem msgEnd recCount i recPtr).length ≤ recCount := by
  induction recCount generalizing i recPtr with
  | zero => exact Nat.le_refl 0
  | succ recCount ih =>
    unfold usbproRecs
    split
    · exact Nat.zero_le _
    · split
      · exact Nat.zero_le _
      · exact Nat.succ_le_succ (ih _ _)

theorem usbproRecs_snd (env env' : Nat → DecodeEnv) (msgEnd : Int) (recCount i : Nat)
    (recPtr : Int) :
    (usbproRecs env mem msgEnd recCount i recPtr).map Prod.snd =
      (usbproRecs env' mem msgEnd recCount i recPtr).map Prod.snd := by
  induction recCount generalizing i recPtr with
  | zero => rfl
  | succ recCount ih =>
    unfold usbproRecs
    split
    · rfl
    · split
      · rfl
      · simp only [List.map_cons, ih]

theorem usbproMsgRecs_snd (env : Nat → DecodeEnv) :
    (usbproMsgRecs env fragRecOffset mem msgLen).map Prod.snd =
      usbproPacketRecs fragRecOffset mem msgLen := by
  unfold usbproPacketRecs usbproMsgRecs
  simp only
  split
  · rfl
  · exact usbproRecs_snd _ _ _ _ _ _

/-- All records of a message are sound exactly if the two halves of each channel byte
    fit the interface and the type of the record. -/
theorem message_sound_iff (n fragRecOffset : Nat) (mem : Int → U8) (msgLen : Nat) :
    MessageSound n fragRecOffset mem msgLen ↔
      ∀ pr ∈ usbproPacketRecs fragRecOffset mem msgLen, RecordFits n pr := by
  constructor
  · intro message pr member
    let env : Nat → DecodeEnv := fun _ => sampleEnv
    rw [← usbproMsgRecs_snd env] at member
    obtain ⟨input, found, rfl⟩ := List.mem_map.mp member
    have closed : (closedInterface n fragRecOffset).resetWakeups.Closed := fun _ => Int.le_refl 0
    have taken := message.sound env (closedInterface n fragRecOffset) rfl
    rw [pcanUsbproMsgDecode_handled] at taken
    have all : ∀ i ∈ usbproMsgRecs env fragRecOffset mem msgLen, RecordFits n i.2 :=
      @StepSystem.all_of_taken _ _ _ usbproHandleRec RecResult.stops UsbInterface.Closed
        (fun i => RecordFits n i.2) (fun s i holds fits => usbproHandleRec_closed holds fits) _ closed
        _ fun i inside => (recordSound_iff i.2).mp (taken i inside)
    exact all input found
  · intro fits
    constructor
    case ends =>
      rintro env usbIf rfl
      rw [pcanUsbproMsgDecode_handled]
      refine Nat.le_trans (List.length_take_le' _ _) ?_
      unfold usbproMsgRecs
      simp only
      split
      · exact Nat.zero_le _
      · exact usbproRecs_length _ _ _ _ _
    case sound =>
      rintro env usbIf rfl input member
      rw [pcanUsbproMsgDecode_handled] at member
      have found := List.mem_map_of_mem (f := Prod.snd) (List.mem_of_mem_take member)
      rw [usbproMsgRecs_snd] at found
      exact (recordSound_iff input.2).mpr (fits input.2 found)

/-- A frame for controller 3 of an adapter with two, and a frame of 12 data bytes in a
    record that has room for 8. -/
theorem unsound_records_handled :
    let packet := fun (len : U8) (k : Int) =>
      ([1, 0, 0, 0, 0x80, 0, 0, len] ++ List.replicate 16 0 : List U8).getD k.toNat 0
    ¬MessageSound 1 0 (packet 0x30) 24 ∧ ¬MessageSound 1 0 (packet 0x0c) 24 := by
  intro packet
  have handled : ∀ len ∈ [(0x30 : U8), 0x0c], ∃ input ∈ (pcanUsbproMsgDecode (fun _ => sampleEnv)
      sampleInterface (packet len) 24).handled, (input.2 0, input.2 3) = (0x80, len) := by
    intro len member
    apply List.mem_map.mp
    revert len
    decide +kernel
  constructor
  · intro message
    obtain ⟨input, member, bytes⟩ := handled 0x30 (by decide)
    obtain ⟨type, len⟩ := Prod.mk.inj bytes
    have fits := ((recordSound_iff input.2).mp (message.sound _ _ rfl input member)).1 (.inl type)
    rw [len] at fits
    exact absurd fits.1 (by decide)
  · intro message
    obtain ⟨input, member, bytes⟩ := handled 0x0c (by decide)
    obtain ⟨type, len⟩ := Prod.mk.inj bytes
    have fits := ((recordSound_iff input.2).mp (message.sound _ _ rfl input member)).1 (.inl type)
    rw [len, type] at fits
    exact absurd fits.2 (by decide)

end Message

end PcanDriver

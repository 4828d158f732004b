import Mathlib.Data.List.GetD
import PcanDriver.UcanBounds
import PcanDriver.UsbproStream

/-!
How `pcan_usbpro_msg_decode` decodes one packet. What is left of a message behind it is
a message again, with its counter in front of the first record that has been cut.
-/
namespace PcanDriver
open StepSystem
variable {n : Nat}

section Memory

def Holds (mem : Int → U8) (addr : Int) (bytes : List U8) : Prop :=
  ∀ k : Nat, k < bytes.length → mem (addr + k) = bytes.getD k 0

theorem Holds.append {mem : Int → U8} {addr : Int} {xs ys : List U8} (holds : Holds mem addr (xs ++ ys)) :
    Holds mem addr xs ∧ Holds mem (addr + xs.length) ys := by
  constructor
  · intro k inside
    rw [holds k (by rw [List.length_append]; omega), List.getD_append _ _ _ _ inside]
  · intro k inside
    have here := holds (xs.length + k) (by rw [List.length_append]; omega)
    rw [List.getD_append_right _ _ _ _ (by omega), Nat.add_sub_cancel_left] at here
    rw [← here]
    congr 1
    omega

theorem Holds.head {mem : Int → U8} {addr : Int} {bytes : List U8} (holds : Holds mem addr bytes)
    (filled : 0 < bytes.length) : mem addr = bytes.headD 0 := by
  have first := holds 0 filled
  rw [Int.ofNat_zero, Int.add_zero] at first
  rw [first]
  cases bytes <;> rfl

theorem Holds.congr {mem mem' : Int → U8} {addr : Int} {bytes : List U8} (holds : Holds mem addr bytes)
    (same : ∀ a, addr ≤ a → mem' a = mem a) : Holds mem' addr bytes := by
  intro k inside
  rw [same _ (by omega), holds k inside]

end Memory

section Records

theorem UsbproRec.filled (r : UsbproRec) : 4 ≤ r.bytes.length := sizeofRec_min r.known

theorem recsSize_cons (r : UsbproRec) (recs : List UsbproRec) :
    recsSize (r :: recs) = r.bytes.length + recsSize recs := by
  rw [recsSize, List.flatMap_cons, List.length_append]
  rfl

theorem recsSize_append (xs ys : List UsbproRec) :
    recsSize (xs ++ ys) = recsSize xs + recsSize ys := by
  rw [recsSize, List.flatMap_append, List.length_append]
  rfl

theorem handledRec_of_holds {mem : Int → U8} {addr : Int} {r : UsbproRec} (env : DecodeEnv)
    (holds : Holds mem addr r.bytes) :
    handledRec (env, fun k : Nat => mem (addr + k)) = r.bytes := by
  have type := holds.head (Nat.lt_of_lt_of_le (by decide) r.filled)
  unfold handledRec
  simp only [Int.ofNat_zero, Int.add_zero, type, r.known, Option.getD_some]
  apply List.ext_getElem (by simp)
  intro k inside _
  rw [List.length_map, List.length_range] at inside
  rw [List.getElem_map, List.getElem_range, holds k inside, List.getD_eq_getElem _ _ inside]

theorem usbproCtrlIndex_congr {pr pr' : Nat → U8} (same : ∀ k < 4, pr' k = pr k) :
    usbproCtrlIndex pr' = usbproCtrlIndex pr := by
  have frame : isCanmsgRx pr' ↔ isCanmsgRx pr := by
    unfold isCanmsgRx
    rw [same 0 (by decide)]
  simp only [usbproCtrlIndex, frame, same 0 (by decide), same 1 (by decide), same 3 (by decide)]

theorem postBusLoad_result {P : Type} (host : Host) (dev : Pcandev P) (load : U16) :
    (postBusLoad host dev load none).2 = 0 := by
  simp [postBusLoad, posted, pcanChardevRx, admitRx, busLoadMsg, PcanfdRxmsg.stamped]

theorem checked_cases (err : Int) :
    (∃ e, RecResult.checked err = .refused e ∧ e < 0) ∨
      ∃ e, RecResult.checked err = .done e ∧ 0 ≤ e := by
  unfold RecResult.checked
  split
  next negative => exact .inl ⟨err, rfl, negative⟩
  next => exact .inr ⟨err, rfl, by omega⟩

theorem usbproHandleRec_cases (usbIf : UsbInterface n) (env : DecodeEnv) {pr : Nat → U8}
    (addressed : ∀ ctrlIndex, usbproCtrlIndex pr = some ctrlIndex → ctrlIndex < n + 1) :
    (∃ err, (usbproHandleRec usbIf (env, pr)).2 = .refused err ∧ err < 0) ∨
      (∃ err, (usbproHandleRec usbIf (env, pr)).2 = .done err ∧ 0 ≤ err) ∨
      (usbproHandleRec usbIf (env, pr)).2 = .ignored := by
  have frame_checked : ∀ (channel : U8) (handle : UsbChannel → UsbChannel × Int),
      (channel >>> 4).toNat < n + 1 →
      (∃ err, (onController usbIf channel handle .checked).2 = .refused err ∧ err < 0) ∨
        (∃ err, (onController usbIf channel handle .checked).2 = .done err ∧ 0 ≤ err) := by
    intro channel handle inside
    simp only [onController, dif_pos inside]
    exact checked_cases _
  unfold usbproHandleRec
  simp only
  split
  next frame =>
    have frame : isCanmsgRx pr := frame
    have inside := addressed _ (by rw [usbproCtrlIndex, if_pos frame])
    exact (frame_checked _ _ inside).imp_right .inl
  next other =>
    have other : ¬isCanmsgRx pr := other
    split
    next status =>
      have inside := addressed _ (by rw [usbproCtrlIndex, if_neg other, if_pos (.inl status)])
      exact (frame_checked _ _ inside).imp_right .inl
    next =>
      split
      next => exact .inr (.inl ⟨0, rfl, Int.le_refl 0⟩)
      next =>
        split
        next buslast =>
          have inside := addressed _ (by rw [usbproCtrlIndex, if_neg other, if_pos (.inr buslast)])
          simp only [onController, dif_pos inside]
          refine .inr (.inl ⟨_, rfl, ?_⟩)
          simp only [pcanUsbproHandleBuslastRx, postBusLoad_result]
          exact Int.le_refl 0
        next => exact .inr (.inr rfl)

end Records

section Loop
variable {env : Nat → DecodeEnv} {mem : Int → U8} {msgEnd : Int}

/-- How the loop ends that has started at `recPtr` with `recs` in front of it, and with
    `extra` records of which the first is not supported behind them. -/
inductive LoopEnd (msgEnd recPtr : Int) (recs : List UsbproRec) (extra : Nat)
    (done : UsbproLoop n) : Prop
  | all (supported : extra = 0) (handled : done.handled.map handledRec = recs.map (·.bytes))
      (ended : done.ended = .all) (count : done.recCount = 0)
      (ends : recPtr + recsSize recs ≤ msgEnd) (err : 0 ≤ done.err)
  | unsupported (more : extra ≠ 0) (handled : done.handled.map handledRec = recs.map (·.bytes))
      (ended : done.ended = .unsupported) (count : done.recCount ≠ 0)
      (ptr : done.recPtr = recPtr + recsSize recs) (begins : recPtr + recsSize recs ≤ msgEnd)
      (err : done.err < 0)
  | fragment (first : List UsbproRec) (r : UsbproRec) (rest : List UsbproRec)
      (split : recs = first ++ r :: rest)
      (handled : done.handled.map handledRec = first.map (·.bytes))
      (ended : done.ended = .fragment) (count : done.recCount = (r :: rest).length + extra)
      (ptr : done.recPtr = recPtr + recsSize first - 4) (begins : recPtr + recsSize first ≤ msgEnd)
      (cut : msgEnd < recPtr + recsSize first + r.bytes.length) (err : 0 ≤ done.err)
  | refused (first rest : List UsbproRec) (split : recs = first ++ rest)
      (handled : done.handled.map handledRec = first.map (·.bytes))
      (ended : done.ended = .failed) (err : done.err < 0)

theorem LoopEnd.cons {recPtr : Int} {r : UsbproRec} {recs : List UsbproRec} {extra : Nat}
    {done : UsbproLoop n} {input : DecodeEnv × (Nat → U8)} (known : handledRec input = r.bytes)
    (ended : LoopEnd msgEnd (recPtr + r.bytes.length) recs extra done) :
    LoopEnd msgEnd recPtr (r :: recs) extra { done with handled := input :: done.handled } := by
  have longer : ∀ first : List UsbproRec,
      recPtr + r.bytes.length + recsSize first = recPtr + recsSize (r :: first) := by
    intro first
    rw [recsSize_cons]
    omega
  cases ended with
  | all supported handled ended count ends err =>
    rw [longer] at ends
    exact .all supported (by rw [List.map_cons, List.map_cons, known, handled]) ended count ends err
  | unsupported more handled ended count ptr begins err =>
    rw [longer] at ptr begins
    exact .unsupported more (by rw [List.map_cons, List.map_cons, known, handled]) ended count ptr
      begins err
  | fragment first s rest split handled ended count ptr begins cut err =>
    rw [longer] at ptr begins cut
    exact .fragment (r :: first) s rest (by rw [split, List.cons_append])
      (by rw [List.map_cons, List.map_cons, known, handled]) ended count ptr begins cut err
  | refused first rest split handled ended err =>
    exact .refused (r :: first) rest (by rw [split, List.cons_append])
      (by rw [List.map_cons, List.map_cons, known, handled]) ended err

theorem usbproLoop_ends {recs : List UsbproRec} {extra : Nat} (i : Nat) {recPtr err : Int}
    (usbIf : UsbInterface n) (holds : Holds mem recPtr (recs.flatMap (·.bytes)))
    (unknown : extra ≠ 0 → pcanUsbproSizeofRec (mem (recPtr + recsSize recs)) = none)
    (addressed : ∀ r ∈ recs, r.Addressed n) (begins : recPtr ≤ msgEnd) (good : 0 ≤ err) :
    LoopEnd msgEnd recPtr recs extra
      (usbproLoop env mem msgEnd (recs.length + extra) i recPtr err usbIf) := by
  induction recs generalizing i recPtr err usbIf with
  | nil =>
    have here : recPtr + recsSize [] = recPtr := Int.add_zero recPtr
    rw [List.length_nil, Nat.zero_add]
    cases extra with
    | zero => exact .all rfl rfl rfl rfl (by rw [here]; exact begins) good
    | succ extra =>
      have none := unknown (Nat.succ_ne_zero extra)
      rw [here] at none
      simp only [usbproLoop, none]
      exact .unsupported (Nat.succ_ne_zero extra) rfl rfl (Nat.succ_ne_zero extra) here.symm
        (by rw [here]; exact begins) (by decide : -eopnotsupp < 0)
  | cons r recs ih =>
    rw [List.flatMap_cons] at holds
    obtain ⟨first, later⟩ := holds.append
    have type := first.head (Nat.lt_of_lt_of_le (by decide) r.filled)
    rw [List.length_cons, Nat.succ_add]
    simp only [usbproLoop, type, r.known]
    split
    next exceeds =>
      have here : recPtr + recsSize [] = recPtr := Int.add_zero recPtr
      exact .fragment [] r recs rfl rfl rfl (Nat.succ_add _ _).symm (by rw [here])
        (by rw [here]; exact begins) (by rw [here]; exact exceeds) (Int.natCast_nonneg _)
    next fits =>
      have known := handledRec_of_holds (env i) first
      have rest := fun err good usbIf => @ih (i + 1) (recPtr + r.bytes.length) err usbIf later
        (by rw [Int.add_assoc, ← Int.natCast_add, ← recsSize_cons]; exact unknown)
        (fun s member => addressed s (List.mem_cons_of_mem _ member)) (by omega) good
      have channel : ∀ ctrlIndex,
          usbproCtrlIndex (fun k : Nat => mem (recPtr + k)) = some ctrlIndex → ctrlIndex < n + 1 := by
        rw [usbproCtrlIndex_congr fun k small => first k (Nat.lt_of_lt_of_le small r.filled)]
        exact addressed r List.mem_cons_self
      rcases usbproHandleRec_cases usbIf (env i) channel with
        ⟨err, result, negative⟩ | ⟨err, result, positive⟩ | result
      · simp only [result]
        exact .refused [r] recs rfl (by rw [List.map_singleton, List.map_singleton, known]) rfl
          negative
      · simp only [result]
        exact (rest err positive _).cons known
      · simp only [result]
        exact (rest _ good _).cons known

theorem usbproLoop_failed {recCount i : Nat} {recPtr err : Int} {usbIf : UsbInterface n}
    (failed : (usbproLoop env mem msgEnd recCount i recPtr err usbIf).ended = .failed) :
    ∃ t ∈ transitions usbproHandleRec usbIf (usbproRecs env mem msgEnd recCount i recPtr),
      t.output.stops = true := by
  induction recCount generalizing i recPtr err usbIf with
  | zero => cases failed
  | succ recCount ih =>
    unfold usbproLoop at failed
    unfold usbproRecs
    cases known : pcanUsbproSizeofRec (mem recPtr) with
    | none =>
      rw [known] at failed
      cases failed
    | some size =>
      rw [known] at failed
      simp only at failed ⊢
      split at failed
      next => cases failed
      next fits =>
        rw [if_neg fits]
        have later := fun {err} => @ih (i + 1) (recPtr + size) err
          (usbproHandleRec usbIf (env i, fun k : Nat => mem (recPtr + k))).1
        simp only [transitions]
        split at failed
        next => cases failed
        next err result => exact ⟨_, List.mem_cons_self, by simp only [result, RecResult.stops]⟩
        next =>
          obtain ⟨t, member, stops⟩ := later failed
          exact ⟨t, List.mem_cons_of_mem _ member, stops⟩
        next =>
          obtain ⟨t, member, stops⟩ := later failed
          exact ⟨t, List.mem_cons_of_mem _ member, stops⟩

end Loop

section Decode

/-- A message, or what is left of one, with its counter at `base`. -/
structure Pending (mem : Int → U8) (base : Int) (recs : List UsbproRec) (extra : Nat) : Prop where
  counter : recCounter mem base = recs.length + extra
  records : Holds mem (base + 4) (recs.flatMap (·.bytes))
  unknown : extra ≠ 0 → pcanUsbproSizeofRec (mem (base + 4 + recsSize recs)) = none

theorem Pending.shift {mem : Int → U8} {start base : Int} {recs : List UsbproRec} {extra : Nat} :
    Pending (fun a => mem (start + a)) base recs extra ↔ Pending mem (start + base) recs extra := by
  constructor
  · rintro ⟨counter, records, unknown⟩
    simp only [recCounter, Holds, ← Int.add_assoc] at counter records unknown
    exact ⟨counter, records, unknown⟩
  · rintro ⟨counter, records, unknown⟩
    constructor <;> simp only [recCounter, Holds, ← Int.add_assoc]
    · exact counter
    · exact records
    · exact unknown

theorem writeCounter_outside (mem : Int → U8) {ptr a : Int} (count : U32) (behind : ptr + 4 ≤ a) :
    writeCounter mem ptr count a = mem a := by
  unfold writeCounter
  rw [if_neg (by omega)]

theorem recCounter_write (mem : Int → U8) (ptr : Int) {count : Nat} (small : count < 65536) :
    recCounter (writeCounter mem ptr (BitVec.ofNat 32 count)) ptr = count := by
  have low : writeCounter mem ptr (BitVec.ofNat 32 count) (ptr + 0) =
      (BitVec.ofNat 32 count).setWidth 8 := by
    simp [writeCounter]
  have high : writeCounter mem ptr (BitVec.ofNat 32 count) (ptr + 1) =
      (BitVec.ofNat 32 count >>> 8).setWidth 8 := by
    simp [writeCounter]
  unfold recCounter
  rw [u16At_toNat]
  simp only [Nat.zero_add, Int.ofNat_zero, Int.natCast_one, low, high, BitVec.toNat_setWidth,
    BitVec.toNat_ushiftRight, BitVec.toNat_ofNat, Nat.shiftRight_eq_div_pow]
  omega

/-- How a packet with a message in front of it, or with what is left of one, is decoded.
    Addresses count from the start of the packet. -/
inductive PacketEnd (p : Packet n) (recs : List UsbproRec) (extra : Nat) : Prop
  | all (supported : extra = 0) (handled : p.handled = recs.map (·.bytes))
      (ends : 4 + recsSize recs ≤ p.before.fragRecOffset + p.len)
      (offset : p.decoded.usbIf.fragRecOffset = 0) (same : p.decoded.mem = p.mem)
      (err : ∃ e, p.decoded.err = some e ∧ 0 ≤ e)
  | unsupported (more : extra ≠ 0) (handled : p.handled = recs.map (·.bytes))
      (begins : 4 + recsSize recs ≤ p.before.fragRecOffset + p.len)
      (offset : p.decoded.usbIf.fragRecOffset + (4 + recsSize recs) =
        p.before.fragRecOffset + p.len)
      (err : ∃ e, p.decoded.err = some e ∧ e < 0)
  | fragment (first : List UsbproRec) (r : UsbproRec) (rest : List UsbproRec)
      (split : recs = first ++ r :: rest) (handled : p.handled = first.map (·.bytes))
      (begins : 4 + recsSize first ≤ p.before.fragRecOffset + p.len)
      (cut : p.before.fragRecOffset + p.len < 4 + recsSize first + r.bytes.length)
      (offset : p.decoded.usbIf.fragRecOffset + recsSize first = p.before.fragRecOffset + p.len)
      (pending : Pending p.decoded.mem (recsSize first - p.before.fragRecOffset) (r :: rest) extra)
      (later : ∀ a : Int, 4 + recsSize first - p.before.fragRecOffset ≤ a →
        p.decoded.mem a = p.mem a)
      (err : ∃ e, p.decoded.err = some e ∧ 0 ≤ e)
  | refused (first rest : List UsbproRec) (split : recs = first ++ rest)
      (handled : p.handled = first.map (·.bytes))
      (offset : p.decoded.usbIf.fragRecOffset = p.before.fragRecOffset)
      (stopped : ¬p.Accepted) (err : ∃ e, p.decoded.err = some e ∧ e < 0)

theorem onController_offset (usbIf : UsbInterface n) (channel : U8)
    (handle : UsbChannel → UsbChannel × Int) (result : Int → RecResult) :
    (onController usbIf channel handle result).1.fragRecOffset = usbIf.fragRecOffset := by
  unfold onController
  split <;> rfl

theorem calibration_offset (env : DecodeEnv) (usbIf : UsbInterface n) (tsLow devFrameIndex : U32) :
    (pcanUsbproHandleCalibration env usbIf tsLow devFrameIndex).1.fragRecOffset =
      usbIf.fragRecOffset := by
  unfold pcanUsbproHandleCalibration
  split
  next => rfl
  next =>
    simp only
    split
    next => rfl
    next => split <;> rfl

theorem usbproHandleRec_offset (usbIf : UsbInterface n) (input : DecodeEnv × (Nat → U8)) :
    (usbproHandleRec usbIf input).1.fragRecOffset = usbIf.fragRecOffset := by
  unfold usbproHandleRec
  simp only
  split
  next => exact onController_offset _ _ _ _
  next =>
    split
    next => exact onController_offset _ _ _ _
    next =>
      split
      next => exact calibration_offset _ _ _ _
      next =>
        split
        next => exact onController_offset _ _ _ _
        next => rfl

/-- Handlers do not touch the offset of the next packet. -/
theorem usbproLoop_offset (env : Nat → DecodeEnv) (mem : Int → U8) (msgEnd : Int)
    (recCount i : Nat) (recPtr err : Int) (usbIf : UsbInterface n) :
    (usbproLoop env mem msgEnd recCount i recPtr err usbIf).usbIf.fragRecOffset =
      usbIf.fragRecOffset := by
  rw [usbproLoop_run]
  generalize (usbproLoop env mem msgEnd recCount i recPtr err usbIf).handled = inputs
  induction inputs generalizing usbIf with
  | nil => rfl
  | cons input rest ih => exact (ih _).trans (usbproHandleRec_offset usbIf input)

def Packet.loop (p : Packet n) : UsbproLoop n :=
  usbproLoop p.env p.mem p.len (recCounter p.mem (-p.before.fragRecOffset)) 0
    (-p.before.fragRecOffset + 4) 0 p.before.resetWakeups

theorem Packet.decoded_eq {p : Packet n} (room : 4 ≤ p.before.fragRecOffset + p.len) :
    p.decoded = ⟨p.loop.finish p.len, p.loop.handled,
      if p.loop.ended = .fragment then
        writeCounter p.mem p.loop.recPtr (BitVec.ofNat 32 p.loop.recCount)
      else p.mem,
      if p.loop.ended = .fault then none else some p.loop.err⟩ := by
  unfold Packet.decoded pcanUsbproMsgDecode
  simp only [if_neg (show ¬p.len + p.before.fragRecOffset < 4 by omega)]
  rfl

theorem packet_ends {p : Packet n} {recs : List UsbproRec} {extra : Nat}
    (pending : Pending p.mem (-p.before.fragRecOffset) recs extra)
    (addressed : ∀ r ∈ recs, r.Addressed n) (room : 4 ≤ p.before.fragRecOffset + p.len) :
    PacketEnd p recs extra := by
  have counted : recs.length + extra < 65536 := by
    rw [← pending.counter]
    exact BitVec.isLt _
  have ended : LoopEnd p.len (-p.before.fragRecOffset + 4) recs extra p.loop := by
    rw [Packet.loop, pending.counter]
    exact usbproLoop_ends 0 _ pending.records pending.unknown addressed (by omega) (Int.le_refl 0)
  have kept : p.loop.usbIf.fragRecOffset = p.before.fragRecOffset :=
    usbproLoop_offset _ _ _ _ _ _ _ _
  have decoded := Packet.decoded_eq room
  cases ended with
  | all supported handled ended count ends err =>
    simp only [UsbproLoop.finish, ended, reduceCtorEq, if_false, count, gt_iff_lt,
      Nat.lt_irrefl] at decoded
    exact .all supported (by rw [Packet.handled, decoded]; exact handled) (by omega)
      (by rw [decoded]) (by rw [decoded]) ⟨_, by rw [decoded], err⟩
  | unsupported more handled ended count ptr begins err =>
    simp only [UsbproLoop.finish, ended, reduceCtorEq, if_false, gt_iff_lt,
      Nat.pos_of_ne_zero count, if_true] at decoded
    refine .unsupported more (by rw [Packet.handled, decoded]; exact handled) (by omega) ?_
      ⟨_, by rw [decoded], err⟩
    rw [decoded]
    simp only [ptr]
    omega
  | fragment first r rest split handled ended count ptr begins cut err =>
    have some : 0 < p.loop.recCount := by
      rw [count, List.length_cons]
      omega
    have small : p.loop.recCount < 65536 := by
      rw [split, List.length_append] at counted
      omega
    simp only [UsbproLoop.finish, ended, reduceCtorEq, if_false, gt_iff_lt, some,
      if_true] at decoded
    have held : Holds p.mem (-p.before.fragRecOffset + 4 + recsSize first)
        ((r :: rest).flatMap (·.bytes)) := by
      have records := pending.records
      rw [split, List.flatMap_append] at records
      exact records.append.2
    have later : ∀ a : Int, 4 + recsSize first - p.before.fragRecOffset ≤ a →
        p.decoded.mem a = p.mem a := by
      intro a behind
      rw [decoded]
      exact writeCounter_outside _ _ (by omega)
    refine .fragment first r rest split (by rw [Packet.handled, decoded]; exact handled) (by omega)
      (by omega) ?_ ?_ later ⟨_, by rw [decoded], err⟩
    · rw [decoded]
      simp only [ptr]
      omega
    · constructor
      case counter =>
        rw [decoded, ← count]
        have base : (recsSize first - p.before.fragRecOffset : Int) = p.loop.recPtr := by omega
        simp only [base]
        exact recCounter_write _ _ small
      case records =>
        rw [show (recsSize first - p.before.fragRecOffset + 4 : Int) =
          -p.before.fragRecOffset + 4 + recsSize first by omega]
        exact held.congr fun a behind => later a (by omega)
      case unknown =>
        intro more
        rw [later _ (by omega), ← pending.unknown more, split, recsSize_append]
        congr 2
        omega
  | refused first rest split handled ended err =>
    simp only [UsbproLoop.finish, ended, reduceCtorEq, if_false] at decoded
    refine .refused first rest split (by rw [Packet.handled, decoded]; exact handled) ?_ ?_
      ⟨_, by rw [decoded], err⟩
    · rw [decoded]
      exact kept
    · intro accepted
      obtain ⟨t, member, stops⟩ := usbproLoop_failed ended
      have := accepted t (by
        rw [usbproMsgRecs, if_neg (by omega)]
        exact member)
      rw [stops] at this
      cases this

end Decode

end PcanDriver

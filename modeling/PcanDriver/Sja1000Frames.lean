import PcanDriver.Lib.ByteStores
import PcanDriver.Lib.Masks
import PcanDriver.DataLengths

/-!
A frame in the registers of an SJA1000 (`sja1000_write_msg` and `__sja1000_read` of
`pcan_sja1000.c`): thirteen registers, in which both formats find the same frame.
-/
namespace PcanDriver

section Statement

def transmitFrameBase : Nat := 16

/-- The calls of `writereg` in front of the command. -/
def sja1000Writes (pf : PcanfdMsg) : List (Store U8) :=
  let ext := pf.flags &&& pcanfdMsgExt ≠ 0
  let fi := pf.dataLen.setWidth 8 ||| (if pf.flags &&& pcanfdMsgRtr ≠ 0 then bufferRtr else 0) |||
    (if ext then bufferEff else 0)
  let localID := if ext then pf.id <<< 3 else pf.id <<< 21
  let dreg := transmitFrameBase + if ext then 5 else 3
  [⟨transmitFrameBase, [fi]⟩,
    ⟨transmitFrameBase + 1, [(localID >>> 24).setWidth 8]⟩,
    ⟨transmitFrameBase + 2, [(localID >>> 16).setWidth 8]⟩] ++
    (if ext then
      [⟨transmitFrameBase + 3, [(localID >>> 8).setWidth 8]⟩,
        ⟨transmitFrameBase + 4, [localID.setWidth 8]⟩]
    else []) ++
    (List.range pf.dataLen.toNat).map fun i => ⟨dreg + i, [pf.data.toList.getD i 0]⟩

/-- The registers that are read of a frame with the information `fi`. -/
def sja1000FrameReads (fi : U8) : List Nat :=
  let eff := fi &&& bufferEff ≠ 0
  let dreg := receiveFrameBase + if eff then 5 else 3
  [receiveFrameBase, receiveFrameBase + 1, receiveFrameBase + 2] ++
    (if eff then [receiveFrameBase + 3, receiveFrameBase + 4] else []) ++
    (List.range (min (fi &&& bufferDlcMask).toNat 8)).map (dreg + ·)

/-- `frame` is the message `pf` as far as a CAN controller passes it on. -/
structure Sja1000ReadBack (pf : PcanfdMsg) (frame : PcanfdMsg) : Prop where
  type : frame.type = .can20Msg
  id : frame.id = pf.id
  flags : frame.flags = pf.flags &&& (pcanfdMsgExt ||| pcanfdMsgRtr)
  dataLen : frame.dataLen = pf.dataLen
  data : ∀ j : Fin 64, j.val < pf.dataLen.toNat → frame.data.get j = pf.data.get j
  clear : ∀ j : Fin 64, pf.dataLen.toNat ≤ j.val → j.val < 8 → frame.data.get j = 0

end Statement

section Window
variable {pf : PcanfdMsg}

theorem sja1000Writes_eq (short : pf.dataLen.toNat ≤ 64) :
    sja1000Writes pf = Store.bytewise transmitFrameBase (sja1000Frame pf) := by
  have whole : pf.data.toList.length = 64 := Vector.length_toList
  unfold sja1000Writes sja1000Frame
  dsimp only
  rw [Store.bytewise_map_range, Store.map_getD_range (by omega)]
  by_cases ext : pf.flags &&& pcanfdMsgExt ≠ 0
  · simp only [if_pos ext]
    rfl
  · simp only [if_neg ext]
    rfl

theorem sja1000Frame_length (short : pf.dataLen.toNat ≤ 8) :
    (sja1000Frame pf).length =
      (if pf.flags &&& pcanfdMsgExt ≠ 0 then 5 else 3) + pf.dataLen.toNat := by
  have whole : pf.data.toList.length = 64 := Vector.length_toList
  have data : (pf.data.toList.take pf.dataLen.toNat).length = pf.dataLen.toNat :=
    List.length_take_of_le (by omega)
  unfold sja1000Frame
  dsimp only
  by_cases ext : pf.flags &&& pcanfdMsgExt ≠ 0
  · simp only [if_pos ext, List.length_cons, List.length_append, List.length_reverse, le32_length,
      data]
  · simp only [if_neg ext, List.length_cons, List.length_append, List.length_reverse,
      List.length_drop, le32_length, data]

theorem sja1000Writes_inside (short : pf.dataLen.toNat ≤ 8) :
    ∀ s ∈ sja1000Writes pf, s.Inside transmitFrameBase (transmitFrameBase + 13) := by
  have length := sja1000Frame_length short
  rw [sja1000Writes_eq (by omega)]
  intro s member
  apply (Store.bytewise_inside _ _ s member).weaken (Nat.le_refl _)
  rw [length]
  split <;> omega

theorem sja1000FrameReads_inside (fi : U8) :
    ∀ r ∈ sja1000FrameReads fi, receiveFrameBase ≤ r ∧ r < receiveFrameBase + 13 := by
  intro r member
  unfold sja1000FrameReads at member
  simp only [List.mem_append, List.mem_cons, List.not_mem_nil, or_false, List.mem_map,
    List.mem_range] at member
  rcases member with (first | second) | ⟨i, less, rfl⟩
  · omega
  · split at second
    · simp only [List.mem_cons, List.not_mem_nil, or_false] at second
      omega
    · exact absurd second List.not_mem_nil
  · split <;> omega

theorem sja1000RxFrame_reads {readreg other : Nat → U8} (f : PcanfdRxmsg)
    (same : ∀ r ∈ sja1000FrameReads (readreg receiveFrameBase), other r = readreg r) :
    sja1000RxFrame other f = sja1000RxFrame readreg f := by
  generalize known : readreg receiveFrameBase = fi at same
  have info : other receiveFrameBase = fi := by
    rw [same _ (List.mem_append_left _ (List.mem_append_left _ List.mem_cons_self)), known]
  have first := same (receiveFrameBase + 1) (by simp [sja1000FrameReads])
  have second := same (receiveFrameBase + 2) (by simp [sja1000FrameReads])
  have behind : fi &&& bufferEff ≠ 0 → ∀ k ∈ [receiveFrameBase + 3, receiveFrameBase + 4],
      other k = readreg k := by
    intro eff k member
    apply same
    unfold sja1000FrameReads
    simp only [if_pos eff]
    exact List.mem_append_left _ (List.mem_append_right _ member)
  have data : ∀ j : Fin 64,
      (if j.val < min (fi &&& bufferDlcMask).toNat 8 then
        other (receiveFrameBase + (if fi &&& bufferEff ≠ 0 then 5 else 3) + j)
      else if j.val < 8 then 0 else f.msg.data.get j) =
      if j.val < min (fi &&& bufferDlcMask).toNat 8 then
        readreg (receiveFrameBase + (if fi &&& bufferEff ≠ 0 then 5 else 3) + j)
      else if j.val < 8 then 0 else f.msg.data.get j := by
    intro j
    apply ite_congr rfl _ (fun _ => rfl)
    intro less
    apply same
    exact List.mem_append_right _ (List.mem_map_of_mem (List.mem_range.mpr less))
  unfold sja1000RxFrame
  simp only [info, known, first, second, data]
  by_cases eff : fi &&& bufferEff ≠ 0
  · simp only [if_pos eff, behind eff _ List.mem_cons_self,
      behind eff (receiveFrameBase + 4) (List.mem_cons_of_mem _ List.mem_cons_self)]
  · simp only [if_neg eff]

end Window

section ReadBack
variable {pf : PcanfdMsg}

theorem stored_fi : ∀ x : U8, x.toNat ≤ 8 → ∀ rtr eff : Bool,
    let fi := x ||| (if rtr then bufferRtr else 0) ||| (if eff then bufferEff else 0)
    (fi &&& bufferDlcMask).toNat = x.toNat ∧ (fi &&& bufferRtr ≠ 0 ↔ rtr = true) ∧
      (fi &&& bufferEff ≠ 0 ↔ eff = true) := by
  decide

theorem four_bytes (x : U32) :
    ((x >>> 24).setWidth 8 ++ (x >>> 16).setWidth 8 ++ ((x >>> 8).setWidth 8 ++ x.setWidth 8) :
      U32) = x := by
  have small := x.isLt
  apply BitVec.eq_of_toNat_eq
  simp only [Masks.toNat_append, BitVec.toNat_setWidth, BitVec.toNat_ushiftRight,
    Nat.shiftRight_eq_div_pow]
  omega

theorem two_bytes {x : U32} (upper : x.toNat % 2 ^ 16 = 0) :
    ((x >>> 24).setWidth 8 ++ (x >>> 16).setWidth 8 ++ (0 : U16) : U32) = x := by
  have small := x.isLt
  apply BitVec.eq_of_toNat_eq
  simp only [Masks.toNat_append, BitVec.toNat_setWidth, BitVec.toNat_ushiftRight,
    Nat.shiftRight_eq_div_pow]
  have none : (0 : U16).toNat = 0 := rfl
  omega

theorem shifted_back {id : U32} {k : Nat} (fits : id.toNat * 2 ^ k < 2 ^ 32) :
    (id <<< k) >>> k = id := by
  apply BitVec.eq_of_toNat_eq
  rw [BitVec.toNat_ushiftRight, Masks.toNat_shiftLeft_of_lt fits, Nat.shiftRight_eq_div_pow,
    Nat.mul_div_cancel _ (Nat.two_pow_pos k)]

theorem flagIf_bit {bit : U32} {i : Nat} (one : bit = BitVec.twoPow 32 i) (flags : U32)
    {set : Bool} (known : set = true ↔ flags &&& bit ≠ 0) : flagIf set bit = flags &&& bit := by
  unfold flagIf
  rcases Masks.flag_cases one flags with clear | full
  · rw [if_neg (mt known.mp (not_not.mpr clear)), clear]
  · by_cases present : set = true
    · rw [if_pos present, full]
    · have clear : flags &&& bit = 0 := not_not.mp (mt known.mpr present)
      rw [if_neg present, clear]

theorem registers_of_fields {readreg : Nat → U8} {base : Nat} {head data : List U8}
    (written : ∀ k < (head ++ data).length, readreg (base + k) = (head ++ data).getD k 0) :
    (∀ k < head.length, readreg (base + k) = head.getD k 0) ∧
      ∀ j < data.length, readreg (base + head.length + j) = data.getD j 0 := by
  rw [List.length_append] at written
  constructor
  · intro k less
    rw [written k (by omega), List.getD_eq_getElem?_getD, List.getElem?_append_left less,
      List.getD_eq_getElem?_getD]
  · intro j less
    rw [Nat.add_assoc, written (head.length + j) (by omega), List.getD_eq_getElem?_getD,
      List.getElem?_append_right (Nat.le_add_right _ _), Nat.add_sub_cancel_left,
      List.getD_eq_getElem?_getD]

theorem sja1000RxFrame_fields {readreg : Nat → U8} (f : PcanfdRxmsg)
    (short : pf.dataLen.toNat ≤ 8)
    (info : readreg receiveFrameBase = pf.dataLen.setWidth 8 |||
      (if pf.flags &&& pcanfdMsgRtr ≠ 0 then bufferRtr else 0) |||
      (if pf.flags &&& pcanfdMsgExt ≠ 0 then bufferEff else 0))
    (localID : (if pf.flags &&& pcanfdMsgExt ≠ 0 then
        (readreg (receiveFrameBase + 1) ++ readreg (receiveFrameBase + 2) ++
          (readreg (receiveFrameBase + 3) ++ readreg (receiveFrameBase + 4)) : U32) >>> 3
      else (readreg (receiveFrameBase + 1) ++ readreg (receiveFrameBase + 2) ++
        (0 : U16) : U32) >>> 21) = pf.id)
    (data : ∀ j < pf.dataLen.toNat,
      readreg (receiveFrameBase + (if pf.flags &&& pcanfdMsgExt ≠ 0 then 5 else 3) + j) =
        pf.data.toList.getD j 0) :
    Sja1000ReadBack pf (sja1000RxFrame readreg f).msg := by
  have cut : (pf.dataLen.setWidth 8).toNat = pf.dataLen.toNat := by
    rw [BitVec.toNat_setWidth]
    exact Nat.mod_eq_of_lt (by omega)
  obtain ⟨dlc, rtr, eff⟩ := stored_fi (pf.dataLen.setWidth 8) (by omega)
    (pf.flags &&& pcanfdMsgRtr ≠ 0 : Bool) (pf.flags &&& pcanfdMsgExt ≠ 0 : Bool)
  simp only [decide_eq_true_eq] at dlc rtr eff
  rw [← info] at dlc rtr eff
  have len : min (readreg receiveFrameBase &&& bufferDlcMask).toNat 8 = pf.dataLen.toNat := by
    rw [dlc, cut]
    exact Nat.min_eq_left short
  have got : ∀ j : Fin 64, (sja1000RxFrame readreg f).msg.data.get j =
      if j.val < pf.dataLen.toNat then
        readreg (receiveFrameBase + (if pf.flags &&& pcanfdMsgExt ≠ 0 then 5 else 3) + j)
      else if j.val < 8 then 0 else f.msg.data.get j := by
    intro j
    unfold sja1000RxFrame
    simp only [len, eff]
    exact Vector.getElem_ofFn j.isLt
  constructor
  case type => rfl
  case id =>
    unfold sja1000RxFrame
    simp only [eff]
    rw [← localID]
    split <;> rfl
  case flags =>
    unfold sja1000RxFrame
    rw [BitVec.and_or_distrib_left, ← @flagIf_bit pcanfdMsgExt 1 rfl pf.flags _
      (decide_eq_true_iff.trans eff), ← @flagIf_bit pcanfdMsgRtr 0 rfl pf.flags _
      (decide_eq_true_iff.trans rtr)]
  case dataLen =>
    unfold sja1000RxFrame
    simp only [len]
    exact BitVec.ofNat_toNat ..
  case data =>
    intro j less
    rw [got, if_pos less, data j less, List.getD_eq_getElem?_getD, Vector.getElem?_toList,
      Vector.getElem?_eq_getElem j.isLt]
    rfl
  case clear =>
    intro j long less
    rw [got, if_neg (by omega), if_pos less]

theorem sja1000RxFrame_written {readreg : Nat → U8} (f : PcanfdRxmsg)
    (short : pf.dataLen.toNat ≤ 8)
    (fits : pf.id.toNat < if pf.flags &&& pcanfdMsgExt ≠ 0 then 2 ^ 29 else 2 ^ 11)
    (written : ∀ k < (sja1000Frame pf).length,
      readreg (receiveFrameBase + k) = (sja1000Frame pf).getD k 0) :
    Sja1000ReadBack pf (sja1000RxFrame readreg f).msg := by
  have whole : pf.data.toList.length = 64 := Vector.length_toList
  have size : (pf.data.toList.take pf.dataLen.toNat).length = pf.dataLen.toNat :=
    List.length_take_of_le (by omega)
  have taken : ∀ j < pf.dataLen.toNat,
      (pf.data.toList.take pf.dataLen.toNat).getD j 0 = pf.data.toList.getD j 0 := by
    intro j less
    rw [List.getD_eq_getElem?_getD, List.getElem?_take_of_lt less, List.getD_eq_getElem?_getD]
  by_cases ext : pf.flags &&& pcanfdMsgExt ≠ 0
  · rw [if_pos ext] at fits
    have room : pf.id.toNat * 2 ^ 3 < 2 ^ 32 := by omega
    have bytes : sja1000Frame pf =
        [pf.dataLen.setWidth 8 ||| (if pf.flags &&& pcanfdMsgRtr ≠ 0 then bufferRtr else 0) |||
            bufferEff,
          ((pf.id <<< 3) >>> 24).setWidth 8, ((pf.id <<< 3) >>> 16).setWidth 8,
          ((pf.id <<< 3) >>> 8).setWidth 8, (pf.id <<< 3).setWidth 8] ++
        pf.data.toList.take pf.dataLen.toNat := by
      unfold sja1000Frame
      simp only [if_pos ext]
      rfl
    rw [bytes] at written
    obtain ⟨head, data⟩ := registers_of_fields written
    apply sja1000RxFrame_fields f short
    · rw [if_pos ext]
      exact head 0 (by decide : 0 < 5)
    · have upper := head 1 (by decide : 1 < 5)
      have second := head 2 (by decide : 2 < 5)
      have third := head 3 (by decide : 3 < 5)
      have lower := head 4 (by decide : 4 < 5)
      simp only [List.getD_cons_succ, List.getD_cons_zero] at upper second third lower
      rw [if_pos ext, upper, second, third, lower, four_bytes, shifted_back room]
    · intro j less
      rw [if_pos ext, ← taken j less]
      exact data j (by omega)
  · rw [if_neg ext] at fits
    have room : pf.id.toNat * 2 ^ 21 < 2 ^ 32 := by omega
    have bytes : sja1000Frame pf =
        [pf.dataLen.setWidth 8 ||| (if pf.flags &&& pcanfdMsgRtr ≠ 0 then bufferRtr else 0) ||| 0,
          ((pf.id <<< 21) >>> 24).setWidth 8, ((pf.id <<< 21) >>> 16).setWidth 8] ++
        pf.data.toList.take pf.dataLen.toNat := by
      unfold sja1000Frame
      simp only [if_neg ext]
      rfl
    rw [bytes] at written
    obtain ⟨head, data⟩ := registers_of_fields written
    have upper_half : (pf.id <<< 21).toNat % 2 ^ 16 = 0 := by
      rw [Masks.toNat_shiftLeft_of_lt room]
      omega
    apply sja1000RxFrame_fields f short
    · rw [if_neg ext]
      exact head 0 (by decide : 0 < 3)
    · have upper := head 1 (by decide : 1 < 3)
      have second := head 2 (by decide : 2 < 3)
      simp only [List.getD_cons_succ, List.getD_cons_zero] at upper second
      rw [if_neg ext, upper, second, two_bytes upper_half, shifted_back room]
    · intro j less
      rw [if_neg ext, ← taken j less]
      exact data j (by omega)

/-- Both formats are found again in the thirteen registers, and no other register is used. -/
theorem sja1000_frame_read_back (pf : PcanfdMsg) (short : pf.dataLen.toNat ≤ 8)
    (fits : pf.id.toNat < if pf.flags &&& pcanfdMsgExt ≠ 0 then 2 ^ 29 else 2 ^ 11) :
    (∀ s ∈ sja1000Writes pf, s.Inside transmitFrameBase (transmitFrameBase + 13)) ∧
      (∀ fi, ∀ r ∈ sja1000FrameReads fi, receiveFrameBase ≤ r ∧ r < receiveFrameBase + 13) ∧
      (∀ (readreg other : Nat → U8) (f : PcanfdRxmsg),
        (∀ r ∈ sja1000FrameReads (readreg receiveFrameBase), other r = readreg r) →
          sja1000RxFrame other f = sja1000RxFrame readreg f) ∧
      ∀ (before : Nat → U8) (readreg : Nat → Nat → U8) (i msgs : Nat) (host : Nat → Host)
        (f : PcanfdRxmsg) (dev : Sja1000Dev),
        readreg i sja1000Sr &&& sja1000SrRbs ≠ 0 →
        (∀ k < 13, readreg i (receiveFrameBase + k) =
          Store.run (sja1000Writes pf) before (transmitFrameBase + k)) →
        ∃ frame posts, (sja1000Read host readreg (msgs + 1) i f dev).posts = frame :: posts ∧
          Sja1000ReadBack pf frame.msg := by
  refine ⟨sja1000Writes_inside short, sja1000FrameReads_inside,
    fun _ _ f same => sja1000RxFrame_reads f same, ?_⟩
  intro before readreg i msgs host f dev ready same
  have length := sja1000Frame_length short
  have written : ∀ k < (sja1000Frame pf).length,
      readreg i (receiveFrameBase + k) = (sja1000Frame pf).getD k 0 := by
    intro k less
    have inside : k < 13 := by
      rw [length] at less
      split at less <;> omega
    rw [same k inside, sja1000Writes_eq (by omega), Store.run_bytewise, Store.apply,
      if_pos (Nat.le_add_right _ _), Nat.add_sub_cancel_left, List.getElem?_eq_getElem less,
      Option.getD_some, List.getD_eq_getElem?_getD, List.getElem?_eq_getElem less,
      Option.getD_some]
  rw [sja1000Read, if_neg ready]
  exact ⟨sja1000RxFrame (readreg i) f, _, rfl, sja1000RxFrame_written f short fits written⟩

end ReadBack

section Samples

theorem remote_frame_read_back :
    let pf : PcanfdMsg := { PcanfdMsg.zero with
      id := 0x1abcdef0, flags := pcanfdMsgExt ||| pcanfdMsgRtr, dataLen := 8 }
    (∀ s ∈ sja1000Writes pf, s.Inside transmitFrameBase (transmitFrameBase + 13)) ∧
      ∀ dev : Sja1000Dev, ∃ frame posts,
        (sja1000Read (fun _ => default) (fun _ r => if r = sja1000Sr then sja1000SrRbs else
          Store.run (sja1000Writes pf) (fun _ => 0) r) 1 0 default dev).posts = frame :: posts ∧
          Sja1000ReadBack pf frame.msg := by
  intro pf
  have proved := sja1000_frame_read_back pf (by decide) (by decide)
  refine ⟨proved.1, fun dev => proved.2.2.2 (fun _ => 0) _ 0 0 _ _ dev (by decide) ?_⟩
  intro k _
  apply if_neg
  simp only [receiveFrameBase, sja1000Sr]
  omega

end Samples

end PcanDriver

import PcanDriver.Lib.StepSystem
import PcanDriver.OpenSpec
import PcanDriver.TextOutput

/-!
Messages read from the device as text (`pcan_read` of `pcan_fops_linux.c`). A line is made in a
buffer of the path, whose size is fixed, and is given out over as many reads as it takes.
-/
namespace PcanDriver
open StepSystem

def readbufferSize : Nat := 80

section Source

/-- What a call meets: whether there is a device, what the ioctl gives if it is asked for a
    message, and whether the user's buffer can be written. -/
structure TextReadCall where
  count : Nat
  present : Bool
  recv : Except Int PcanfdMsg
  writable : Bool

/-- What a path has of the reads, with the messages received and the bytes returned. The pointer
    is a position in `pcReadBuffer`; after an overrun the members behind the buffer are lost, these
    among them. -/
structure TextReader where
  buffer : List U8
  pointer : Nat
  rest : Nat
  received : List PcanfdMsg
  returned : List U8
  overrun : Bool

def TextReader.opened (buffer : List U8) : TextReader := ⟨buffer, 0, 0, [], [], false⟩

def TextReader.fill (path : TextReader) (msg : PcanfdMsg) : TextReader :=
  let o := pcanMakeOutput msg
  { path with
    buffer := o.text ++ path.buffer.drop o.text.length
    pointer := 0
    rest := o.text.length
    received := path.received ++ [msg]
    overrun := readbufferSize < o.extent }

/-- The data given to the user: what is left is counted before they are copied. -/
def TextReader.give (path : TextReader) (call : TextReadCall) : TextReader × Int :=
  if path.rest < call.count then
    let data := (path.buffer.drop path.pointer).take path.rest
    let path := { path with rest := 0 }
    if call.writable then ({ path with pointer := 0, returned := path.returned ++ data }, data.length)
    else (path, -efault)
  else
    let data := (path.buffer.drop path.pointer).take call.count
    let path := { path with rest := path.rest - call.count }
    if call.writable then
      ({ path with pointer := path.pointer + call.count, returned := path.returned ++ data },
        data.length)
    else (path, -efault)

def pcanRead (path : TextReader) (call : TextReadCall) : TextReader × Int :=
  if path.overrun then (path, 0)
  else if call.present = false then (path, -enodev)
  else if path.rest = 0 then
    match call.recv with
    | .error err => (path, err)
    | .ok msg => if (path.fill msg).overrun then (path.fill msg, 0) else (path.fill msg).give call
  else path.give call

end Source

section Statement

def TextReader.left (path : TextReader) : List U8 := (path.buffer.drop path.pointer).take path.rest

def TextReader.lines (path : TextReader) : List U8 :=
  path.received.flatMap fun msg => (pcanMakeOutput msg).text

/-- The buffer has held every line; the bytes returned start the lines of the messages received,
    and what they lack is still in the buffer. -/
structure TextReader.Sound (path : TextReader) : Prop where
  inside : path.overrun = false
  room : path.left.length = path.rest
  starts : path.returned <+: path.lines
  kept : path.returned ++ path.left = path.lines

/-- Without data, or with so few that the line is no longer than the buffer. -/
def TextFits (pf : PcanfdMsg) : Prop :=
  pf.flags &&& pcanfdMsgRtr ≠ 0 ∨
    pf.dataLen.toNat ≤ if pf.flags &&& pcanfdTimestamp = 0 then 12
      else if 0 ≤ pf.timestamp.tvUsec.tmod 1000 then 8 else 7

/-- A message for which the ioctl is asked fits, and bytes for the user can be copied. -/
def ReadMeets (path : TextReader) (call : TextReadCall) : Prop :=
  call.present = true → (path.rest = 0 → ∀ msg, call.recv = .ok msg → TextFits msg) ∧
    (path.rest = 0 ∧ (∀ msg, call.recv ≠ .ok msg) ∨ call.count = 0 ∨ call.writable = true)

end Statement

section Length

theorem padded_length (width : Nat) (fill : U8) (text : List U8) :
    (padded width fill text).length = max width text.length := by
  unfold padded
  rw [List.length_append, List.length_replicate]
  omega

theorem padded_fits {base width n : Nat} (fill : U8) (wide : 1 < base) (positive : 0 < width)
    (fits : n < base ^ width) : (padded width fill (numeralText base n)).length = width := by
  rw [padded_length]
  exact max_eq_left ((numeralText_length wide positive).mpr fits)

theorem dataText_length (d : U8) : (dataText d).length = 5 := by
  have digits := padded_fits (chr '0') (by decide : 1 < 16) (by decide : 0 < 2) d.isLt
  unfold dataText
  rw [List.length_append, List.length_append, digits]
  rfl

theorem lineHead_length (pf : PcanfdMsg) :
    (lineHead pf).length = 17 + max 2 (numeralText 10 pf.dataLen.toNat).length := by
  have digits := padded_fits (chr '0') (by decide : 1 < 16) (by decide : 0 < 8) pf.id.isLt
  have texts : (ascii " 0x").length = 3 ∧ (ascii "  ").length = 2 := ⟨rfl, rfl⟩
  unfold lineHead
  simp only [List.length_append, List.length_cons, digits, padded_length, texts]
  omega

theorem lineTime_us (tv : Timeval) : (lineTime tv).2 = BitVec.ofInt 32 (tv.tvUsec.tmod 1000) := by
  have sum : BitVec.ofInt 32 tv.tvUsec =
      BitVec.ofInt 32 (tv.tvUsec.tmod 1000) + BitVec.ofInt 32 (tv.tvUsec.tdiv 1000 * 1000) := by
    rw [← BitVec.ofInt_add, Int.mul_comm, Int.tmod_add_mul_tdiv]
  have scale : (1000 : U32) = BitVec.ofInt 32 1000 := rfl
  unfold lineTime
  dsimp only
  rw [scale, ← BitVec.ofInt_mul, sum, BitVec.add_sub_cancel]

theorem timeText_length (tv : Timeval) :
    (timeText tv).length = if 0 ≤ tv.tvUsec.tmod 1000 then 16 else 23 := by
  have ms := padded_fits (chr ' ') (by decide : 1 < 10) (by decide : 0 < 11)
    (Nat.lt_trans (lineTime tv).1.isLt (by decide))
  have us : (lineTime tv).2.toNat = (tv.tvUsec.tmod 1000 % (2 ^ 32 : Nat)).toNat := by
    rw [lineTime_us, BitVec.toNat_ofInt]
  have above := Int.tmod_lt_of_pos tv.tvUsec (by decide : (0 : Int) < 1000)
  have below := Int.lt_tmod_of_pos tv.tvUsec (by decide : (0 : Int) < 1000)
  unfold timeText
  simp only [List.length_append, List.length_cons, ms, padded_length]
  split
  next positive =>
    have short : (lineTime tv).2.toNat < 10 ^ 3 := by
      rw [us]
      omega
    have digits := (numeralText_length (by decide : 1 < 10) (by decide : 0 < 3)).mpr short
    omega
  next negative =>
    have long : ¬(lineTime tv).2.toNat < 10 ^ 9 := by
      rw [us]
      omega
    have most := (numeralText_length (by decide : 1 < 10) (by decide : 0 < 10)).mpr
      (Nat.lt_trans (lineTime tv).2.isLt (by decide))
    have least := mt (numeralText_length (by decide : 1 < 10) (by decide : 0 < 9)).mp long
    omega

theorem lineBody_length (pf : PcanfdMsg) : (lineBody pf).length =
    (if pf.flags &&& pcanfdMsgRtr = 0 then 5 * pf.dataLen.toNat else 0) +
      if pf.flags &&& pcanfdTimestamp ≠ 0 then (timeText pf.timestamp).length else 0 := by
  have data : (pf.dataBytes.flatMap dataText).length = 5 * pf.dataLen.toNat := by
    rw [List.length_flatMap, List.map_congr_left fun d _ => dataText_length d, List.map_const',
      List.sum_replicate]
    unfold PcanfdMsg.dataBytes
    rw [List.length_map, List.length_range]
    exact Nat.mul_comm _ _
  unfold lineBody
  rw [List.length_append]
  split <;> split <;> simp only [data, List.length_nil]

theorem extent_iff (pf : PcanfdMsg) :
    (pcanMakeOutput pf).extent ≤ readbufferSize ↔ TextFits pf := by
  have digits : (numeralText 10 pf.dataLen.toNat).length ≤ 5 := by
    rw [numeralText_length (by decide) (by decide)]
    exact Nat.lt_trans pf.dataLen.isLt (by decide)
  have short (small : pf.dataLen.toNat ≤ 12) : (numeralText 10 pf.dataLen.toNat).length ≤ 2 := by
    rw [numeralText_length (by decide) (by decide)]
    omega
  obtain ⟨text, extent⟩ := makeOutput_spec pf
  rw [extent, text, List.length_append, List.length_append, lineHead_length, lineBody_length,
    timeText_length, List.length_singleton]
  unfold TextFits readbufferSize
  by_cases rtr : pf.flags &&& pcanfdMsgRtr = 0
  · rw [if_pos rtr, or_iff_right (not_not.mpr rtr)]
    by_cases timed : pf.flags &&& pcanfdTimestamp = 0
    · rw [if_pos timed, if_neg (not_not.mpr timed)]
      omega
    · rw [if_neg timed, if_pos timed]
      split <;> omega
  · rw [if_neg rtr]
    refine iff_of_true ?_ (.inl rtr)
    split
    · split <;> omega
    · omega

end Length

section Reads
variable {path : TextReader} {call : TextReadCall}

theorem TextReader.fill_sound (sound : path.Sound) (empty : path.rest = 0) (msg : PcanfdMsg)
    (fits : (path.fill msg).overrun = false) :
    (path.fill msg).Sound ∧ 0 < (path.fill msg).rest := by
  have nothing : path.left = [] := List.eq_nil_of_length_eq_zero (sound.room.trans empty)
  have all := sound.kept
  rw [nothing, List.append_nil] at all
  have left : (path.fill msg).left = (pcanMakeOutput msg).text := by
    unfold TextReader.left TextReader.fill
    simp
  have lines : (path.fill msg).lines = path.returned ++ (pcanMakeOutput msg).text := by
    rw [all]
    unfold TextReader.lines TextReader.fill
    simp
  have kept : (path.fill msg).returned ++ (path.fill msg).left = (path.fill msg).lines := by
    rw [left, lines]
    rfl
  refine ⟨⟨fits, ?_, ⟨_, kept⟩, kept⟩, ?_⟩
  · rw [left]
    rfl
  · have filled : (path.fill msg).rest = (pcanMakeOutput msg).text.length := rfl
    rw [filled, (makeOutput_spec msg).1, List.length_append]
    exact Nat.succ_pos _

/-- Bytes given to the user are lost exactly if there are some and they cannot be copied. -/
theorem TextReader.give_sound_iff (sound : path.Sound) (some_ : 0 < path.rest) :
    (path.give call).1.Sound ↔ call.count = 0 ∨ call.writable = true := by
  obtain ⟨inside, room, starts, kept⟩ := sound
  -- a failed copy leaves less than there was
  have lost (fewer : Nat) (less : fewer < path.rest) :
      path.returned ++ (path.buffer.drop path.pointer).take fewer ≠ path.lines := by
    intro same
    have rest := List.append_cancel_left (same.trans kept.symm)
    have lengths := congrArg List.length rest
    rw [room, List.length_take] at lengths
    omega
  unfold TextReader.give
  by_cases whole : path.rest < call.count
  · rw [if_pos whole]
    by_cases writable : call.writable = true
    · simp only [if_pos writable]
      have all : path.returned ++ path.left ++ [] = path.lines := by
        rw [List.append_nil]
        exact kept
      exact iff_of_true ⟨inside, rfl, ⟨[], all⟩, all⟩ (.inr writable)
    · simp only [if_neg writable]
      refine iff_of_false (fun sound => lost 0 some_ sound.kept) ?_
      rintro (none | other)
      · omega
      · exact writable other
  · rw [if_neg whole]
    by_cases writable : call.writable = true
    · simp only [if_pos writable]
      have split : (path.buffer.drop path.pointer).take call.count ++
          (path.buffer.drop (path.pointer + call.count)).take (path.rest - call.count) =
          path.left := by
        unfold TextReader.left
        rw [← List.drop_drop, ← List.take_add]
        congr 1
        omega
      have count : ((path.buffer.drop path.pointer).take call.count).length = call.count := by
        have available := room
        unfold TextReader.left at available
        rw [List.length_take] at available ⊢
        omega
      have all : path.returned ++ (path.buffer.drop path.pointer).take call.count ++
          (path.buffer.drop (path.pointer + call.count)).take (path.rest - call.count) =
          path.lines := by
        rw [List.append_assoc, split]
        exact kept
      refine iff_of_true ⟨inside, ?_, ⟨_, all⟩, all⟩ (.inr writable)
      have lengths := congrArg List.length split
      rw [List.length_append, count, room] at lengths
      exact Nat.eq_sub_of_add_eq' lengths
    · simp only [if_neg writable]
      by_cases none : call.count = 0
      · rw [none, Nat.sub_zero]
        exact iff_of_true ⟨inside, room, starts, kept⟩ (.inl rfl)
      · exact iff_of_false (fun sound => lost (path.rest - call.count) (by omega) sound.kept)
          (not_or.mpr ⟨none, writable⟩)

theorem pcanRead_sound_iff (sound : path.Sound) :
    (pcanRead path call).1.Sound ↔ ReadMeets path call := by
  unfold pcanRead ReadMeets
  rw [sound.inside, if_neg Bool.false_ne_true]
  by_cases present : call.present = false
  · rw [if_pos present]
    refine iff_of_true sound ?_
    rw [present]
    exact fun isTrue => absurd isTrue Bool.false_ne_true
  · rw [if_neg present]
    by_cases empty : path.rest = 0
    · rw [if_pos empty]
      cases asked : call.recv with
      | error err =>
        refine iff_of_true sound fun _ => ⟨fun _ => nofun, .inl ⟨empty, nofun⟩⟩
      | ok msg =>
        have fits : (path.fill msg).overrun = false ↔ TextFits msg := by
          rw [← extent_iff]
          exact decide_eq_false_iff_not.trans Nat.not_lt
        dsimp only
        by_cases overrun : (path.fill msg).overrun = true
        · rw [if_pos overrun]
          refine iff_of_false (fun sound => Bool.false_ne_true (sound.inside.symm.trans overrun)) ?_
          intro meets
          have short := (meets (by simpa using present)).1 empty msg rfl
          rw [← fits] at short
          simp [short] at overrun
        · rw [if_neg overrun]
          have inside := Bool.eq_false_iff.mpr overrun
          obtain ⟨filled, some_⟩ := TextReader.fill_sound sound empty msg inside
          rw [TextReader.give_sound_iff filled some_]
          constructor
          · rintro copied -
            refine ⟨fun _ other same => ?_, .inr copied⟩
            cases same
            exact fits.mp inside
          · intro meets
            rcases (meets (by simpa using present)).2 with ⟨-, none⟩ | copied
            · exact absurd rfl (none msg)
            · exact copied
    · rw [if_neg empty, TextReader.give_sound_iff sound (Nat.pos_of_ne_zero empty)]
      constructor
      · rintro copied -
        exact ⟨fun other => absurd other empty, .inr copied⟩
      · intro meets
        rcases (meets (by simpa using present)).2 with ⟨other, -⟩ | copied
        · exact absurd other empty
        · exact copied

/-- A line is made inside of the buffer exactly where it is short, and reads of any sizes return
    the lines without loss exactly where all that they meet are short and can be copied. -/
theorem text_read_iff (pf : PcanfdMsg) (buffer : List U8) (calls : List TextReadCall) :
    ((pcanMakeOutput pf).extent ≤ readbufferSize ↔ TextFits pf) ∧
      ((∀ path ∈ states pcanRead (.opened buffer) calls, path.Sound) ↔
        Admitted ReadMeets pcanRead (.opened buffer) calls) := by
  have start : (TextReader.opened buffer).Sound := ⟨rfl, rfl, List.nil_prefix, rfl⟩
  have free : Admitted (fun _ _ => True) pcanRead (.opened buffer) calls :=
    admitted_of_forall _ fun _ _ => trivial
  exact ⟨extent_iff pf, states_iff_admitted (fun _ _ sound _ => pcanRead_sound_iff sound) start free⟩

end Reads

section Samples

def longest : PcanfdMsg :=
  { PcanfdMsg.zero with
    type := .canfdMsg
    dataLen := 64
    flags := pcanfdMsgBrs ||| pcanfdTimestamp }

/-- The line of a CAN FD message takes 356 bytes, and already the first read writes them. -/
theorem longest_overruns : (pcanMakeOutput longest).extent = 356 ∧
    ¬∀ path ∈ states pcanRead (.opened (List.replicate readbufferSize 0))
      [⟨80, true, .ok longest, true⟩], path.Sound := by
  have extent : (pcanMakeOutput longest).extent = 356 := by decide +kernel
  refine ⟨extent, fun all => ?_⟩
  have last := (all _ (List.mem_cons_of_mem _ (List.mem_singleton_self _))).inside
  revert last
  decide +kernel

end Samples

end PcanDriver

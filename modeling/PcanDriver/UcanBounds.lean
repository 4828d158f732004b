import PcanDriver.ChannelIsolation
import PcanDriver.ClosedChannels

/-!
Which bytes of memory `ucan_handle_msgs_buffer` looks at. The loop checks that a record
ends inside of the buffer after the record has been handled, and the size of a record is
not compared with what its handler reads, so a short record lets the handler read behind
the bytes that have been received.
-/
namespace PcanDriver
variable {n : Nat}

section Reads

/-- Where `ucan_handle_msg` finds the channel. -/
def ucanChannelAt : UcanMsg → Nat
  | .canRx => 20
  | _ => 12

def ucanDataLen (rm : Nat → U8) : Nat :=
  if u16At rm 22 &&& ucanMsgExtDataLen ≠ 0 then pcanDlc2len (rm 20 >>> 4)
  else min (rm 20 >>> 4).toNat 8

/-- Bytes from the start of a record on that its handler reads. -/
def ucanReads (kind : UcanMsg) (msg : Nat → U8) : Nat :=
  match kind with
  | .canRx => if u16At msg 22 &&& ucanMsgRtr ≠ 0 then 28 else 28 + ucanDataLen msg
  | .error => 16
  | .status => 13
  | .busLoad => 16
  | .overrun => 13
  | .calibration => 14

/-- The kind of a record that a handler is called for: one of a known type with a
    channel that exists. -/
def ucanCalls (n : Nat) (msg : Nat → U8) : Option UcanMsg :=
  if u16At msg 0 = 0 then none
  else (pcanUsbfdUcanHandlers (u16At msg 2)).filter fun kind =>
    kind = .calibration ∨ ucanMsgChannel kind msg < n + 1

/-- Where the records of a buffer are, whatever their channels do with them. -/
def ucanOffsets (mem : Nat → U8) (msgLen : Nat) : Nat → Nat → List Nat
  | 0, _ => []
  | fuel + 1, ptr =>
    if ptr < msgLen then
      ptr :: match ucanNext fun k => mem (ptr + k) with
        | some size => ucanOffsets mem msgLen fuel (ptr + align4 size)
        | none => []
    else []

/-- The records that a call of `ucan_handle_msgs_buffer` comes to. -/
def ucanVisited (env : Nat → DecodeEnv) (usbIf : UsbInterface n) (mem : Nat → U8) (msgLen : Nat) :
    List Nat :=
  (ucanOffsets mem msgLen (msgLen + 1) 0).take
    (ucanHandleMsgsBuffer env usbIf mem msgLen).handled.length

theorem ucanMsgs_offsets (env : Nat → DecodeEnv) (mem : Nat → U8) (msgLen fuel i ptr : Nat) :
    (ucanMsgs env mem msgLen fuel i ptr).map Prod.snd =
      (ucanOffsets mem msgLen fuel ptr).map fun at_ k => mem (at_ + k) := by
  induction fuel generalizing i ptr with
  | zero => rfl
  | succ fuel ih =>
    unfold ucanMsgs ucanOffsets
    split
    · simp only [List.map_cons]
      cases ucanNext fun k => mem (ptr + k) with
      | none => rfl
      | some size => simp only [ih]
    · rfl

theorem ucanVisited_handled (env : Nat → DecodeEnv) (usbIf : UsbInterface n) (mem : Nat → U8)
    (msgLen : Nat) :
    (ucanHandleMsgsBuffer env usbIf mem msgLen).handled.map Prod.snd =
      (ucanVisited env usbIf mem msgLen).map fun at_ k => mem (at_ + k) := by
  have handled : (ucanHandleMsgsBuffer env usbIf mem msgLen).handled =
      (ucanMsgs env mem msgLen (msgLen + 1) 0 0).take
        (ucanHandleMsgsBuffer env usbIf mem msgLen).handled.length := by
    have taken := ucanLoop_handled env mem msgLen (msgLen + 1) 0 0 usbIf
    unfold ucanHandleMsgsBuffer
    rw [taken, List.length_take]
    exact List.take_eq_take_min
  rw [handled, List.map_take, ucanMsgs_offsets, ← List.map_take]
  rfl

end Reads

section Statement

def Agree (msgLen : Nat) (mem mem' : Nat → U8) : Prop := ∀ k < msgLen, mem' k = mem k

/-- The handler of a record reads no more than the record, which has `rest` bytes of
    the buffer at most. -/
def ReadsInside (n : Nat) (msg : Nat → U8) (rest : Nat) : Prop :=
  ∀ kind, ucanCalls n msg = some kind →
    ucanReads kind msg ≤ rest ∧ ucanReads kind msg ≤ (u16At msg 0).toNat

/-- The loop ends, its handlers stay inside of the records, and nothing depends on what
    is behind the buffer. -/
structure DecodedInside (n : Nat) (mem : Nat → U8) (msgLen : Nat) : Prop where
  ends : ∀ env (usbIf : UsbInterface n) fuel, msgLen < fuel →
    ucanLoop env mem msgLen fuel 0 0 usbIf = ucanHandleMsgsBuffer env usbIf mem msgLen
  inside : ∀ env (usbIf : UsbInterface n) mem', Agree msgLen mem mem' →
    ∀ ptr ∈ ucanVisited env usbIf mem' msgLen,
      ReadsInside n (fun k => mem' (ptr + k)) (msgLen - ptr)
  same : ∀ env (usbIf : UsbInterface n) mem', Agree msgLen mem mem' →
    (ucanHandleMsgsBuffer env usbIf mem' msgLen).usbIf =
      (ucanHandleMsgsBuffer env usbIf mem msgLen).usbIf

/-- A record that the last `rest` bytes of the buffer say enough about: its size, then
    its type unless the size is 0, and for a type with a handler the channel and all
    that the handler reads. No type with a handler starts with a byte above 4. -/
def RecordTold (n : Nat) (msg : Nat → U8) (rest : Nat) : Prop :=
  2 ≤ rest ∧
    (u16At msg 0 = 0 ∨ (rest = 3 ∧ 4 < (msg 2).toNat) ∨
      (4 ≤ rest ∧ ∀ kind, pcanUsbfdUcanHandlers (u16At msg 2) = some kind →
        ucanChannelAt kind < rest ∧ ReadsInside n msg rest))

/-- All records that stepping through the buffer by the size fields comes to. -/
def RecordsTold (n : Nat) (mem : Nat → U8) (msgLen : Nat) : Prop :=
  ∀ ptr ∈ ucanOffsets mem msgLen (msgLen + 1) 0,
    RecordTold n (fun k => mem (ptr + k)) (msgLen - ptr)

end Statement

section Congruence
variable {msg msg' : Nat → U8} {count : Nat}

theorem u16At_congr (same : Agree count msg msg') {offset : Nat} (inside : offset + 2 ≤ count) :
    u16At msg' offset = u16At msg offset := by
  unfold u16At
  rw [same offset (by omega), same (offset + 1) (by omega)]

theorem u32At_congr (same : Agree count msg msg') {offset : Nat} (inside : offset + 4 ≤ count) :
    u32At msg' offset = u32At msg offset := by
  unfold u32At
  rw [u16At_congr same (by omega), u16At_congr same (by omega)]

theorem ucanReads_bounds (kind : UcanMsg) (msg : Nat → U8) :
    13 ≤ ucanReads kind msg ∧ ucanChannelAt kind < ucanReads kind msg := by
  cases kind with
  | canRx =>
    unfold ucanReads ucanChannelAt
    simp only
    split <;> omega
  | error | status | busLoad | calibration | overrun => simp [ucanReads, ucanChannelAt]

theorem ucanRxFrame_data (msg : Nat → U8) :
    (ucanRxFrame msg).msg.data = Vector.ofFn fun j : Fin 64 =>
      if u16At msg 22 &&& ucanMsgRtr = 0 ∧ j.val < ucanDataLen msg then msg (28 + j) else 0 := by
  apply Vector.ext
  intro j inside
  simp only [ucanRxFrame, Vector.getElem_ofFn, ucanDataLen, Bool.and_eq_true, Bool.not_eq_true',
    decide_eq_false_iff_not, not_not, decide_eq_true_eq]
  exact if_congr Iff.rfl rfl rfl

theorem ucanRxFrame_congr (same : Agree (ucanReads .canRx msg) msg msg') :
    ucanRxFrame msg' = ucanRxFrame msg := by
  have bound : 28 ≤ ucanReads .canRx msg := by
    unfold ucanReads
    simp only
    split <;> omega
  have dlc : msg' 20 = msg 20 := same 20 (by omega)
  have flags : u16At msg' 22 = u16At msg 22 := u16At_congr same (by omega)
  have id : u32At msg' 24 = u32At msg 24 := u32At_congr same (by omega)
  have length : ucanDataLen msg' = ucanDataLen msg := by
    unfold ucanDataLen
    rw [dlc, flags]
  have data : (ucanRxFrame msg').msg.data = (ucanRxFrame msg).msg.data := by
    rw [ucanRxFrame_data, ucanRxFrame_data, flags, length]
    congr 1
    funext j
    split
    next copied =>
      apply same
      unfold ucanReads
      simp only
      rw [if_neg (not_not.mpr copied.1)]
      omega
    next => rfl
  have rest : ∀ m : Nat → U8, ucanRxFrame m = { ucanRxFrame m with
      msg := { (ucanRxFrame m).msg with data := (ucanRxFrame m).msg.data } } := fun _ => rfl
  rw [rest msg', rest msg, data]
  simp only [ucanRxFrame, dlc, flags, id]

theorem ucanDispatch_congr (env : DecodeEnv) (usbIf : UsbInterface n) {kind : UcanMsg}
    (same : Agree (ucanReads kind msg) msg msg') :
    ucanDispatch env usbIf kind msg' = ucanDispatch env usbIf kind msg := by
  have bounds := ucanReads_bounds kind msg
  have time : u32At msg' 4 = u32At msg 4 := u32At_congr same (by omega)
  have channel : ucanMsgChannel kind msg' = ucanMsgChannel kind msg := by
    have byte := same (ucanChannelAt kind) bounds.2
    cases kind <;> simp only [ucanChannelAt] at byte <;> simp only [ucanMsgChannel, byte]
  have decoded : ∀ c, pcanUsbfdDecode env usbIf.time kind msg' c =
      pcanUsbfdDecode env usbIf.time kind msg c := by
    intro c
    unfold pcanUsbfdDecode
    simp only [time]
    cases kind with
    | canRx => simp only [ucanPostCanrxMsg, ucanRxFrame_congr same]
    | error =>
      have bytes : Agree 16 msg msg' := same
      simp only [ucanPostErrorMsg, bytes 12 (by decide), bytes 13 (by decide),
        bytes 14 (by decide), bytes 15 (by decide)]
    | busLoad =>
      have load : u16At msg' 14 = u16At msg 14 := u16At_congr same (Nat.le_refl 16)
      simp only [ucanPostBusLoadMsg, load]
    | overrun | calibration => rfl
    | status =>
      have bytes : Agree 13 msg msg' := same
      simp only [pcanUsbfdDecodeStatus, bytes 12 (by decide)]
  unfold ucanDispatch
  by_cases calibration : kind = .calibration
  · subst calibration
    have index : u16At msg' 12 = u16At msg 12 := u16At_congr same (Nat.le_refl 14)
    rw [if_pos rfl, if_pos rfl, time, index]
  · simp only [if_neg calibration, channel, decoded]

end Congruence

section Record
variable {msg msg' : Nat → U8} {rest : Nat}

theorem u16At_toNat (msg : Nat → U8) (offset : Nat) :
    (u16At msg offset).toNat = (msg (offset + 1)).toNat * 256 + (msg offset).toNat := by
  unfold u16At
  rw [Masks.toNat_append]
  rfl

theorem handlers_type {type : U16} {kind : UcanMsg}
    (handled : pcanUsbfdUcanHandlers type = some kind) :
    (1 ≤ type.toNat ∧ type.toNat ≤ 4) ∨ type.toNat = 256 ∨ type.toNat = 257 := by
  unfold pcanUsbfdUcanHandlers at handled
  repeat'
    split at handled
    next found => rw [found]; decide
  cases handled

/-- What `ucan_handle_msg` does with a message that has no handler. -/
theorem ucanHandleMsg_unhandled (usbIf : UsbInterface n) (env : DecodeEnv)
    (none_ : pcanUsbfdUcanHandlers (u16At msg 2) = none) (known : u16At msg 2 ≠ 0) :
    (ucanHandleMsg usbIf (env, msg)).1 = usbIf ∧ (ucanHandleMsg usbIf (env, msg)).2 ≤ 0 := by
  unfold ucanHandleMsg
  simp only [none_]
  split
  next empty =>
    rcases empty with empty | null
    · exact ⟨rfl, by simp [empty]⟩
    · exact absurd null known
  next =>
    split
    · exact ⟨rfl, Int.le_refl 0⟩
    · exact ⟨rfl, (by decide : -ebadmsg ≤ 0)⟩

theorem ucanNext_unhandled (none_ : pcanUsbfdUcanHandlers (u16At msg 2) = none)
    (known : u16At msg 2 ≠ 0) : ucanNext msg = none := by
  unfold ucanNext
  simp only [none_, if_neg known, Option.map_none, ite_self]

theorem ucanHandleMsg_handled (usbIf : UsbInterface n) (env : DecodeEnv) {kind : UcanMsg}
    (handled : pcanUsbfdUcanHandlers (u16At msg 2) = some kind) (size : u16At msg 0 ≠ 0) :
    ucanHandleMsg usbIf (env, msg) = ((ucanDispatch env usbIf kind msg).1,
      if (ucanDispatch env usbIf kind msg).2 < 0 then (ucanDispatch env usbIf kind msg).2
      else (u16At msg 0).toNat) := by
  have type := handlers_type handled
  have known : ∀ c : U16, c.toNat = 0 ∨ 258 ≤ c.toNat → u16At msg 2 ≠ c := by
    intro c other same
    rw [same] at type
    omega
  unfold ucanHandleMsg
  simp only [handled]
  rw [if_neg (not_or.mpr ⟨size, known 0 (by decide)⟩),
    if_neg (not_or.mpr ⟨known ucanCmdEndOfCollection (by decide), known 0xffff (by decide)⟩)]

theorem ucanCalls_some {kind : UcanMsg} (calls : ucanCalls n msg = some kind) :
    u16At msg 0 ≠ 0 ∧ pcanUsbfdUcanHandlers (u16At msg 2) = some kind ∧
      (kind = .calibration ∨ ucanMsgChannel kind msg < n + 1) := by
  unfold ucanCalls at calls
  split at calls
  next => cases calls
  next size =>
    obtain ⟨handled, channel⟩ := Option.filter_eq_some_iff.mp calls
    exact ⟨size, handled, of_decide_eq_true channel⟩

theorem ucanCalls_of {kind : UcanMsg} (size : u16At msg 0 ≠ 0)
    (handled : pcanUsbfdUcanHandlers (u16At msg 2) = some kind)
    (channel : kind = .calibration ∨ ucanMsgChannel kind msg < n + 1) :
    ucanCalls n msg = some kind := by
  unfold ucanCalls
  rw [if_neg size]
  exact Option.filter_eq_some_iff.mpr ⟨handled, decide_eq_true channel⟩

/-- Whatever is behind the buffer, a record that the buffer says enough about is handled
    in the same way. -/
structure SameRecord (n : Nat) (msg msg' : Nat → U8) (rest : Nat) : Prop where
  next : ucanNext msg' = ucanNext msg
  inside : ReadsInside n msg' rest
  interface : ∀ env (usbIf : UsbInterface n),
    (ucanHandleMsg usbIf (env, msg')).1 = (ucanHandleMsg usbIf (env, msg)).1
  result : ∀ env (usbIf : UsbInterface n),
    (ucanHandleMsg usbIf (env, msg')).2 = (ucanHandleMsg usbIf (env, msg)).2 ∨
      ((ucanHandleMsg usbIf (env, msg')).2 ≤ 0 ∧ (ucanHandleMsg usbIf (env, msg)).2 ≤ 0)

theorem SameRecord.of_empty (size : u16At msg 0 = 0) (size' : u16At msg' 0 = 0) :
    SameRecord n msg msg' rest := by
  have empty : ∀ {m : Nat → U8}, u16At m 0 = 0 → ∀ env (usbIf : UsbInterface n),
      ucanHandleMsg usbIf (env, m) = (usbIf, 0) := by
    intro m zero env usbIf
    unfold ucanHandleMsg
    simp only
    rw [if_pos (.inl zero), zero]
    rfl
  constructor
  case next => simp only [ucanNext, if_pos size, if_pos size']
  case inside =>
    intro kind calls
    exact absurd size' (ucanCalls_some calls).1
  case interface =>
    intro env usbIf
    rw [empty size, empty size']
  case result =>
    intro env usbIf
    rw [empty size, empty size']
    exact .inl rfl

theorem SameRecord.of_unhandled (none_ : pcanUsbfdUcanHandlers (u16At msg 2) = none)
    (known : u16At msg 2 ≠ 0) (none' : pcanUsbfdUcanHandlers (u16At msg' 2) = none)
    (known' : u16At msg' 2 ≠ 0) : SameRecord n msg msg' rest := by
  constructor
  case next => rw [ucanNext_unhandled none_ known, ucanNext_unhandled none' known']
  case inside =>
    intro kind calls
    rw [(ucanCalls_some calls).2.1] at none'
    cases none'
  case interface =>
    intro env usbIf
    rw [(ucanHandleMsg_unhandled usbIf env none_ known).1,
      (ucanHandleMsg_unhandled usbIf env none' known').1]
  case result =>
    intro env usbIf
    exact .inr ⟨(ucanHandleMsg_unhandled usbIf env none' known').2,
      (ucanHandleMsg_unhandled usbIf env none_ known).2⟩

theorem SameRecord.of_header (size' : u16At msg' 0 = u16At msg 0)
    (type' : u16At msg' 2 = u16At msg 2) (none_ : pcanUsbfdUcanHandlers (u16At msg 2) = none) :
    SameRecord n msg msg' rest := by
  have equal : ∀ env (usbIf : UsbInterface n),
      ucanHandleMsg usbIf (env, msg') = ucanHandleMsg usbIf (env, msg) := by
    intro env usbIf
    unfold ucanHandleMsg
    simp only [size', type', none_]
  constructor
  case next => simp only [ucanNext, size', type']
  case inside =>
    intro kind calls
    rw [← type', (ucanCalls_some calls).2.1] at none_
    cases none_
  case interface =>
    intro env usbIf
    rw [equal]
  case result =>
    intro env usbIf
    rw [equal]
    exact .inl rfl

theorem unhandled_of_low (large : 4 < (msg 2).toNat) :
    pcanUsbfdUcanHandlers (u16At msg 2) = none ∧ u16At msg 2 ≠ 0 := by
  have value := u16At_toNat msg 2
  have low := (msg 2).isLt
  constructor
  · cases handled : pcanUsbfdUcanHandlers (u16At msg 2) with
    | none => rfl
    | some kind =>
      have type := handlers_type handled
      omega
  · intro null
    rw [null] at value
    have : (0 : U16).toNat = 0 := rfl
    omega

theorem SameRecord.of_handled {kind : UcanMsg} (same : Agree rest msg msg') (header : 4 ≤ rest)
    (handled : pcanUsbfdUcanHandlers (u16At msg 2) = some kind) (size : u16At msg 0 ≠ 0)
    (channel : ucanChannelAt kind < rest) (inside : ReadsInside n msg rest) :
    SameRecord n msg msg' rest := by
  have size' : u16At msg' 0 = u16At msg 0 := u16At_congr same (by omega)
  have type' : u16At msg' 2 = u16At msg 2 := u16At_congr same (by omega)
  have channel' : ucanMsgChannel kind msg' = ucanMsgChannel kind msg := by
    have byte := same (ucanChannelAt kind) channel
    cases kind <;> simp only [ucanChannelAt] at byte <;> simp only [ucanMsgChannel, byte]
  have handled' : pcanUsbfdUcanHandlers (u16At msg' 2) = some kind := by rw [type', handled]
  have dispatched : ∀ env (usbIf : UsbInterface n),
      ucanDispatch env usbIf kind msg' = ucanDispatch env usbIf kind msg := by
    intro env usbIf
    by_cases called : kind = .calibration ∨ ucanMsgChannel kind msg < n + 1
    · have bound := (inside kind (ucanCalls_of size handled called)).1
      exact ucanDispatch_congr env usbIf fun k less => same k (by omega)
    · obtain ⟨carried, missing⟩ := not_or.mp called
      unfold ucanDispatch
      rw [if_neg carried, if_neg carried, dif_neg missing, dif_neg (channel' ▸ missing)]
  have equal : ∀ env (usbIf : UsbInterface n),
      ucanHandleMsg usbIf (env, msg') = ucanHandleMsg usbIf (env, msg) := by
    intro env usbIf
    rw [ucanHandleMsg_handled usbIf env handled size,
      ucanHandleMsg_handled usbIf env handled' (size' ▸ size), dispatched, size']
  constructor
  case next => simp only [ucanNext, size', type']
  case inside =>
    intro found calls
    obtain ⟨_, known, called⟩ := ucanCalls_some calls
    obtain rfl : found = kind := Option.some.inj (known.symm.trans handled')
    rw [channel'] at called
    have bounds := inside found (ucanCalls_of size handled called)
    have reads : ucanReads found msg' = ucanReads found msg := by
      cases found with
      | canRx =>
        have bound : 28 ≤ ucanReads .canRx msg := by
          unfold ucanReads
          simp only
          split <;> omega
        have flags : u16At msg' 22 = u16At msg 22 := u16At_congr same (by omega)
        simp only [ucanReads, ucanDataLen, flags, same 20 (by omega)]
      | error | status | busLoad | calibration | overrun => rfl
    rw [reads, size']
    exact bounds
  case interface =>
    intro env usbIf
    rw [equal]
  case result =>
    intro env usbIf
    rw [equal]
    exact .inl rfl

theorem RecordTold.sameRecord (told : RecordTold n msg rest) (same : Agree rest msg msg') :
    SameRecord n msg msg' rest := by
  obtain ⟨two, empty | ⟨three, large⟩ | ⟨header, records⟩⟩ := told
  · exact .of_empty empty ((u16At_congr same (by omega)).trans empty)
  · have large' : 4 < (msg' 2).toNat := by
      rw [same 2 (by omega)]
      exact large
    exact .of_unhandled (unhandled_of_low large).1 (unhandled_of_low large).2
      (unhandled_of_low large').1 (unhandled_of_low large').2
  · have size' : u16At msg' 0 = u16At msg 0 := u16At_congr same (by omega)
    have type' : u16At msg' 2 = u16At msg 2 := u16At_congr same (by omega)
    cases handled : pcanUsbfdUcanHandlers (u16At msg 2) with
    | none => exact .of_header size' type' handled
    | some kind =>
      by_cases size : u16At msg 0 = 0
      · exact .of_empty size (size'.trans size)
      · exact .of_handled same header handled size (records kind handled).1
          (records kind handled).2

end Record

section Loop
variable {mem mem' : Nat → U8} {msgLen : Nat}

theorem Agree.shift (same : Agree msgLen mem mem') (ptr : Nat) :
    Agree (msgLen - ptr) (fun k => mem (ptr + k)) fun k => mem' (ptr + k) := by
  intro k less
  exact same (ptr + k) (by omega)

theorem size_pos {msg : Nat → U8} (size : u16At msg 0 ≠ 0) : 0 < (u16At msg 0).toNat :=
  Nat.pos_of_ne_zero fun zero => size (BitVec.eq_of_toNat_eq zero)

theorem ucanLoop_fuel (env : Nat → DecodeEnv) (fuel more i ptr : Nat) (usbIf : UsbInterface n)
    (positive : 0 < fuel) (enough : msgLen < ptr + fuel) :
    ucanLoop env mem msgLen (fuel + more) i ptr usbIf = ucanLoop env mem msgLen fuel i ptr usbIf := by
  induction fuel generalizing i ptr usbIf with
  | zero => omega
  | succ fuel ih =>
    rw [Nat.add_right_comm, ucanLoop, ucanLoop]
    split
    · simp only
      split
      · rfl
      next goes =>
        have moved : 0 < align4 (ucanHandleMsg usbIf (env i, fun k => mem (ptr + k))).2.toNat := by
          unfold align4
          omega
        rw [ih _ _ _ (by omega) (by omega)]
    · rfl

theorem told_offsets (fuel ptr : Nat) (same : Agree msgLen mem mem')
    (told : ∀ at_ ∈ ucanOffsets mem msgLen fuel ptr,
      RecordTold n (fun k => mem (at_ + k)) (msgLen - at_)) :
    ucanOffsets mem' msgLen fuel ptr = ucanOffsets mem msgLen fuel ptr := by
  induction fuel generalizing ptr with
  | zero => rfl
  | succ fuel ih =>
    unfold ucanOffsets at told ⊢
    split at told
    next inside =>
      have here := (told ptr List.mem_cons_self).sameRecord (same.shift ptr)
      rw [if_pos inside, if_pos inside, here.next]
      congr 1
      cases next : ucanNext fun k => mem (ptr + k) with
      | none => rfl
      | some size =>
        rw [next] at told
        exact ih _ fun at_ member => told at_ (List.mem_cons_of_mem _ member)
    next outside => rw [if_neg outside, if_neg outside]

theorem told_loop (env : Nat → DecodeEnv) (fuel i ptr : Nat) (usbIf : UsbInterface n)
    (same : Agree msgLen mem mem')
    (told : ∀ at_ ∈ ucanOffsets mem msgLen fuel ptr,
      RecordTold n (fun k => mem (at_ + k)) (msgLen - at_)) :
    (ucanLoop env mem' msgLen fuel i ptr usbIf).usbIf =
      (ucanLoop env mem msgLen fuel i ptr usbIf).usbIf := by
  induction fuel generalizing i ptr usbIf with
  | zero => rfl
  | succ fuel ih =>
    unfold ucanOffsets at told
    unfold ucanLoop
    split at told
    next inside =>
      have here := (told ptr List.mem_cons_self).sameRecord (same.shift ptr)
      have interface := here.interface (env i) usbIf
      rw [if_pos inside, if_pos inside]
      simp only
      rcases here.result (env i) usbIf with result | ⟨stops', stops⟩
      · rw [result, interface]
        split
        next => rfl
        next goes =>
          have next := ucanHandleMsg_next usbIf _ goes
          simp only at next
          rw [next] at told
          exact ih _ _ _ fun at_ member => told at_ (List.mem_cons_of_mem _ member)
      · rw [if_pos stops', if_pos stops]
        exact interface
    next outside => rw [if_neg outside, if_neg outside]

theorem ucanHandleMsg_closed {usbIf : UsbInterface n} (closed : usbIf.Closed) {env : DecodeEnv}
    (counting : 0 ≤ env.frameNumber) (msg : Nat → U8) :
    (ucanHandleMsg usbIf (env, msg)).1.Closed ∧
      ((ucanHandleMsg usbIf (env, msg)).2 ≤ 0 → ucanNext msg = none) := by
  by_cases size : u16At msg 0 = 0
  · unfold ucanHandleMsg ucanNext
    simp only [if_pos size, if_pos (Or.inl size), implies_true, and_true]
    exact closed
  by_cases null : u16At msg 2 = 0
  · unfold ucanHandleMsg
    simp only [if_pos (Or.inr null)]
    exact ⟨closed, fun zero => absurd (size_pos size) (by omega)⟩
  cases handled : pcanUsbfdUcanHandlers (u16At msg 2) with
  | none =>
    rw [(ucanHandleMsg_unhandled usbIf env handled null).1]
    exact ⟨closed, fun _ => ucanNext_unhandled handled null⟩
  | some kind =>
    obtain ⟨after, result⟩ := closed.ucanDispatch counting kind msg
    rw [ucanHandleMsg_handled usbIf env handled size]
    simp only [if_neg (Int.not_lt.mpr result)]
    exact ⟨after, fun zero => absurd (size_pos size) (by omega)⟩

theorem ucanLoop_closed {env : Nat → DecodeEnv} (counting : ∀ i, 0 ≤ (env i).frameNumber)
    (fuel i ptr : Nat) {usbIf : UsbInterface n} (closed : usbIf.Closed) :
    (ucanLoop env mem msgLen fuel i ptr usbIf).handled.length =
      (ucanOffsets mem msgLen fuel ptr).length := by
  induction fuel generalizing i ptr usbIf with
  | zero => rfl
  | succ fuel ih =>
    obtain ⟨after, stops⟩ := ucanHandleMsg_closed closed (counting i) fun k => mem (ptr + k)
    unfold ucanLoop ucanOffsets
    split
    · simp only
      split
      next ended => rw [stops ended]; rfl
      next goes =>
        have next := ucanHandleMsg_next usbIf _ goes
        simp only at next
        rw [next]
        simp only [List.length_cons, ih (i + 1) _ after]
    · rfl

end Loop

section Converse
variable {msg : Nat → U8} {rest : Nat}

theorem handlers_of_type {type : U16}
    (known : (1 ≤ type.toNat ∧ type.toNat ≤ 4) ∨ type.toNat = 256) :
    ∃ kind, pcanUsbfdUcanHandlers type = some kind := by
  have cases : type = ucanMsgCanRx ∨ type = ucanMsgError ∨ type = ucanMsgStatus ∨
      type = ucanMsgBusload ∨ type = ucanUsbMsgCalibration := by
    have value : type = BitVec.ofNat 16 type.toNat := by simp
    have small : type.toNat = 1 ∨ type.toNat = 2 ∨ type.toNat = 3 ∨ type.toNat = 4 ∨
        type.toNat = 256 := by omega
    rcases small with code | code | code | code | code <;> rw [code] at value <;> rw [value] <;>
      decide
  rcases cases with rfl | rfl | rfl | rfl | rfl
  all_goals exact ⟨_, rfl⟩

/-- The bytes of the buffer, then those of a message for channel 0. -/
def continued (msg : Nat → U8) (rest : Nat) (typeHigh : U8) : Nat → U8 := fun k =>
  if k < rest then msg k else if k = 1 ∨ k = 2 then 1 else if k = 3 then typeHigh else 0

theorem continued_agree (msg : Nat → U8) (rest : Nat) (typeHigh : U8) :
    Agree rest msg (continued msg rest typeHigh) := by
  intro k less
  rw [continued, if_pos less]

/-- A handler that is called for a record of which not even the channel is a part of the
    buffer reads behind the buffer. -/
theorem cut_record_read {kind : UcanMsg} (typeHigh : U8)
    (reads : ∀ msg', Agree rest msg msg' → ReadsInside n msg' rest)
    (size : u16At (continued msg rest typeHigh) 0 ≠ 0)
    (handled : pcanUsbfdUcanHandlers (u16At (continued msg rest typeHigh) 2) = some kind)
    (cut : rest ≤ ucanChannelAt kind) : False := by
  have zero : continued msg rest typeHigh (ucanChannelAt kind) = 0 := by
    have behind : 4 ≤ ucanChannelAt kind := by cases kind <;> decide
    rw [continued, if_neg (by omega), if_neg (by omega), if_neg (by omega)]
  have channel : ucanMsgChannel kind (continued msg rest typeHigh) = 0 := by
    cases kind <;> simp only [ucanChannelAt] at zero <;> simp only [ucanMsgChannel, zero] <;> rfl
  have bounds := ucanReads_bounds kind (continued msg rest typeHigh)
  have inside := (reads _ (continued_agree msg rest typeHigh) kind
    (ucanCalls_of size handled (.inr (by omega)))).1
  omega

theorem cut_header_read (reads : ∀ msg', Agree rest msg msg' → ReadsInside n msg' rest)
    (size : ∀ typeHigh, u16At (continued msg rest typeHigh) 0 ≠ 0) (short : rest ≤ 3)
    (low : (continued msg rest 0 2).toNat ≤ 4) : False := by
  let typeHigh : U8 := if continued msg rest 0 2 = 0 then 1 else 0
  have first : continued msg rest typeHigh 2 = continued msg rest 0 2 := by simp [continued]
  have second : continued msg rest typeHigh 3 = typeHigh := by
    rw [continued, if_neg (by omega), if_neg (by omega), if_pos rfl]
  have type := u16At_toNat (continued msg rest typeHigh) 2
  rw [first, second] at type
  have known : (1 ≤ (u16At (continued msg rest typeHigh) 2).toNat ∧
      (u16At (continued msg rest typeHigh) 2).toNat ≤ 4) ∨
      (u16At (continued msg rest typeHigh) 2).toNat = 256 := by
    by_cases zero : continued msg rest 0 2 = 0
    · have high : typeHigh.toNat = 1 := by simp only [typeHigh, if_pos zero]; rfl
      have nothing : (continued msg rest 0 2).toNat = 0 := by rw [zero]; rfl
      omega
    · have high : typeHigh.toNat = 0 := by simp only [typeHigh, if_neg zero]; rfl
      have something : (continued msg rest 0 2).toNat ≠ 0 :=
        fun nothing => zero (BitVec.eq_of_toNat_eq nothing)
      omega
  obtain ⟨kind, handled⟩ := handlers_of_type known
  have behind : 4 ≤ ucanChannelAt kind := by cases kind <;> decide
  exact cut_record_read typeHigh reads (size typeHigh) handled (by omega)

theorem told_of_reads (positive : 0 < rest)
    (reads : ∀ msg', Agree rest msg msg' → ReadsInside n msg' rest) : RecordTold n msg rest := by
  by_cases two : 2 ≤ rest
  · refine ⟨two, or_iff_not_imp_left.mpr fun size => ?_⟩
    have size' : ∀ typeHigh, u16At (continued msg rest typeHigh) 0 ≠ 0 := by
      intro typeHigh
      rw [u16At_congr (continued_agree msg rest typeHigh) (by omega)]
      exact size
    by_cases header : 4 ≤ rest
    · refine .inr ⟨header, fun kind handled => ⟨?_, reads msg fun _ _ => rfl⟩⟩
      by_contra cut
      have handled' : pcanUsbfdUcanHandlers (u16At (continued msg rest 0) 2) = some kind := by
        rw [u16At_congr (continued_agree msg rest 0) (by omega)]
        exact handled
      exact cut_record_read 0 reads (size' 0) handled' (by omega)
    · refine .inl (by_contra fun small => cut_header_read reads size' (by omega) ?_)
      by_cases three : rest = 3
      · rw [continued, if_pos (by omega)]
        omega
      · rw [continued, if_neg (by omega)]
        decide
  · exfalso
    refine cut_header_read reads ?_ (by omega) ?_
    · intro typeHigh zero
      have value := u16At_toNat (continued msg rest typeHigh) 0
      have byte : continued msg rest typeHigh 1 = 1 := by
        rw [continued, if_neg (by omega), if_pos (.inl rfl)]
      have one : (1 : U8).toNat = 1 := rfl
      have null : (0 : U16).toNat = 0 := rfl
      rw [zero, Nat.zero_add, byte] at value
      omega
    · rw [continued, if_neg (by omega)]
      decide

variable {mem : Nat → U8} {msgLen : Nat}

/-- The memory that has the bytes of `msg'` from `ptr` on. -/
theorem Agree.extend {ptr : Nat} {msg' : Nat → U8}
    (same : Agree (msgLen - ptr) (fun k => mem (ptr + k)) msg') :
    Agree msgLen mem fun a => if a < ptr then mem a else msg' (a - ptr) := by
  intro a less
  simp only
  split
  next => rfl
  next behind =>
    have byte : msg' (a - ptr) = mem (ptr + (a - ptr)) := same (a - ptr) (by omega)
    rw [byte, Nat.add_sub_cancel' (by omega)]

theorem offsets_told (fuel ptr : Nat)
    (reads : ∀ mem', Agree msgLen mem mem' → ∀ at_ ∈ ucanOffsets mem' msgLen fuel ptr,
      ReadsInside n (fun k => mem' (at_ + k)) (msgLen - at_)) :
    ∀ at_ ∈ ucanOffsets mem msgLen fuel ptr,
      RecordTold n (fun k => mem (at_ + k)) (msgLen - at_) := by
  induction fuel generalizing ptr with
  | zero =>
    intro at_ member
    cases member
  | succ fuel ih =>
    unfold ucanOffsets at reads ⊢
    split
    next inside =>
      simp only [if_pos inside] at reads
      have here : RecordTold n (fun k => mem (ptr + k)) (msgLen - ptr) := by
        apply told_of_reads (by omega)
        intro msg' same
        have whole := reads _ same.extend ptr List.mem_cons_self
        simpa using whole
      intro at_ member
      rcases List.mem_cons.mp member with rfl | later
      · exact here
      · cases next : ucanNext fun k => mem (ptr + k) with
        | none => rw [next] at later; cases later
        | some size =>
          rw [next] at later
          refine ih _ (fun mem' same at_ member => ?_) at_ later
          have step := (here.sameRecord (same.shift ptr)).next
          rw [next] at step
          exact reads mem' same at_ (List.mem_cons_of_mem _ (by rw [step]; exact member))
    next =>
      intro at_ member
      cases member

end Converse

section Buffers

/-- The code stays inside of the buffer exactly if each of its records says enough
    before it ends. -/
theorem decoded_inside_iff (n : Nat) (mem : Nat → U8) (msgLen : Nat) :
    DecodedInside n mem msgLen ↔ RecordsTold n mem msgLen := by
  constructor
  · intro decoded
    apply offsets_told
    intro mem' same at_ member
    apply decoded.inside (fun _ => sampleEnv) (closedInterface n 0) mem' same
    have all := @ucanLoop_closed n mem' msgLen (fun _ => sampleEnv) (fun _ => Int.le_refl 0)
      (msgLen + 1) 0 0 (closedInterface n 0) fun _ => Int.le_refl 0
    unfold ucanVisited ucanHandleMsgsBuffer
    rw [all, List.take_length]
    exact member
  · intro told
    constructor
    case ends =>
      intro env usbIf fuel enough
      obtain ⟨more, rfl⟩ := Nat.exists_eq_add_of_le (show msgLen + 1 ≤ fuel from enough)
      exact ucanLoop_fuel env (msgLen + 1) more 0 0 usbIf (by omega) (by omega)
    case inside =>
      intro env usbIf mem' same at_ member
      have visited := List.mem_of_mem_take member
      rw [told_offsets _ _ same told] at visited
      exact ((told at_ visited).sameRecord (same.shift at_)).inside
    case same =>
      intro env usbIf mem' same
      exact told_loop env _ _ _ usbIf same told

/-- A CAN_RX record that has been cut behind its type is handled: the frame posted is
    made of whatever follows the four bytes in memory. -/
theorem cut_record_posts_stale_frame :
    let bytes : List U8 := [28, 0, 1, 0]
    let behind := fun (id : U8) (k : Nat) => if k = 24 then id else bytes.getD k 0
    let posts := fun (mem : Nat → U8) =>
      ((ucanHandleMsgsBuffer (fun _ => sampleEnv) sampleInterface mem 4).usbIf.devs
        0).dev.readFifo.items.map (·.msg.id)
    ¬DecodedInside 1 (behind 0x23) 4 ∧ posts (behind 0x23) = [0x23] ∧ posts (behind 0x24) = [0x24] := by
  intro bytes behind posts
  refine ⟨?_, by decide +kernel, by decide +kernel⟩
  intro decoded
  have reads := decoded.inside (fun _ => sampleEnv) sampleInterface (behind 0x23) (fun _ _ => rfl) 0
    (by decide +kernel) .canRx (by decide +kernel)
  exact absurd reads.1 (by decide +kernel)

end Buffers

end PcanDriver

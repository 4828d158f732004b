import PcanDriver.UcanBuffer
import PcanDriver.UsbproCommands
import PcanDriver.UsbproStream

/-!
Requests to a USB-Pro device and its answers (`pcan_usbpro.c`): `pcan_usbpro_read_rec` looks for
a record in message after message until the time is over, in one buffer that keeps what was
received before, and leaves the request as it is when it finds none.
-/
namespace PcanDriver

section Source

/-- What a submission of a command comes to; a URB that is late is killed. -/
inductive SendTry where
  | refused (err : Int)
  | done (status : Int)
  | late (status : Int)
deriving Repr, DecidableEq

/-- `pcan_usbpro_cmd_send_ex` with `PCAN_USBPRO_SEND_SYNC_MODE`, `i` tries having been late. -/
def pcanUsbproCmdSendTries : Nat → List SendTry → Option Int
  | _, [] => none
  | _, .refused err :: _ => some err
  | _, .done status :: _ => some status
  | i, .late status :: rest =>
    if i + 1 < 3 then pcanUsbproCmdSendTries (i + 1) rest else some status

def pcanUsbproCmdSend (isPlugged : Bool) (tries : List SendTry) : Option Int :=
  if isPlugged then pcanUsbproCmdSendTries 0 tries else some (-enodev)

/-- What a submission of the URB for answers comes to. `status` is what the URB says in the end,
    `late` that the time is over when the bytes have been looked through. -/
inductive UrbOutcome where
  | refused (status : Int)
  | killed (status : Int)
  | completed (bytes : List U8) (status : Int) (late : Bool)
deriving Repr, DecidableEq

inductive RecSearch where
  | found (pc : Nat)
  | unable
  | missed
deriving Repr, DecidableEq

/-- `pr` is what `ps` asks for: any record, one of the type, or one of the type and the channel. -/
def answersRec (ps pr : Nat → U8) : Bool :=
  if ps 0 ≠ 0 then
    pr 0 = ps 0 ∧ (pr 0 = 0x03 ∨ pr 0 = 0x01 ∨ pr 0 = 0x12 → pr 1 = ps 1)
  else true

/-- The loop over the records of a message; it never looks at how many bytes there are. -/
def pcanUsbproFindRec (ps tmp : Nat → U8) : Nat → Nat → RecSearch
  | 0, _ => .missed
  | recCounter + 1, pc =>
    match pcanUsbproSizeofRec (tmp pc) with
    | none => .unable
    | some recSize =>
      if answersRec ps fun k => tmp (pc + k) then .found pc
      else pcanUsbproFindRec ps tmp recCounter (pc + recSize)

/-- The loop of `pcan_usbpro_read_rec`, which returns the status and what is in `pv` then. -/
def pcanUsbproReadLoop (pv : List U8) : (Nat → U8) → List UrbOutcome → Option (Int × List U8)
  | _, [] => none
  | _, .refused status :: _ => some (status, pv)
  | _, .killed status :: _ => some (status, pv)
  | tmp, .completed bytes status late :: rest =>
    let received := (⟨0, bytes⟩ : Store U8).apply tmp
    let recCounter := (u32At received 0 &&& 0xffff).toNat
    let found := if bytes = [] then .missed
      else pcanUsbproFindRec (pv.getD · 0) received recCounter 4
    match found with
    | .unable => some (-ebadmsg, pv)
    | .found pc => some (status, Store.read received pc pv.length)
    | .missed => if late then some (status, pv) else pcanUsbproReadLoop pv received rest

def pcanUsbproReadRec (pv : List U8) (tmp : Option (Nat → U8)) (outcomes : List UrbOutcome) :
    Option (Int × List U8) :=
  match tmp with
  | none => some (-enomem, pv)
  | some tmp => pcanUsbproReadLoop pv tmp outcomes

/-- `device_alt_num`, and `PCAN_DEV_USES_ALT_NUM` of the flags. -/
structure AltNumber where
  deviceAltNum : U32
  usesAltNum : Bool
deriving Repr, DecidableEq

def AltNumber.noted (dev : AltNumber) (number : U32) : AltNumber :=
  if number ≠ 0xffffffff then ⟨number, true⟩ else dev

structure DeviceNrResult where
  err : Int
  dev : AltNumber
  deviceNr : Option U32
deriving Repr, DecidableEq

/-- What the outside does while `pcan_usbpro_get_device_nr` runs, and the memory it finds. -/
structure DeviceNrEnv where
  isPlugged : Bool
  tries : List SendTry
  tmp : Option (Nat → U8)
  outcomes : List UrbOutcome
  cout : Nat → U8
  stack : VaList

/-- The number is taken from the place of the request, whether an answer is there or not. -/
def pcanUsbproGetDeviceNr (env : DeviceNrEnv) (nChannel : U32) (dev : AltNumber) :
    Option DeviceNrResult :=
  match pcanUsbproMsgInitEmpty env.cout 512 with
  | none => none
  | some ub =>
    let ub := addRecs ub (pcanUsbproGetDeviceNrRequest env.stack nChannel)
    match pcanUsbproCmdSend env.isPlugged env.tries with
    | none => none
    | some err =>
      if err ≠ 0 then some ⟨err, dev, none⟩
      else
        match pcanUsbproReadRec (Store.read ub.mem 4 8) env.tmp env.outcomes with
        | none => none
        | some (err, pdn) =>
          let tmp32 := u32At (pdn.getD · 0) 4
          some ⟨err, dev.noted tmp32, some tmp32⟩

end Source

section Statement

inductive Reply where
  | refused (status : Int)
  | killed (status : Int)
  | empty (status : Int) (late : Bool)
  | message (m : UsbproMsg) (status : Int) (late : Bool)

def Reply.outcome : Reply → UrbOutcome
  | .refused status => .refused status
  | .killed status => .killed status
  | .empty status late => .completed [] status late
  | .message m status late => .completed m.bytes status late

/-- The records that come before the time is over or a message cannot be read. -/
def heardRecs : List Reply → List UsbproRec
  | [] => []
  | .refused _ :: _ => []
  | .killed _ :: _ => []
  | .empty _ late :: rest => if late then [] else heardRecs rest
  | .message m _ late :: rest =>
    m.recs ++ if m.unsupported ≠ [] ∨ late then [] else heardRecs rest

/-- The status of the URB that brings the record or ends the search. A record of an unknown type
    ends it as well. -/
def replyStatus (wanted : UsbproRec → Bool) : List Reply → Option Int
  | [] => none
  | .refused status :: _ => some status
  | .killed status :: _ => some status
  | .empty status late :: rest => if late then some status else replyStatus wanted rest
  | .message m status late :: rest =>
    if m.recs.any wanted then some status
    else if m.unsupported ≠ [] then some (-ebadmsg)
    else if late then some status
    else replyStatus wanted rest

def isDeviceNrOf (nChannel : U32) (r : UsbproRec) : Bool :=
  r.bytes.getD 0 0 = 0x12 ∧ r.bytes.getD 1 0 = nChannel.setWidth 8

def UsbproRec.serialNum (r : UsbproRec) : U32 := u32At (r.bytes.getD · 0) 4

end Statement

section Search
variable {tmp : Nat → U8}

theorem byte_lies {mem : Nat → U8} {bs : List U8} {ptr k : Nat}
    (lies : Store.read mem ptr bs.length = bs) (inside : k < bs.length) :
    mem (ptr + k) = bs.getD k 0 := by
  have entry := Store.read_getElem? mem ptr bs.length k
  rw [lies, if_pos inside] at entry
  rw [List.getD_eq_getElem?_getD, entry, Option.getD_some]

theorem findRec_cons (ps : Nat → U8) (r : UsbproRec) {ptr : Nat}
    (lies : Store.read tmp ptr r.bytes.length = r.bytes) (count : Nat) :
    pcanUsbproFindRec ps tmp (count + 1) ptr =
      if answersRec ps (r.bytes.getD · 0) then .found ptr
      else pcanUsbproFindRec ps tmp count (ptr + r.bytes.length) := by
  have room := sizeofRec_min r.known
  have type : tmp (ptr + 0) = r.bytes.getD 0 0 := byte_lies lies (by omega)
  have channel : tmp (ptr + 1) = r.bytes.getD 1 0 := byte_lies lies (by omega)
  have known : pcanUsbproSizeofRec (tmp ptr) = some r.bytes.length := by
    rw [← Nat.add_zero ptr, type, ← List.headD_eq_getD]
    exact r.known
  have same : answersRec ps (fun k => tmp (ptr + k)) = answersRec ps (r.bytes.getD · 0) := by
    unfold answersRec
    simp only [type, channel]
  rw [pcanUsbproFindRec, known]
  dsimp only
  rw [same]

/-- The first record that answers is found; the search goes on behind records that do not. -/
theorem findRec_recs (ps : Nat → U8) (recs : List UsbproRec) {ptr : Nat}
    (lies : Store.read tmp ptr (recs.flatMap (·.bytes)).length = recs.flatMap (·.bytes))
    (count : Nat) :
    match recs.find? fun r => answersRec ps (r.bytes.getD · 0) with
    | some r => ∃ pc, pcanUsbproFindRec ps tmp (recs.length + count) ptr = .found pc ∧
        Store.read tmp pc r.bytes.length = r.bytes
    | none => pcanUsbproFindRec ps tmp (recs.length + count) ptr =
        pcanUsbproFindRec ps tmp count (ptr + (recs.flatMap (·.bytes)).length) := by
  induction recs generalizing ptr with
  | nil => rw [List.length_nil, Nat.zero_add]; rfl
  | cons r rest ih =>
    rw [List.flatMap_cons, List.length_append, Store.read_add] at lies
    obtain ⟨first, later⟩ := List.append_inj lies (Store.read_length ..)
    have step := findRec_cons ps r first (rest.length + count)
    rw [List.find?_cons, List.length_cons, Nat.add_right_comm, step, List.flatMap_cons,
      List.length_append, ← Nat.add_assoc]
    cases answersRec ps (r.bytes.getD · 0) with
    | true => exact ⟨ptr, rfl, first⟩
    | false => exact ih later

end Search

section Messages
variable {tmp : Nat → U8}

theorem counter_low (high low : U16) : ((high ++ low : U32) &&& 0xffff).toNat = low.toNat := by
  have small := low.isLt
  rw [BitVec.toNat_and, BitVec.toNat_append, ← Nat.shiftLeft_add_eq_or_of_lt small]
  exact (Nat.and_two_pow_sub_one_eq_mod _ 16).trans (by omega)

theorem findRec_message (m : UsbproMsg) (ps : Nat → U8)
    (lies : Store.read tmp 0 m.bytes.length = m.bytes) :
    match m.recs.find? fun r => answersRec ps (r.bytes.getD · 0) with
    | some r => ∃ pc, pcanUsbproFindRec ps tmp (u32At tmp 0 &&& 0xffff).toNat 4 = .found pc ∧
        Store.read tmp pc r.bytes.length = r.bytes
    | none => pcanUsbproFindRec ps tmp (u32At tmp 0 &&& 0xffff).toNat 4 =
        if m.unsupported ≠ [] then .unable else .missed := by
  have counter : (u32At tmp 0 &&& 0xffff).toNat = m.recCounter.toNat := by
    have start : Store.read tmp 0 m.bytes.length = le16 m.recCounter ++
        (le16 m.unused ++ (m.recs.flatMap (·.bytes) ++ m.unsupported)) := by
      rw [lies, UsbproMsg.bytes, List.append_assoc]
    unfold u32At
    rw [counter_low, u16At_le16 start]
  have length : m.bytes.length = 4 +
      ((m.recs.flatMap (·.bytes)).length + m.unsupported.length) := by
    simp only [UsbproMsg.bytes, le16, List.length_append, List.length_cons, List.length_nil]
  rw [length, Store.read_add, Store.read_add, UsbproMsg.bytes] at lies
  obtain ⟨_, body⟩ := List.append_inj lies (Store.read_length ..)
  obtain ⟨records, tail⟩ := List.append_inj body (Store.read_length ..)
  have counted := m.counted
  have search := findRec_recs ps m.recs records (m.recCounter.toNat - m.recs.length)
  rw [Nat.add_sub_cancel' counted] at search
  rw [counter]
  cases found : m.recs.find? fun r => answersRec ps (r.bytes.getD · 0) with
  | some r =>
    rw [found] at search
    exact search
  | none =>
    rw [found] at search
    refine Eq.trans search ?_
    by_cases complete : m.unsupported = []
    · rw [m.complete.mp complete, Nat.sub_self, if_neg (not_not_intro complete)]
      rfl
    · have more : m.recCounter.toNat ≠ m.recs.length := fun same =>
        complete (m.complete.mpr same)
      obtain ⟨left, more⟩ := Nat.exists_eq_succ_of_ne_zero
        (show m.recCounter.toNat - m.recs.length ≠ 0 by omega)
      have type : tmp (0 + 4 + (m.recs.flatMap (·.bytes)).length + 0) = m.unsupported.getD 0 0 :=
        byte_lies tail (List.length_pos_iff.mpr complete)
      have unknown := m.unknown complete
      rw [List.headD_eq_getD, ← type, Nat.add_zero, Nat.zero_add] at unknown
      rw [if_pos complete, more, Nat.succ_eq_add_one, pcanUsbproFindRec, unknown]

end Messages

section Requests
variable {pv : List U8}

theorem answer_length {r : UsbproRec} (typed : pv.getD 0 0 ≠ 0)
    (sized : pcanUsbproSizeofRec (pv.getD 0 0) = some pv.length)
    (answer : answersRec (pv.getD · 0) (r.bytes.getD · 0) = true) : r.bytes.length = pv.length := by
  unfold answersRec at answer
  rw [if_pos typed] at answer
  obtain ⟨type, _⟩ := of_decide_eq_true answer
  have known := r.known
  dsimp only at type
  rw [List.headD_eq_getD, type, sized] at known
  exact (Option.some.inj known).symm

theorem readLoop_heard (typed : pv.getD 0 0 ≠ 0)
    (sized : pcanUsbproSizeofRec (pv.getD 0 0) = some pv.length) (replies : List Reply)
    (tmp : Nat → U8) :
    pcanUsbproReadLoop pv tmp (replies.map Reply.outcome) =
      (replyStatus (fun r => answersRec (pv.getD · 0) (r.bytes.getD · 0)) replies).map fun status =>
        (status, ((heardRecs replies).find? fun r =>
          answersRec (pv.getD · 0) (r.bytes.getD · 0)).elim pv (·.bytes)) := by
  induction replies generalizing tmp with
  | nil => rfl
  | cons reply rest ih =>
    cases reply with
    | refused status => rfl
    | killed status => rfl
    | empty status late =>
      cases late with
      | true => rfl
      | false => exact ih _
    | message m status late =>
      have lies : Store.read ((⟨0, m.bytes⟩ : Store U8).apply tmp) 0 m.bytes.length = m.bytes :=
        read_filled 0 m.bytes tmp
      have filled : m.bytes ≠ [] := by
        intro empty
        cases congrArg List.length empty
      have search := findRec_message m (pv.getD · 0) lies
      rw [List.map_cons, Reply.outcome, pcanUsbproReadLoop, replyStatus, heardRecs,
        List.find?_append, if_neg filled]
      cases found : m.recs.find? fun r => answersRec (pv.getD · 0) (r.bytes.getD · 0) with
      | some r =>
        rw [found] at search
        obtain ⟨pc, place, there⟩ := search
        have answer := List.find?_some found
        have any : m.recs.any (fun r => answersRec (pv.getD · 0) (r.bytes.getD · 0)) = true :=
          List.any_eq_true.mpr ⟨r, List.mem_of_find?_eq_some found, answer⟩
        rw [place, any, ← answer_length typed sized answer]
        dsimp only
        rw [there]
        rfl
      | none =>
        rw [found] at search
        have any : m.recs.any (fun r => answersRec (pv.getD · 0) (r.bytes.getD · 0)) = false :=
          List.any_eq_false.mpr (List.find?_eq_none.mp found)
        rw [search, any]
        by_cases complete : m.unsupported = []
        · cases late with
          | true => simp [complete]
          | false => simpa [complete] using ih _
        · simp [complete]

/-- The request in the buffer: behind the channel two bytes that nobody has written, and the word
    that has not been passed. -/
theorem deviceNr_request {cout : Nat → U8} {ub : PcanUsbproMsg}
    (init : pcanUsbproMsgInitEmpty cout 512 = some ub) (stack : VaList) (nChannel : U32) :
    Store.read (addRecs ub (pcanUsbproGetDeviceNrRequest stack nChannel)).mem 4 8 =
      [0x12, nChannel.setWidth 8, cout 6, cout 7] ++ le32 (stack.arg 1) := by
  obtain ⟨empty, ptr, _⟩ := initEmpty_holds init
  have holds := addRecs_holds empty (pcanUsbproGetDeviceNrRequest stack nChannel)
  rw [ptr] at holds
  exact holds.bytes

theorem deviceNr_answer {cout : Nat → U8} {stack : VaList} {nChannel : U32} (r : UsbproRec) :
    answersRec (([0x12, nChannel.setWidth 8, cout 6, cout 7] ++ le32 (stack.arg 1)).getD · 0)
      (r.bytes.getD · 0) = isDeviceNrOf nChannel r := by
  unfold answersRec isDeviceNrOf
  rw [if_pos (by simp)]
  apply decide_eq_decide.mpr
  refine and_congr_right fun type => ?_
  dsimp only at type ⊢
  rw [type]
  simp

/-- The number that is noted is the one of the first answer among all records heard in time,
    wherever in the messages it is. Without an answer it is what lay behind the arguments of the
    request. -/
theorem device_nr_of_first_answer (env : DeviceNrEnv) (nChannel : U32) (dev : AltNumber)
    (sent : pcanUsbproCmdSend env.isPlugged env.tries = some 0) {tmp : Nat → U8}
    (allocated : env.tmp = some tmp) {replies : List Reply}
    (replied : env.outcomes = replies.map Reply.outcome) :
    pcanUsbproGetDeviceNr env nChannel dev =
      (replyStatus (isDeviceNrOf nChannel) replies).map fun err =>
        let deviceNr := ((heardRecs replies).find? (isDeviceNrOf nChannel)).elim (env.stack.arg 1)
          UsbproRec.serialNum
        ⟨err, dev.noted deviceNr, some deviceNr⟩ := by
  unfold pcanUsbproGetDeviceNr
  cases init : pcanUsbproMsgInitEmpty env.cout 512 with
  | none => cases init
  | some ub =>
    have read := @readLoop_heard ([0x12, nChannel.setWidth 8, env.cout 6, env.cout 7] ++
      le32 (env.stack.arg 1)) (by simp) (by rfl) replies tmp
    simp only [deviceNr_answer] at read
    dsimp only
    rw [sent, deviceNr_request init, allocated, replied, pcanUsbproReadRec]
    dsimp only
    rw [if_neg (not_not_intro rfl), read]
    cases replyStatus (isDeviceNrOf nChannel) replies with
    | none => rfl
    | some err =>
      cases (heardRecs replies).find? (isDeviceNrOf nChannel) with
      | none =>
        have number : u32At (([0x12, nChannel.setWidth 8, env.cout 6, env.cout 7] ++
            le32 (env.stack.arg 1)).getD · 0) 4 = env.stack.arg 1 :=
          u32At_le32 rfl rfl rfl rfl
        simp only [Option.map_some, Option.elim_none, number]
      | some r => rfl

theorem nothing_unsupported :
    ([] : List U8) ≠ [] → pcanUsbproSizeofRec (([] : List U8).headD 0) = none :=
  fun some_ => absurd rfl some_

def answersOfBoth : UsbproMsg where
  recCounter := 2
  unused := 0
  recs := [⟨[0x12, 1, 0, 0, 9, 0, 0, 0], by decide⟩, ⟨[0x12, 0, 0, 0, 1, 2, 3, 4], by decide⟩]
  unsupported := []
  counted := by decide
  complete := by decide
  unknown := nothing_unsupported

def askedFirstChannel : DeviceNrEnv where
  isPlugged := true
  tries := [.late (-2), .done 0]
  tmp := some fun _ => 0xee
  outcomes := [Reply.empty 0 false, .message answersOfBoth 0 false].map Reply.outcome
  cout := fun _ => 0
  stack := ⟨fun _ => 0, fun _ => 0⟩

theorem device_nr_of_first_answer_sample :
    pcanUsbproGetDeviceNr askedFirstChannel 0 ⟨5, false⟩ =
      some ⟨0, ⟨0x04030201, true⟩, some 0x04030201⟩ := by
  rw [device_nr_of_first_answer askedFirstChannel 0 ⟨5, false⟩ rfl rfl rfl]
  decide

end Requests

end PcanDriver

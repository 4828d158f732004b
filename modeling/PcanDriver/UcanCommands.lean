import PcanDriver.Lib.ByteStores
import PcanDriver.UsbDecode

/-!
uCAN commands of a USB channel: the buffer that `ucan_add_cmd` fills (`pcanfd_ucan.c`), its way
over the bulk pipe (`pcan_usbfd_send_ucan_cmd` of `pcanfd_usb.c`) and the rows of the acceptance
filter, which are more than a buffer may hold.
-/
namespace PcanDriver

def etimedout : Int := 110

section Commands

def ucanCmdSetStdFilter : U16 := 0x006

def ucanFltstdRowIdxBits : Nat := 6

def pcanUfdLospdPktSize : Nat := 64

/-- One call of `usb_bulk_msg`: the packet that starts at `ptr` in the buffer, and the result. -/
structure BulkCall where
  ptr : Nat
  packet : List U8
  err : Int
deriving Repr, DecidableEq

/-- `struct ucan_engine` and what else sending looks at; `bulks` are the calls made so far. -/
structure UcanDev where
  nChannel : Nat
  isPlugged : Bool
  highSpeed : Bool
  cmdHead : Nat → U8
  cmdSize : Nat
  cmdLen : Nat
  bulks : List BulkCall

def ucanInitCmd (dev : UcanDev) : UcanDev := { dev with cmdLen := 0 }

def ucanCmdOpcodeChannel (c : Nat) (o : U16) : U16 := BitVec.ofNat 16 (c * 2 ^ 12) ||| (o &&& 0x3ff)

def UcanDev.stored (dev : UcanDev) (stores : List (Store U8)) : UcanDev :=
  { dev with cmdHead := Store.run stores dev.cmdHead }

/-- The position of the command, if there is room for it. -/
def ucanAddCmd (dev : UcanDev) (cmdOp : U16) : UcanDev × Option Nat :=
  if dev.cmdLen + 8 > dev.cmdSize then (dev, none)
  else
    let cmd := dev.cmdLen
    let dev := dev.stored [⟨cmd, List.replicate 8 0⟩,
      ⟨cmd, le16 (ucanCmdOpcodeChannel dev.nChannel cmdOp)⟩]
    ({ dev with cmdLen := dev.cmdLen + 8 }, some cmd)

/-- The loop of `pcan_usbfd_send_ucan_cmd`; `bulk k` is the result of call number `k`. -/
def ucanSendPackets (bulk : Nat → Int) : Nat → Nat → Nat → Nat → UcanDev → Option (UcanDev × Int)
  | 0, _, _, _, _ => none
  | fuel + 1, packetPtr, packetLen, i, dev =>
    let err := bulk dev.bulks.length
    let packet := Store.read dev.cmdHead packetPtr packetLen
    let dev := { dev with bulks := dev.bulks ++ [⟨packetPtr, packet, err⟩] }
    if err ≠ 0 then
      let i := i + 1
      if err = -etimedout ∧ i < 3 then
        -- `continue` goes to the condition of the loop
        if packetLen > 0 then ucanSendPackets bulk fuel packetPtr packetLen i dev
        else some (dev, err)
      else some (dev, err)
    else
      let packetPtr := packetPtr + packetLen
      let dev := { dev with cmdLen := dev.cmdLen - packetLen }
      let packetLen := if dev.cmdLen < pcanUfdLospdPktSize then dev.cmdLen else packetLen
      if packetLen > 0 then ucanSendPackets bulk fuel packetPtr packetLen i dev
      else some (dev, err)

def pcanUsbfdSendUcanCmd (bulk : Nat → Int) (fuel : Nat) (dev : UcanDev) :
    Option (UcanDev × Int) :=
  if !dev.isPlugged then some (dev, -enodev)
  else
    let dev :=
      if dev.cmdLen < dev.cmdSize then (ucanAddCmd dev ucanCmdEndOfCollection).1 else dev
    let packetLen :=
      if !dev.highSpeed ∧ dev.cmdLen > pcanUfdLospdPktSize then pcanUfdLospdPktSize else dev.cmdLen
    ucanSendPackets bulk fuel 0 packetLen 0 dev

/-- The `while (1)` of `ucan_set_all_acceptance_filter` for row `i`, with `sendCmd` for
    `ops->send_cmd`; 0 is returned when the row is in the buffer. -/
def ucanAddFilterRow (sendCmd : UcanDev → Option (UcanDev × Int)) (i : Nat) :
    Nat → UcanDev → Option (UcanDev × Int)
  | 0, _ => none
  | fuel + 1, dev =>
    match ucanAddCmd dev ucanCmdSetStdFilter with
    | (dev, some cmd) =>
      some (dev.stored [⟨cmd + 3, [BitVec.ofNat 8 i]⟩, ⟨cmd + 4, le32 0xffffffff⟩], 0)
    | (dev, none) =>
      match sendCmd dev with
      | none => none
      | some (dev, err) =>
        if err ≠ 0 then some (dev, err) else ucanAddFilterRow sendCmd i fuel (ucanInitCmd dev)

def ucanAddFilterRows (sendCmd : UcanDev → Option (UcanDev × Int)) (fuel : Nat) :
    List Nat → UcanDev → Option (UcanDev × Int)
  | [], dev => sendCmd dev
  | i :: rows, dev =>
    match ucanAddFilterRow sendCmd i fuel dev with
    | none => none
    | some (dev, err) =>
      if err ≠ 0 then some (dev, err) else ucanAddFilterRows sendCmd fuel rows dev

def ucanSetAllAcceptanceFilter (sendCmd : UcanDev → Option (UcanDev × Int)) (fuel : Nat)
    (dev : UcanDev) : Option (UcanDev × Int) :=
  ucanAddFilterRows sendCmd fuel (List.range (2 ^ ucanFltstdRowIdxBits)) (ucanInitCmd dev)

end Commands

section Statement

/-- A command: its code, and the six bytes that its user writes behind it. -/
structure UcanCommand where
  opcode : U16
  fields : Vector U8 6
deriving Repr, DecidableEq

def UcanCommand.bytes (nChannel : Nat) (cmd : UcanCommand) : List U8 :=
  le16 (ucanCmdOpcodeChannel nChannel cmd.opcode) ++ cmd.fields.toList

def endOfCollection : UcanCommand := ⟨ucanCmdEndOfCollection, Vector.replicate 6 0⟩

def filterRow (i : Nat) : UcanCommand :=
  ⟨ucanCmdSetStdFilter, #v[0, BitVec.ofNat 8 i, 0xff, 0xff, 0xff, 0xff]⟩

/-- A list of commands put into the buffer; those that have no room are refused. -/
def ucanAddCmds : List UcanCommand → UcanDev → UcanDev
  | [], dev => dev
  | cmd :: cmds, dev =>
    match ucanAddCmd dev cmd.opcode with
    | (dev, none) => ucanAddCmds cmds dev
    | (dev, some ptr) => ucanAddCmds cmds (dev.stored [⟨ptr + 2, cmd.fields.toList⟩])

def transferred (calls : List BulkCall) : List U8 :=
  (calls.filter (·.err = 0)).flatMap (·.packet)

/-- The commands as they are sent: terminated when there was room left. -/
def collection (dev : UcanDev) (cmds : List UcanCommand) : List U8 :=
  cmds.flatMap (UcanCommand.bytes dev.nChannel) ++
    if 8 * cmds.length + 8 ≤ dev.cmdSize then endOfCollection.bytes dev.nChannel else []

/-- `calls` were made of the buffer by one call of `pcan_usbfd_send_ucan_cmd`. -/
structure UcanSent (dev : UcanDev) (cmds : List UcanCommand) (calls : List BulkCall) (err : Int) :
    Prop where
  whole : err = 0 → transferred calls = collection dev cmds
  once : (calls.filter (·.err = 0)).Pairwise fun a b => a.ptr + a.packet.length ≤ b.ptr
  small : dev.highSpeed = false → ∀ c ∈ calls, c.packet.length ≤ pcanUfdLospdPktSize
  retried : dev.isPlugged → (∀ c ∈ calls, c.err = 0 ∨ c.err = -etimedout) →
    (calls.filter (·.err = -etimedout)).length ≤ 2 → err = 0

end Statement

section Packets
variable {head : Nat → U8} {packetPtr packetLen cmdLen i : Nat} {calls : List BulkCall} {err : Int}
  {c : BulkCall}

/-- What is left to be sent from `packetPtr` on, after `i` failures, with packets of `packetLen`. -/
structure SentFrom (head : Nat → U8) (packetPtr packetLen cmdLen i : Nat) (calls : List BulkCall)
    (err : Int) : Prop where
  whole : err = 0 → transferred calls = Store.read head packetPtr cmdLen
  once : (calls.filter (·.err = 0)).Pairwise fun a b => a.ptr + a.packet.length ≤ b.ptr
  behind : ∀ c ∈ calls, packetPtr ≤ c.ptr
  small : ∀ c ∈ calls, c.packet.length ≤ packetLen
  retried : (∀ c ∈ calls, c.err = 0 ∨ c.err = -etimedout) →
    (calls.filter (·.err = -etimedout)).length + i ≤ 2 → err = 0

theorem transferred_failed (failed : c.err ≠ 0) : transferred (c :: calls) = transferred calls := by
  unfold transferred
  rw [List.filter_cons_of_neg (by simpa using failed)]

theorem transferred_sent (sent : c.err = 0) :
    transferred (c :: calls) = c.packet ++ transferred calls := by
  unfold transferred
  rw [List.filter_cons_of_pos (by simpa using sent), List.flatMap_cons]

theorem SentFrom.refused (here : c.ptr = packetPtr) (length : c.packet.length = packetLen)
    (failed : c.err ≠ 0) (last : c.err = -etimedout → 2 ≤ i) :
    SentFrom head packetPtr packetLen cmdLen i [c] c.err where
  whole sent := absurd sent failed
  once := by
    rw [List.filter_cons_of_neg (by simpa using failed)]
    exact List.Pairwise.nil
  behind d member := by
    rw [List.mem_singleton.mp member]
    exact Nat.le_of_eq here.symm
  small d member := by
    rw [List.mem_singleton.mp member]
    exact Nat.le_of_eq length
  retried only few := by
    rcases only c List.mem_cons_self with sent | timeout
    · exact absurd sent failed
    · rw [List.filter_cons_of_pos (by simpa using timeout)] at few
      have late := last timeout
      simp only [List.filter_nil, List.length_cons, List.length_nil] at few
      omega

theorem SentFrom.retry (here : c.ptr = packetPtr) (length : c.packet.length = packetLen)
    (timeout : c.err = -etimedout)
    (later : SentFrom head packetPtr packetLen cmdLen (i + 1) calls err) :
    SentFrom head packetPtr packetLen cmdLen i (c :: calls) err := by
  have failed : c.err ≠ 0 := by
    rw [timeout]
    decide
  constructor
  case whole =>
    rw [transferred_failed failed]
    exact later.whole
  case once =>
    rw [List.filter_cons_of_neg (by simpa using failed)]
    exact later.once
  case behind => exact List.forall_mem_cons.mpr ⟨Nat.le_of_eq here.symm, later.behind⟩
  case small => exact List.forall_mem_cons.mpr ⟨Nat.le_of_eq length, later.small⟩
  case retried =>
    intro only few
    rw [List.filter_cons_of_pos (by simpa using timeout), List.length_cons] at few
    exact later.retried (fun d member => only d (List.mem_cons_of_mem _ member)) (by omega)

theorem SentFrom.next {smaller : Nat} (here : c.ptr = packetPtr) (sent : c.err = 0)
    (packet : c.packet = Store.read head packetPtr packetLen) (within : packetLen ≤ cmdLen)
    (shrinks : smaller ≤ packetLen)
    (later : SentFrom head (packetPtr + packetLen) smaller (cmdLen - packetLen) i calls err) :
    SentFrom head packetPtr packetLen cmdLen i (c :: calls) err := by
  have length : c.packet.length = packetLen := by rw [packet, Store.read_length]
  constructor
  case whole =>
    intro done
    have all : packetLen + (cmdLen - packetLen) = cmdLen := by omega
    rw [transferred_sent sent, later.whole done, packet, ← Store.read_add, all]
  case once =>
    rw [List.filter_cons_of_pos (by simpa using sent), List.pairwise_cons]
    refine ⟨fun d member => ?_, later.once⟩
    rw [here, length]
    exact later.behind d (List.mem_filter.mp member).1
  case behind =>
    refine List.forall_mem_cons.mpr ⟨Nat.le_of_eq here.symm, fun d member => ?_⟩
    exact Nat.le_trans (Nat.le_add_right _ _) (later.behind d member)
  case small =>
    refine List.forall_mem_cons.mpr ⟨Nat.le_of_eq length, fun d member => ?_⟩
    exact Nat.le_trans (later.small d member) shrinks
  case retried =>
    intro only few
    have no_timeout : c.err ≠ -etimedout := by
      rw [sent]
      decide
    rw [List.filter_cons_of_neg (by simpa using no_timeout)] at few
    exact later.retried (fun d member => only d (List.mem_cons_of_mem _ member)) few

theorem SentFrom.nothing (head : Nat → U8) (packetPtr packetLen i : Nat) :
    SentFrom head packetPtr packetLen 0 i [] 0 where
  whole _ := rfl
  once := List.Pairwise.nil
  behind _ member := absurd member List.not_mem_nil
  small _ member := absurd member List.not_mem_nil
  retried _ _ := rfl

theorem next_packet {smaller : Nat} (within : packetLen ≤ cmdLen)
    (cut : packetLen = cmdLen ∨ packetLen = pcanUfdLospdPktSize)
    (next : (if cmdLen - packetLen < pcanUfdLospdPktSize then cmdLen - packetLen
      else packetLen) = smaller) :
    smaller ≤ packetLen ∧ smaller ≤ cmdLen - packetLen ∧
      (smaller = cmdLen - packetLen ∨ smaller = pcanUfdLospdPktSize) ∧
      (smaller = 0 → packetLen = 0 ∨ cmdLen - packetLen = 0) := by
  unfold pcanUfdLospdPktSize at *
  split at next <;> omega

theorem ucanSendPackets_spec (bulk : Nat → Int) (fuel packetPtr packetLen i : Nat) (dev : UcanDev)
    (positive : 0 < packetLen) (within : packetLen ≤ dev.cmdLen)
    (cut : packetLen = dev.cmdLen ∨ packetLen = pcanUfdLospdPktSize) (few : i < 3)
    (enough : dev.cmdLen + 3 ≤ fuel + i) :
    ∃ calls cmdLen err, ucanSendPackets bulk fuel packetPtr packetLen i dev =
        some ({ dev with bulks := dev.bulks ++ calls, cmdLen := cmdLen }, err) ∧
      SentFrom dev.cmdHead packetPtr packetLen dev.cmdLen i calls err := by
  induction fuel generalizing packetPtr packetLen i dev with
  | zero => omega
  | succ fuel ih =>
    generalize result : bulk dev.bulks.length = err
    generalize call : (⟨packetPtr, Store.read dev.cmdHead packetPtr packetLen, err⟩ : BulkCall) = c
    have here : c.ptr = packetPtr := by rw [← call]
    have packet : c.packet = Store.read dev.cmdHead packetPtr packetLen := by rw [← call]
    have length : c.packet.length = packetLen := by rw [packet, Store.read_length]
    have outcome : c.err = err := by rw [← call]
    rw [ucanSendPackets]
    dsimp only
    rw [result, call]
    by_cases failed : err ≠ 0
    · rw [if_pos failed]
      by_cases again : err = -etimedout ∧ i + 1 < 3
      · rw [if_pos again, if_pos positive]
        obtain ⟨calls, cmdLen, last, run, sent⟩ := ih packetPtr packetLen (i + 1)
          { dev with bulks := dev.bulks ++ [c] } positive within cut again.2 (by dsimp only; omega)
        refine ⟨c :: calls, cmdLen, last, ?_, sent.retry here length (outcome.trans again.1)⟩
        rw [run]
        simp only [List.append_assoc, List.singleton_append]
      · rw [if_neg again]
        refine ⟨[c], dev.cmdLen, err, rfl, ?_⟩
        rw [← outcome] at failed again ⊢
        refine SentFrom.refused here length failed fun timeout => ?_
        have late := mt (And.intro timeout) again
        omega
    · have zero : err = 0 := not_not.mp failed
      rw [if_neg failed, zero]
      generalize next : (if dev.cmdLen - packetLen < pcanUfdLospdPktSize then
        dev.cmdLen - packetLen else packetLen) = smaller
      obtain ⟨shrinks, fits, size, ends⟩ := next_packet within cut next
      by_cases more : smaller > 0
      · rw [if_pos more]
        obtain ⟨calls, cmdLen, last, run, sent⟩ := ih (packetPtr + packetLen) smaller i
          { dev with bulks := dev.bulks ++ [c], cmdLen := dev.cmdLen - packetLen } more fits size
          few
          (by dsimp only; omega)
        refine ⟨c :: calls, cmdLen, last, ?_,
          sent.next here (outcome.trans zero) packet within shrinks⟩
        rw [run]
        simp only [List.append_assoc, List.singleton_append]
      · rw [if_neg more]
        refine ⟨[c], dev.cmdLen - packetLen, 0, rfl, ?_⟩
        have none_left := (ends (by omega)).resolve_left (by omega)
        have later := SentFrom.nothing dev.cmdHead (packetPtr + packetLen) smaller i
        rw [← none_left] at later
        exact later.next here (outcome.trans zero) packet within shrinks

end Packets

section Buffer
variable {dev : UcanDev} {bytes : List U8}

structure UcanDev.Holds (dev : UcanDev) (bytes : List U8) : Prop where
  length : dev.cmdLen = bytes.length
  fits : bytes.length ≤ dev.cmdSize
  read : Store.read dev.cmdHead 0 bytes.length = bytes

theorem ucanInitCmd_holds (dev : UcanDev) : (ucanInitCmd dev).Holds [] :=
  ⟨rfl, Nat.zero_le _, rfl⟩

theorem ucanAddCmd_full (holds : dev.Holds bytes) (full : dev.cmdSize < bytes.length + 8)
    (cmdOp : U16) : ucanAddCmd dev cmdOp = (dev, none) := by
  unfold ucanAddCmd
  rw [holds.length, if_pos full]

theorem blank_command (head : Nat → U8) (cmd : Nat) (opcodeChannel : U16) :
    Store.read (Store.run [⟨cmd, List.replicate 8 0⟩, ⟨cmd, le16 opcodeChannel⟩] head) cmd 8 =
        le16 opcodeChannel ++ List.replicate 6 0 ∧
      ∀ s ∈ [⟨cmd, List.replicate 8 0⟩, ⟨cmd, le16 opcodeChannel⟩],
        Store.Inside (B := U8) cmd (cmd + 8) s := by
  have inside : ∀ s ∈ [⟨cmd, List.replicate 8 0⟩, ⟨cmd, le16 opcodeChannel⟩],
      Store.Inside (B := U8) cmd (cmd + 8) s := by
    intro s member
    simp only [List.mem_cons, List.not_mem_nil, or_false] at member
    rcases member with rfl | rfl
    · exact ⟨Nat.le_refl _, Nat.le_refl _⟩
    · exact ⟨Nat.le_refl _, Nat.add_le_add_left (by decide : 2 ≤ 8) _⟩
  refine ⟨?_, inside⟩
  have zeros : Store.patch (Store.read head cmd 8) 0 (List.replicate 8 0) = List.replicate 8 0 :=
    Store.patch_all (by rw [Store.read_length, List.length_replicate])
  rw [Store.read_run inside]
  simp only [List.foldl_cons, List.foldl_nil, Nat.sub_self, zeros]
  rfl

theorem ucanAddCmd_holds (holds : dev.Holds bytes) (room : bytes.length + 8 ≤ dev.cmdSize)
    (cmdOp : U16) :
    ∃ added : UcanDev, ucanAddCmd dev cmdOp = (added, some bytes.length) ∧
      (∃ head cmdLen, added = { dev with cmdHead := head, cmdLen := cmdLen }) ∧
      ∀ stores : List (Store U8),
        (∀ s ∈ stores, s.Inside bytes.length (bytes.length + 8)) →
        (added.stored stores).Holds (bytes ++ stores.foldl
          (fun xs s => Store.patch xs (s.addr - bytes.length) s.bytes)
          (le16 (ucanCmdOpcodeChannel dev.nChannel cmdOp) ++ List.replicate 6 0)) := by
  unfold ucanAddCmd
  rw [holds.length, if_neg (by omega)]
  refine ⟨_, rfl, ⟨_, _, rfl⟩, fun stores inside => ?_⟩
  have code := blank_command dev.cmdHead bytes.length (ucanCmdOpcodeChannel dev.nChannel cmdOp)
  rw [← code.1, ← Store.read_run inside]
  constructor
  case length =>
    rw [List.length_append, Store.read_length]
    exact congrArg (· + 8) holds.length
  case fits =>
    rw [List.length_append, Store.read_length]
    exact room
  case read =>
    rw [List.length_append, Store.read_length, Store.read_add, Nat.zero_add]
    congr 1
    show Store.read (Store.run stores (Store.run _ dev.cmdHead)) 0 bytes.length = bytes
    rw [Store.read_run_before inside (Nat.le_refl _),
      Store.read_run_before code.2 (Nat.le_refl _), holds.read]

theorem UcanCommand.bytes_length (nChannel : Nat) (cmd : UcanCommand) :
    (cmd.bytes nChannel).length = 8 := by
  unfold UcanCommand.bytes
  rw [List.length_append, Vector.length_toList]
  rfl

theorem commands_length (nChannel : Nat) (cmds : List UcanCommand) :
    (cmds.flatMap (UcanCommand.bytes nChannel)).length = 8 * cmds.length := by
  induction cmds with
  | nil => rfl
  | cons cmd cmds ih =>
    rw [List.flatMap_cons, List.length_append, UcanCommand.bytes_length, ih, List.length_cons]
    omega

theorem ucanAddCmd_command (holds : dev.Holds bytes) (room : bytes.length + 8 ≤ dev.cmdSize)
    (cmd : UcanCommand) :
    ∃ added : UcanDev, ucanAddCmd dev cmd.opcode = (added, some bytes.length) ∧
      ∃ head cmdLen, added.stored [⟨bytes.length + 2, cmd.fields.toList⟩] =
          { dev with cmdHead := head, cmdLen := cmdLen } ∧
        (added.stored [⟨bytes.length + 2, cmd.fields.toList⟩]).Holds
          (bytes ++ cmd.bytes dev.nChannel) := by
  obtain ⟨added, adds, ⟨head, cmdLen, rfl⟩, stored⟩ := ucanAddCmd_holds holds room cmd.opcode
  have six : cmd.fields.toList.length = 6 := Vector.length_toList
  have inside : ∀ s ∈ [⟨bytes.length + 2, cmd.fields.toList⟩],
      Store.Inside (B := U8) bytes.length (bytes.length + 8) s := by
    intro s member
    rw [List.mem_singleton.mp member]
    exact ⟨Nat.le_add_right _ _, by dsimp only; omega⟩
  have held := stored _ inside
  refine ⟨_, adds, _, cmdLen, rfl, ?_⟩
  have patched : Store.patch (le16 (ucanCmdOpcodeChannel dev.nChannel cmd.opcode) ++
      List.replicate 6 0) (bytes.length + 2 - bytes.length) cmd.fields.toList =
      cmd.bytes dev.nChannel := by
    rw [Nat.add_sub_cancel_left]
    unfold Store.patch UcanCommand.bytes
    rw [six]
    exact List.append_nil _
  rw [← patched]
  exact held

theorem ucanAddCmd_end (holds : dev.Holds bytes) (room : bytes.length + 8 ≤ dev.cmdSize) :
    ∃ head cmdLen, (ucanAddCmd dev ucanCmdEndOfCollection).1 =
        { dev with cmdHead := head, cmdLen := cmdLen } ∧
      (ucanAddCmd dev ucanCmdEndOfCollection).1.Holds
        (bytes ++ endOfCollection.bytes dev.nChannel) := by
  obtain ⟨added, adds, ⟨head, cmdLen, rfl⟩, stored⟩ :=
    ucanAddCmd_holds holds room ucanCmdEndOfCollection
  rw [adds]
  exact ⟨head, cmdLen, rfl, stored [] fun s member => absurd member List.not_mem_nil⟩

theorem ucanAddCmd_row (holds : dev.Holds bytes) (room : bytes.length + 8 ≤ dev.cmdSize)
    (i : Nat) :
    ∃ added : UcanDev, ucanAddCmd dev ucanCmdSetStdFilter = (added, some bytes.length) ∧
      ∃ head cmdLen, added.stored [⟨bytes.length + 3, [BitVec.ofNat 8 i]⟩,
            ⟨bytes.length + 4, le32 0xffffffff⟩] =
          { dev with cmdHead := head, cmdLen := cmdLen } ∧
        (added.stored [⟨bytes.length + 3, [BitVec.ofNat 8 i]⟩,
            ⟨bytes.length + 4, le32 0xffffffff⟩]).Holds
          (bytes ++ (filterRow i).bytes dev.nChannel) := by
  obtain ⟨added, adds, ⟨head, cmdLen, rfl⟩, stored⟩ :=
    ucanAddCmd_holds holds room ucanCmdSetStdFilter
  have inside : ∀ s ∈ [⟨bytes.length + 3, [BitVec.ofNat 8 i]⟩,
      ⟨bytes.length + 4, le32 0xffffffff⟩],
      Store.Inside (B := U8) bytes.length (bytes.length + 8) s := by
    intro s member
    simp only [List.mem_cons, List.not_mem_nil, or_false] at member
    rcases member with rfl | rfl
    · exact ⟨Nat.le_add_right _ _, Nat.add_le_add_left (by decide : 3 + 1 ≤ 8) _⟩
    · exact ⟨Nat.le_add_right _ _, Nat.le_refl _⟩
  have held := stored _ inside
  refine ⟨_, adds, _, cmdLen, rfl, ?_⟩
  simp only [List.foldl_cons, List.foldl_nil, Nat.add_sub_cancel_left] at held
  exact held

theorem ucanAddCmds_holds (cmds : List UcanCommand) (holds : dev.Holds bytes) :
    ∃ head cmdLen, ucanAddCmds cmds dev = { dev with cmdHead := head, cmdLen := cmdLen } ∧
      (ucanAddCmds cmds dev).Holds (bytes ++
        (cmds.take ((dev.cmdSize - bytes.length) / 8)).flatMap (UcanCommand.bytes dev.nChannel)) := by
  induction cmds generalizing dev bytes with
  | nil =>
    refine ⟨_, _, rfl, ?_⟩
    rw [List.take_nil, List.flatMap_nil, List.append_nil]
    exact holds
  | cons cmd cmds ih =>
    rw [ucanAddCmds]
    by_cases room : bytes.length + 8 ≤ dev.cmdSize
    · obtain ⟨added, adds, head, cmdLen, frame, held⟩ := ucanAddCmd_command holds room cmd
      rw [adds]
      dsimp only
      have one : (dev.cmdSize - bytes.length) / 8 = (dev.cmdSize - (bytes.length + 8)) / 8 + 1 := by
        omega
      obtain ⟨head', cmdLen', frame', held'⟩ := ih held
      rw [frame] at frame' held' ⊢
      rw [List.length_append, UcanCommand.bytes_length, List.append_assoc] at held'
      rw [one, List.take_succ_cons, List.flatMap_cons]
      exact ⟨head', cmdLen', frame', held'⟩
    · have none_fits : (dev.cmdSize - bytes.length) / 8 = 0 := by omega
      rw [ucanAddCmd_full holds (by omega), none_fits]
      have later := ih holds
      rw [none_fits] at later
      exact later

end Buffer

section Sending
variable {dev : UcanDev} {cmds : List UcanCommand}

/-- What `pcan_usbfd_send_ucan_cmd` sends: the list and its end. -/
theorem terminated_holds (holds : dev.Holds (cmds.flatMap (UcanCommand.bytes dev.nChannel))) :
    ∃ head cmdLen,
      (if dev.cmdLen < dev.cmdSize then (ucanAddCmd dev ucanCmdEndOfCollection).1 else dev) =
          { dev with cmdHead := head, cmdLen := cmdLen } ∧
        ({ dev with cmdHead := head, cmdLen := cmdLen } : UcanDev).Holds (collection dev cmds) := by
  have length := commands_length dev.nChannel cmds
  unfold collection
  by_cases room : 8 * cmds.length + 8 ≤ dev.cmdSize
  · obtain ⟨head, cmdLen, frame, held⟩ := ucanAddCmd_end holds (by omega)
    rw [if_pos (by rw [holds.length]; omega), if_pos room]
    refine ⟨head, cmdLen, frame, ?_⟩
    rw [← frame]
    exact held
  · rw [if_neg room, List.append_nil, ucanAddCmd_full holds (by omega), ite_self]
    exact ⟨_, _, rfl, holds⟩

theorem collection_positive (room : 8 ≤ dev.cmdSize) (cmds : List UcanCommand) :
    0 < (collection dev cmds).length := by
  unfold collection
  rw [List.length_append, commands_length]
  split
  · rw [UcanCommand.bytes_length]
    omega
  · omega

theorem pcanUsbfdSendUcanCmd_spec (bulk : Nat → Int) {fuel : Nat} (room : 8 ≤ dev.cmdSize)
    (enough : dev.cmdSize + 3 ≤ fuel)
    (holds : dev.Holds (cmds.flatMap (UcanCommand.bytes dev.nChannel))) :
    ∃ calls head cmdLen err, pcanUsbfdSendUcanCmd bulk fuel dev =
        some ({ dev with bulks := dev.bulks ++ calls, cmdHead := head, cmdLen := cmdLen }, err) ∧
      UcanSent dev cmds calls err := by
  unfold pcanUsbfdSendUcanCmd
  by_cases absent : (!dev.isPlugged) = true
  · rw [if_pos absent]
    refine ⟨[], dev.cmdHead, dev.cmdLen, -enodev, by rw [List.append_nil], ?_⟩
    constructor
    case whole => exact fun sent => absurd sent (by decide)
    case once => exact List.Pairwise.nil
    case small => exact fun _ c member => absurd member List.not_mem_nil
    case retried =>
      intro present
      rw [present] at absent
      exact absurd absent Bool.false_ne_true
  · obtain ⟨head, cmdLen, terminated, held⟩ := terminated_holds holds
    have positive := collection_positive room cmds
    have length := held.length
    have fits := held.fits
    dsimp only at length fits
    rw [if_neg absent, terminated]
    dsimp only
    generalize first : (if (!dev.highSpeed) = true ∧ cmdLen > pcanUfdLospdPktSize then
      pcanUfdLospdPktSize else cmdLen) = packetLen
    have cut : 0 < packetLen ∧ packetLen ≤ cmdLen ∧
        (packetLen = cmdLen ∨ packetLen = pcanUfdLospdPktSize) ∧
        (dev.highSpeed = false → packetLen ≤ pcanUfdLospdPktSize) := by
      rw [← first]
      by_cases low : (!dev.highSpeed) = true ∧ cmdLen > pcanUfdLospdPktSize
      · rw [if_pos low]
        exact ⟨by decide, Nat.le_of_lt low.2, .inr rfl, fun _ => Nat.le_refl _⟩
      · rw [if_neg low]
        refine ⟨by omega, Nat.le_refl _, .inl rfl, fun slow => ?_⟩
        rw [slow] at low
        exact Nat.le_of_not_lt fun long => low ⟨rfl, long⟩
    obtain ⟨calls, later, err, run, sent⟩ := ucanSendPackets_spec bulk fuel 0 packetLen 0
      { dev with cmdHead := head, cmdLen := cmdLen } cut.1 cut.2.1 cut.2.2.1 (by decide)
      (by dsimp only; omega)
    refine ⟨calls, head, later, err, run, ?_⟩
    constructor
    case whole =>
      intro done
      rw [sent.whole done, ← held.read, ← length]
    case once => exact sent.once
    case small =>
      exact fun low c member => Nat.le_trans (sent.small c member) (cut.2.2.2 low)
    case retried => exact fun _ => sent.retried

end Sending

section Filter
variable {dev : UcanDev} {group : List Nat} {fuel : Nat}

theorem transferred_append (first second : List BulkCall) :
    transferred (first ++ second) = transferred first ++ transferred second := by
  unfold transferred
  rw [List.filter_append, List.flatMap_append]

def rowBytes (nChannel : Nat) (rows : List Nat) : List U8 :=
  (rows.map filterRow).flatMap (UcanCommand.bytes nChannel)

theorem ucanAddFilterRow_spec (bulk : Nat → Int) (i rounds : Nat) (room : 8 ≤ dev.cmdSize)
    (enough : dev.cmdSize + 3 ≤ fuel) (holds : dev.Holds (rowBytes dev.nChannel group)) :
    ∃ calls head cmdLen err,
      ucanAddFilterRow (pcanUsbfdSendUcanCmd bulk fuel) i (rounds + 2) dev =
        some ({ dev with bulks := dev.bulks ++ calls, cmdHead := head, cmdLen := cmdLen }, err) ∧
      ((calls = [] ∧ err = 0 ∧ ({ dev with cmdHead := head, cmdLen := cmdLen } : UcanDev).Holds
          (rowBytes dev.nChannel (group ++ [i]))) ∨
        UcanSent dev (group.map filterRow) calls err ∧
          (err = 0 → ({ dev with cmdHead := head, cmdLen := cmdLen } : UcanDev).Holds
            (rowBytes dev.nChannel [i]))) := by
  rw [ucanAddFilterRow]
  by_cases fits : (rowBytes dev.nChannel group).length + 8 ≤ dev.cmdSize
  · obtain ⟨added, adds, head, cmdLen, frame, held⟩ := ucanAddCmd_row holds fits i
    rw [adds]
    dsimp only
    rw [frame] at held ⊢
    refine ⟨[], head, cmdLen, 0, by rw [List.append_nil], .inl ⟨rfl, rfl, ?_⟩⟩
    unfold rowBytes at held ⊢
    rw [List.map_append, List.flatMap_append]
    exact held
  · rw [ucanAddCmd_full holds (by omega)]
    dsimp only
    obtain ⟨calls, head, cmdLen, err, run, sent⟩ := pcanUsbfdSendUcanCmd_spec bulk room enough holds
    rw [run]
    dsimp only
    by_cases failed : err ≠ 0
    · rw [if_pos failed]
      exact ⟨calls, head, cmdLen, err, rfl, .inr ⟨sent, fun zero => absurd zero failed⟩⟩
    · have zero := not_not.mp failed
      rw [if_neg failed, ucanAddFilterRow]
      obtain ⟨added, adds, head', cmdLen', frame, held⟩ := ucanAddCmd_row
        (ucanInitCmd_holds
          { dev with bulks := dev.bulks ++ calls, cmdHead := head, cmdLen := cmdLen })
        room i
      rw [adds]
      dsimp only
      rw [frame] at held ⊢
      refine ⟨calls, head', cmdLen', 0, rfl, .inr ⟨zero ▸ sent, fun _ => ?_⟩⟩
      exact ⟨held.length, held.fits, held.read⟩

theorem ucanAddFilterRows_spec (bulk : Nat → Int) (rows : List Nat) (room : 8 ≤ dev.cmdSize)
    (enough : dev.cmdSize + 3 ≤ fuel) (holds : dev.Holds (rowBytes dev.nChannel group)) :
    ∃ calls head cmdLen err,
      ucanAddFilterRows (pcanUsbfdSendUcanCmd bulk fuel) fuel rows dev =
        some ({ dev with bulks := dev.bulks ++ calls, cmdHead := head, cmdLen := cmdLen }, err) ∧
      (err = 0 → ∃ groups : List (List Nat), groups.flatten = group ++ rows ∧
        transferred calls = groups.flatMap fun g => collection dev (g.map filterRow)) ∧
      (dev.highSpeed = false → ∀ c ∈ calls, c.packet.length ≤ pcanUfdLospdPktSize) := by
  induction rows generalizing dev group with
  | nil =>
    obtain ⟨calls, head, cmdLen, err, run, sent⟩ := pcanUsbfdSendUcanCmd_spec bulk room enough holds
    refine ⟨calls, head, cmdLen, err, run, fun done => ⟨[group], ?_, ?_⟩, sent.small⟩
    · rw [List.flatten_singleton, List.append_nil]
    · rw [sent.whole done, List.flatMap_singleton]
  | cons i rows ih =>
    obtain ⟨rounds, rfl⟩ : ∃ rounds, fuel = rounds + 2 := ⟨fuel - 2, by omega⟩
    obtain ⟨calls, head, cmdLen, err, run, added⟩ :=
      ucanAddFilterRow_spec bulk i rounds room enough holds
    rw [ucanAddFilterRows, run]
    dsimp only
    have small : dev.highSpeed = false → ∀ c ∈ calls, c.packet.length ≤ pcanUfdLospdPktSize := by
      rcases added with ⟨rfl, _, _⟩ | ⟨sent, _⟩
      · exact fun _ c member => absurd member List.not_mem_nil
      · exact sent.small
    by_cases failed : err ≠ 0
    · rw [if_pos failed]
      exact ⟨calls, head, cmdLen, err, rfl, fun zero => absurd zero failed, small⟩
    · have zero := not_not.mp failed
      rw [if_neg failed]
      obtain ⟨sent, waiting, order, bytes, held⟩ : ∃ (sent : List (List Nat)) (waiting : List Nat),
          sent.flatten ++ waiting = group ++ [i] ∧
            transferred calls = sent.flatMap (fun g => collection dev (g.map filterRow)) ∧
            ({ dev with cmdHead := head, cmdLen := cmdLen } : UcanDev).Holds
              (rowBytes dev.nChannel waiting) := by
        rcases added with ⟨rfl, _, held⟩ | ⟨sent, first⟩
        · exact ⟨[], group ++ [i], rfl, rfl, held⟩
        · refine ⟨[group], [i], ?_, ?_, first zero⟩
          · rw [List.flatten_singleton]
          · rw [sent.whole zero, List.flatMap_singleton]
      obtain ⟨later, head', cmdLen', last, run', done, small'⟩ := @ih
        { dev with bulks := dev.bulks ++ calls, cmdHead := head, cmdLen := cmdLen } waiting room enough
        ⟨held.length, held.fits, held.read⟩
      refine ⟨calls ++ later, head', cmdLen', last, ?_, ?_, ?_⟩
      · rw [run', List.append_assoc]
      · intro finished
        obtain ⟨groups, all, rest⟩ := done finished
        refine ⟨sent ++ groups, ?_, ?_⟩
        · rw [List.flatten_append, all, ← List.append_assoc, order, List.append_assoc,
            List.singleton_append]
        · rw [transferred_append, bytes, rest, List.flatMap_append]
          rfl
      · intro low c member
        rcases List.mem_append.mp member with before | behind
        · exact small low c before
        · exact small' low c behind

end Filter

section Samples

def fullSpeedDev : UcanDev := ⟨0, true, false, fun _ => 0, 512, 0, []⟩

end Samples

end PcanDriver

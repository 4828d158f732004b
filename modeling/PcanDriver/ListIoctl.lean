import PcanDriver.FilterChain

/-!
The ioctls that take a list from the user or give one back: the buffer that
`handle_pcanfd_send_msgs` and `handle_pcanfd_recv_msgs` (`pcan_fops.c`), their versions for
32-bit callers and the filter commands of `__pcan_ioctl` (`pcan_fops_linux.c`) allocate,
and the elements of it that they use. What the channel does with a message is an answer
here.
-/
namespace PcanDriver

/-- Bytes in front of the list and of one element. -/
structure ListLayout where
  header : Nat
  elem : Nat
deriving Repr, DecidableEq

/-- `struct pcanfd_msgs_0` with a list of `struct pcanfd_txmsg`, as laid out for 64 bits. -/
def pcanfdTxmsgs : ListLayout := ⟨8, 120⟩

def pcanfdRxmsgs : ListLayout := ⟨8, 152⟩

def pcanfdMsgFilters : ListLayout := ⟨4, 12⟩

def listTotal (layout : ListLayout) (count : U32) : Nat :=
  layout.header + count.toNat * layout.elem

def listRest (layout : ListLayout) (count : U32) : Nat := listTotal layout count % 2 ^ 32

/-- The `int l` after `l += count * sizeof(list[0])`: a `size_t` cut to 32 bits. -/
def listLength (layout : ListLayout) (count : U32) : Int :=
  (BitVec.ofNat 32 (listTotal layout count)).toInt

/-- As a size, a negative length is more than can be allocated. -/
def pcanMalloc (memory : Nat → Bool) (l : Int) : Option Nat :=
  if 0 ≤ l ∧ memory l.toNat = true then some l.toNat else none

/-- The head of the user's list, and whether the kernel has memory and the count can be
    written back. -/
structure ListArgument where
  readable : Bool
  count : U32
  memory : Nat → Bool
  writable : Bool

/-- What a handler returns, the bytes of its buffer once it goes on with one, and how many
    elements of the list, from the first on, it has stored or read there. -/
structure ListResult where
  err : Int
  block : Option Nat
  touched : Nat
deriving Repr, DecidableEq

def allocateList (layout : ListLayout) (arg : ListArgument) (next : ListResult) : ListResult :=
  if arg.readable = false then ⟨-efault, none, 0⟩
  else if arg.count = 0 then ⟨0, none, 0⟩
  else
    match pcanMalloc arg.memory (listLength layout arg.count) with
    | none => ⟨-enomem, none, 0⟩
    | some bytes => { next with block := some bytes }

def copyCountBack (arg : ListArgument) (result : ListResult) : ListResult :=
  if arg.writable then result else { result with err := -efault }

/-- The copy of `left` elements, from the `i`-th on; the flag says that one was not readable. -/
def copyItems {A : Type} (item : Nat → Option A) : Nat → Nat → List A × Bool
  | 0, _ => ([], false)
  | left + 1, i =>
    match item i with
    | none => ([], true)
    | some x =>
      let more := copyItems item left (i + 1)
      (x :: more.1, more.2)

/-- `sendMsgs` is `pcanfd_ioctl_send_msgs`. An element that can only be copied in part is
    stored all the same. -/
def handlePcanfdSendMsgs (arg : ListArgument) (item : Nat → Option PcanfdMsg)
    (sendMsgs : List PcanfdMsg → Int) : ListResult :=
  let copied := copyItems item arg.count.toNat 0
  allocateList pcanfdTxmsgs arg <|
    if copied.2 then ⟨-efault, none, copied.1.length + 1⟩
    else copyCountBack arg ⟨sendMsgs copied.1, none, copied.1.length⟩

/-- A message of 32 bits is copied elsewhere before it is stored in the list. -/
def handlePcanfdSendMsgs32 (arg : ListArgument) (item : Nat → Option PcanfdMsg)
    (sendMsgs : List PcanfdMsg → Int) : ListResult :=
  let copied := copyItems item arg.count.toNat 0
  allocateList pcanfdTxmsgs arg <|
    if copied.2 then ⟨-efault, none, copied.1.length⟩
    else copyCountBack arg ⟨sendMsgs copied.1, none, copied.1.length⟩

/-- The loop of `pcanfd_ioctl_recv_msgs`; `received` are the answers of `pcanfd_recv_msg`. -/
def recvLoop (received : Nat → Except Int PcanfdRxmsg) : Nat → Nat → List PcanfdRxmsg × Int
  | 0, _ => ([], 0)
  | left + 1, i =>
    match received i with
    | .error err => ([], err)
    | .ok rx =>
      let more := recvLoop received left (i + 1)
      (rx :: more.1, more.2)

def pcanfdIoctlRecvMsgs (received : Nat → Except Int PcanfdRxmsg) (count : U32) :
    List PcanfdRxmsg × Int :=
  let msgs := recvLoop received count.toNat 0
  (msgs.1, if 0 < msgs.1.length then 0 else msgs.2)

/-- `stored` says which elements of the user's list can be written. -/
def handlePcanfdRecvMsgs (arg : ListArgument) (received : Nat → Except Int PcanfdRxmsg)
    (stored : Nat → Bool) : ListResult :=
  let msgs := pcanfdIoctlRecvMsgs received arg.count
  allocateList pcanfdRxmsgs arg <|
    if arg.writable = false then ⟨-efault, none, msgs.1.length⟩
    else
      ⟨if (List.range msgs.1.length).all stored then msgs.2 else -efault, none, msgs.1.length⟩

def handlePcanfdRecvMsgs32 (arg : ListArgument) (received : Nat → Except Int PcanfdRxmsg)
    (stored : Nat → Bool) : ListResult :=
  handlePcanfdRecvMsgs arg received stored

/-- What the second copy, of the whole list, leaves in the buffer: the count may have
    changed, and behind the buffer `list` is whatever is there. -/
structure FilterCopy where
  copied : Bool
  count : U32
  list : Nat → FilterElement

/-- The loop of `pcan_add_filters` over the buffer, with the number of elements it reads. -/
def readFilters (list : Nat → FilterElement) : FilterChain → Nat → Nat → FilterChain × Nat
  | chain, 0, _ => (chain, 0)
  | chain, left + 1, i =>
    let added := addFilter chain (list i)
    if added.2 ≠ 0 then (added.1, 1)
    else
      let more := readFilters list added.1 left (i + 1)
      (more.1, more.2 + 1)

/-- `PCANFD_ADD_FILTERS`; the count is an `int` for `pcan_add_filters`. -/
def addFiltersCommand (arg : ListArgument) (copy : FilterCopy) (handle : Option FilterChain) :
    ListResult :=
  allocateList pcanfdMsgFilters arg <|
    if copy.copied = false then ⟨-efault, none, 0⟩
    else
      match handle with
      | none => ⟨0, none, 0⟩
      | some chain => ⟨0, none, (readFilters copy.list chain copy.count.toInt.toNat 0).2⟩

def getFiltersCommand (arg : ListArgument) (handle : Option FilterChain) : ListResult :=
  allocateList pcanfdMsgFilters arg <|
    match handle with
    | none => copyCountBack arg ⟨0, none, 0⟩
    | some chain => copyCountBack arg ⟨0, none, (pcanGetFilters chain arg.count.toInt).2⟩

inductive ListCommand where
  | sendMsgs (item : Nat → Option PcanfdMsg) (send : List PcanfdMsg → Int)
  | recvMsgs (received : Nat → Except Int PcanfdRxmsg) (stored : Nat → Bool)
  | sendMsgs32 (item : Nat → Option PcanfdMsg) (send : List PcanfdMsg → Int)
  | recvMsgs32 (received : Nat → Except Int PcanfdRxmsg) (stored : Nat → Bool)
  | addFilters (copy : FilterCopy) (handle : Option FilterChain)
  | getFilters (handle : Option FilterChain)

def ListCommand.layout : ListCommand → ListLayout
  | .sendMsgs .. | .sendMsgs32 .. => pcanfdTxmsgs
  | .recvMsgs .. | .recvMsgs32 .. => pcanfdRxmsgs
  | .addFilters .. | .getFilters .. => pcanfdMsgFilters

def ListCommand.handle (arg : ListArgument) : ListCommand → ListResult
  | .sendMsgs item send => handlePcanfdSendMsgs arg item send
  | .recvMsgs received stored => handlePcanfdRecvMsgs arg received stored
  | .sendMsgs32 item send => handlePcanfdSendMsgs32 arg item send
  | .recvMsgs32 received stored => handlePcanfdRecvMsgs32 arg received stored
  | .addFilters copy handle => addFiltersCommand arg copy handle
  | .getFilters handle => getFiltersCommand arg handle

def ListFits (layout : ListLayout) (result : ListResult) : Prop :=
  ∀ bytes, result.block = some bytes → result.touched * layout.elem ≤ bytes

def chainAfter (list : Nat → FilterElement) (chain : FilterChain) : Nat → FilterChain
  | 0 => chain
  | i + 1 => (addFilter (chainAfter list chain i) (list i)).1

/-- How many of the answers from `i` on are good, at most `left`. -/
def leading (good : Nat → Bool) : Nat → Nat → Nat
  | 0, _ => 0
  | left + 1, i => if good i then leading good left (i + 1) + 1 else 0

/-- The number of list elements that a command needs: the messages that can be copied, and
    the first that cannot; the messages received; the filters up to the first that a full
    chain refuses; the filters of the chain. -/
def ListCommand.needed (arg : ListArgument) : ListCommand → Nat
  | .sendMsgs item _ =>
    min (leading (fun i => (item i).isSome) arg.count.toNat 0 + 1) arg.count.toNat
  | .sendMsgs32 item _ => leading (fun i => (item i).isSome) arg.count.toNat 0
  | .recvMsgs received _ | .recvMsgs32 received _ =>
    leading (fun i => (received i).isOk) arg.count.toNat 0
  | .addFilters copy handle =>
    match copy.copied, handle with
    | true, some chain =>
      let n := copy.count.toInt.toNat
      min (leading (fun i => (addFilter (chainAfter copy.list chain i) (copy.list i)).2 = 0) n 0 + 1) n
    | _, _ => 0
  | .getFilters handle =>
    match handle with
    | none => 0
    | some chain => min chain.anchor.length (max 1 arg.count.toInt.toNat)

def LengthSuffices (arg : ListArgument) (command : ListCommand) : Prop :=
  command.needed arg ≤ listRest command.layout arg.count / command.layout.elem

structure Allocates (layout : ListLayout) (arg : ListArgument) : Prop where
  readable : arg.readable = true
  counted : arg.count ≠ 0
  signed : listRest layout arg.count < 2 ^ 31
  memory : arg.memory (listRest layout arg.count) = true

section Lengths
variable {layout : ListLayout} {arg : ListArgument}

theorem listLength_eq (layout : ListLayout) (count : U32) :
    listLength layout count =
      if listRest layout count < 2 ^ 31 then (listRest layout count : Int)
      else (listRest layout count : Int) - 2 ^ 32 := by
  rw [listLength, BitVec.toInt_eq_toNat_cond, BitVec.toNat_ofNat, ← listRest]
  split <;> split <;> omega

theorem pcanMalloc_some (memory : Nat → Bool) (layout : ListLayout) (count : U32) (bytes : Nat) :
    pcanMalloc memory (listLength layout count) = some bytes ↔
      listRest layout count < 2 ^ 31 ∧ memory (listRest layout count) = true ∧
        bytes = listRest layout count := by
  have bound : listRest layout count < 2 ^ 32 := Nat.mod_lt _ (by decide)
  unfold pcanMalloc
  rw [listLength_eq]
  generalize listRest layout count = rest at bound ⊢
  by_cases signed : rest < 2 ^ 31
  · rw [if_pos signed, Int.toNat_natCast]
    by_cases granted : memory rest = true
    · rw [if_pos ⟨Int.natCast_nonneg rest, granted⟩, Option.some_inj]
      exact ⟨fun same => ⟨signed, granted, same.symm⟩, fun all => all.2.2.symm⟩
    · rw [if_neg (fun both => granted both.2)]
      exact iff_of_false nofun (fun all => granted all.2.1)
  · rw [if_neg signed, if_neg (by omega)]
    exact iff_of_false nofun (fun all => signed all.1)

theorem allocateList_block (next : ListResult) (bytes : Nat) :
    (allocateList layout arg next).block = some bytes ↔
      Allocates layout arg ∧ bytes = listRest layout arg.count := by
  have malloc := pcanMalloc_some arg.memory layout arg.count
  unfold allocateList
  constructor
  · intro goesOn
    split at goesOn
    · cases goesOn
    rename_i readable
    split at goesOn
    · cases goesOn
    rename_i counted
    split at goesOn
    · cases goesOn
    · rename_i length found
      obtain ⟨signed, memory, same⟩ := (malloc length).mp found
      refine ⟨⟨by simpa using readable, counted, signed, memory⟩, ?_⟩
      exact (Option.some.inj goesOn).symm.trans same
  · intro ⟨allocates, same⟩
    have found := (malloc bytes).mpr ⟨allocates.signed, allocates.memory, same⟩
    rw [if_neg (by simp [allocates.readable]), if_neg allocates.counted, found]

theorem allocateList_touched {next : ListResult} {bytes : Nat}
    (goesOn : (allocateList layout arg next).block = some bytes) :
    (allocateList layout arg next).touched = next.touched := by
  obtain ⟨allocates, same⟩ := (allocateList_block next bytes).mp goesOn
  have found := (pcanMalloc_some arg.memory layout arg.count bytes).mpr
    ⟨allocates.signed, allocates.memory, same⟩
  unfold allocateList
  rw [if_neg (by simp [allocates.readable]), if_neg allocates.counted, found]

end Lengths

section Loops

theorem leading_le (good : Nat → Bool) (left i : Nat) : leading good left i ≤ left := by
  induction left generalizing i with
  | zero => exact Nat.le_refl 0
  | succ left ih =>
    unfold leading
    split
    · exact Nat.succ_le_succ (ih (i + 1))
    · exact Nat.zero_le _

theorem copyItems_length {A : Type} (item : Nat → Option A) (left i : Nat) :
    (copyItems item left i).1.length = leading (fun i => (item i).isSome) left i := by
  induction left generalizing i with
  | zero => rfl
  | succ left ih =>
    unfold copyItems leading
    cases item i with
    | none => rfl
    | some x => simp [ih]

theorem copyItems_fault {A : Type} (item : Nat → Option A) (left i : Nat) :
    (copyItems item left i).2 = true ↔ leading (fun i => (item i).isSome) left i < left := by
  induction left generalizing i with
  | zero => simp [copyItems, leading]
  | succ left ih =>
    unfold copyItems leading
    cases item i with
    | none => simp
    | some x => simp [ih]

theorem recvLoop_length (received : Nat → Except Int PcanfdRxmsg) (left i : Nat) :
    (recvLoop received left i).1.length = leading (fun i => (received i).isOk) left i := by
  induction left generalizing i with
  | zero => rfl
  | succ left ih =>
    unfold recvLoop leading
    cases received i with
    | error err => rfl
    | ok rx => simp [ih, Except.isOk, Except.toBool]

theorem readFilters_chain (list : Nat → FilterElement) (chain : FilterChain) (left i : Nat) :
    (readFilters list chain left i).1 = addFilters chain ((List.range' i left).map list) := by
  induction left generalizing chain i with
  | zero => rfl
  | succ left ih =>
    simp only [readFilters, List.range'_succ, List.map_cons, addFilters]
    split
    · rfl
    · exact ih _ _

theorem readFilters_count (list : Nat → FilterElement) (chain : FilterChain) (left i : Nat) :
    (readFilters list (chainAfter list chain i) left i).2 =
      min (leading (fun i => (addFilter (chainAfter list chain i) (list i)).2 = 0) left i + 1) left := by
  induction left generalizing i with
  | zero => simp [readFilters]
  | succ left ih =>
    unfold readFilters leading
    by_cases taken : (addFilter (chainAfter list chain i) (list i)).2 = 0
    · have next := ih (i + 1)
      simp only [chainAfter] at next
      simp only [taken, ne_eq, not_true_eq_false, if_false, decide_true, if_true, next]
      omega
    · simp [taken]

theorem getFilters_count (count : Int) (filters : List FilterElement) (i : Nat) :
    (getFilters count filters i).2 = i + min filters.length (max 1 (count.toNat - i)) := by
  induction filters generalizing i with
  | nil => simp [getFilters]
  | cons filter rest ih =>
    unfold getFilters
    split
    · simp only [List.length_cons]
      omega
    · simp only [ih, List.length_cons]
      omega

end Loops

section Commands
variable {arg : ListArgument}

theorem listFits_iff {layout : ListLayout} {next : ListResult} {needed : Nat} (elem : 0 < layout.elem)
    (used : Allocates layout arg → next.touched = needed) :
    ListFits layout (allocateList layout arg next) ↔
      (Allocates layout arg → needed ≤ listRest layout arg.count / layout.elem) := by
  constructor
  · intro fits allocates
    have goesOn := (allocateList_block next (listRest layout arg.count)).mpr ⟨allocates, rfl⟩
    have enough := fits _ goesOn
    rw [allocateList_touched goesOn, used allocates] at enough
    exact (Nat.le_div_iff_mul_le elem).mpr enough
  · intro long bytes goesOn
    obtain ⟨allocates, rfl⟩ := (allocateList_block next bytes).mp goesOn
    rw [allocateList_touched goesOn, used allocates]
    exact (Nat.le_div_iff_mul_le elem).mp (long allocates)

theorem sendMsgs_fits_iff (item : Nat → Option PcanfdMsg) (send : List PcanfdMsg → Int) :
    ListFits pcanfdTxmsgs (handlePcanfdSendMsgs arg item send) ↔
      (Allocates pcanfdTxmsgs arg → LengthSuffices arg (.sendMsgs item send)) := by
  apply listFits_iff (by decide)
  intro _
  have length := copyItems_length item arg.count.toNat 0
  have fault := copyItems_fault item arg.count.toNat 0
  have bound := leading_le (fun i => (item i).isSome) arg.count.toNat 0
  simp only [ListCommand.needed, ← length] at fault bound ⊢
  split
  · have partly := fault.mp ‹_›
    simp only
    omega
  · have all := mt fault.mpr ‹_›
    simp only [copyCountBack]
    split <;> simp only <;> omega

theorem sendMsgs32_fits_iff (item : Nat → Option PcanfdMsg) (send : List PcanfdMsg → Int) :
    ListFits pcanfdTxmsgs (handlePcanfdSendMsgs32 arg item send) ↔
      (Allocates pcanfdTxmsgs arg → LengthSuffices arg (.sendMsgs32 item send)) := by
  apply listFits_iff (by decide)
  intro _
  simp only [ListCommand.needed, ← copyItems_length]
  split
  · rfl
  · simp only [copyCountBack]
    split <;> rfl

theorem recvMsgs_fits_iff (received : Nat → Except Int PcanfdRxmsg) (stored : Nat → Bool) :
    ListFits pcanfdRxmsgs (handlePcanfdRecvMsgs arg received stored) ↔
      (Allocates pcanfdRxmsgs arg → LengthSuffices arg (.recvMsgs received stored)) := by
  apply listFits_iff (by decide)
  intro _
  simp only [ListCommand.needed, ← recvLoop_length, pcanfdIoctlRecvMsgs]
  split <;> rfl

theorem addFilters_fits_iff (copy : FilterCopy) (handle : Option FilterChain) :
    ListFits pcanfdMsgFilters (addFiltersCommand arg copy handle) ↔
      (Allocates pcanfdMsgFilters arg → LengthSuffices arg (.addFilters copy handle)) := by
  apply listFits_iff (by decide)
  intro _
  simp only [ListCommand.needed]
  cases copied : copy.copied with
  | false => rfl
  | true =>
    cases handle with
    | none => rfl
    | some chain => exact readFilters_count copy.list chain copy.count.toInt.toNat 0

theorem getFilters_fits_iff (handle : Option FilterChain) :
    ListFits pcanfdMsgFilters (getFiltersCommand arg handle) ↔
      (Allocates pcanfdMsgFilters arg → LengthSuffices arg (.getFilters handle)) := by
  apply listFits_iff (by decide)
  intro _
  cases handle with
  | none =>
    simp only [copyCountBack]
    split <;> rfl
  | some chain =>
    have count := getFilters_count arg.count.toInt chain.anchor 0
    simp only [Nat.zero_add, Nat.sub_zero] at count
    simp only [copyCountBack, ListCommand.needed, ← count]
    split <;> rfl

end Commands

/-- The buffer of a list command holds the elements that the command uses exactly if its
    length has kept enough in 32 bits, or the command does not get a buffer at all. -/
theorem list_fits_iff (arg : ListArgument) (command : ListCommand) :
    ListFits command.layout (command.handle arg) ↔
      (Allocates command.layout arg → LengthSuffices arg command) := by
  cases command with
  | sendMsgs item send => exact sendMsgs_fits_iff item send
  | recvMsgs received stored => exact recvMsgs_fits_iff received stored
  | sendMsgs32 item send => exact sendMsgs32_fits_iff item send
  | recvMsgs32 received stored => exact recvMsgs_fits_iff received stored
  | addFilters copy handle => exact addFilters_fits_iff copy handle
  | getFilters handle => exact getFilters_fits_iff handle

theorem toInt_toNat_le (x : U32) : x.toInt.toNat ≤ x.toNat := by
  rw [BitVec.toInt_eq_toNat_cond]
  split <;> omega

theorem ListCommand.elem_pos (command : ListCommand) : 0 < command.layout.elem := by
  have sizes : 0 < pcanfdTxmsgs.elem ∧ 0 < pcanfdRxmsgs.elem ∧ 0 < pcanfdMsgFilters.elem := by decide
  cases command with
  | sendMsgs | sendMsgs32 => exact sizes.1
  | recvMsgs | recvMsgs32 => exact sizes.2.1
  | addFilters | getFilters => exact sizes.2.2

/-- Counts whose length fits in 32 bits are safe for every command, as long as the user does
    not ask for more filters in the second copy. -/
theorem list_fits_of_unwrapped (arg : ListArgument) (command : ListCommand)
    (unwrapped : listTotal command.layout arg.count < 2 ^ 32)
    (steady : ∀ copy handle, command = .addFilters copy handle → copy.count.toNat ≤ arg.count.toNat) :
    ListFits command.layout (command.handle arg) := by
  rw [list_fits_iff]
  intro allocates
  have room : arg.count.toNat ≤ listRest command.layout arg.count / command.layout.elem := by
    rw [Nat.le_div_iff_mul_le command.elem_pos, listRest, Nat.mod_eq_of_lt unwrapped, listTotal]
    exact Nat.le_add_left _ _
  refine Nat.le_trans ?_ room
  have counted : 0 < arg.count.toNat := by
    have nonzero := allocates.counted
    rw [ne_eq, ← BitVec.toNat_inj] at nonzero
    exact Nat.pos_of_ne_zero nonzero
  cases command with
  | sendMsgs => exact Nat.min_le_right _ _
  | recvMsgs => exact leading_le _ _ _
  | sendMsgs32 => exact leading_le _ _ _
  | recvMsgs32 => exact leading_le _ _ _
  | addFilters copy handle =>
    have fewer := Nat.le_trans (toInt_toNat_le copy.count) (steady copy handle rfl)
    simp only [ListCommand.needed]
    split
    · exact Nat.le_trans (Nat.min_le_right _ _) fewer
    · exact Nat.zero_le _
  | getFilters handle =>
    have signed := toInt_toNat_le arg.count
    cases handle with
    | none => exact Nat.zero_le _
    | some chain =>
      simp only [ListCommand.needed]
      omega

section Samples

def wrappingCount : ListArgument := ⟨true, 28256364, fun _ => true, true⟩

def oneMessage : Nat → Except Int PcanfdRxmsg
  | 0 => .ok PcanfdRxmsg.zero
  | _ => .error (-eagain)

theorem wrapped_length_overruns :
    (ListCommand.recvMsgs oneMessage fun _ => true).handle wrappingCount = ⟨0, some 40, 1⟩ ∧
      ¬ListFits pcanfdRxmsgs ((ListCommand.recvMsgs oneMessage fun _ => true).handle wrappingCount) := by
  have overruns : (ListCommand.recvMsgs oneMessage fun _ => true).handle wrappingCount =
      ⟨0, some 40, 1⟩ := by decide +kernel
  refine ⟨overruns, ?_⟩
  intro fits
  rw [overruns] at fits
  exact absurd (fits 40 rfl) (by decide)

end Samples

end PcanDriver

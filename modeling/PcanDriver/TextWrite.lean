import PcanDriver.IoctlCopy
import PcanDriver.TextParse

/-!
Commands written to the device as text (`pcan_write`, `pcan_write_line` of
`pcan_fops_linux.c`). The bytes of a write go into a buffer of the path, behind those that
are there; each line that the buffer then starts with is executed and taken out.
-/
namespace PcanDriver
open LineText

def writebufferSize : Nat := 512

section Lines
variable {D : Type}

/-- The ioctls that lines are made into. An operation meets the device as the one before has
    left it, with what has happened to it since: a state may hold both. -/
structure TextOperations (D : Type) where
  sendMsg : ParsedMsg → D → D × Int
  setInit : PcanfdInit → D → D × Int

inductive TextOp where
  | sendMsg (msg : ParsedMsg)
  | setInit (pfdi : PcanfdInit)
deriving DecidableEq

/-- The device after a line, the operations made to it with their results, the line's own
    result, and whether it is left in the buffer. -/
structure LineResult (D : Type) where
  dev : D
  performed : List (TextOp × Int)
  err : Int
  stays : Bool

/-- What `pcan_write_line` makes of the buffer's text. -/
def executeLine (ops : TextOperations D) (text : List U8) (dev : D) : LineResult D :=
  if pcanParseInputIdle text = 0 then ⟨dev, [], 0, false⟩
  else
    let parsed := pcanParseInputMessage text
    if parsed.1 ≠ 0 then
      match pcanParseInputInit text with
      | none => ⟨dev, [], -einval, true⟩
      | some fdi =>
        let done := ops.setInit fdi dev
        ⟨done.1, [(.setInit fdi, done.2)], done.2, done.2 ≠ 0⟩
    else
      let done := ops.sendMsg parsed.2 dev
      ⟨done.1, [(.sendMsg parsed.2, done.2)], done.2, done.2 ≠ 0 ∧ done.2 ≠ -enodata⟩

def lineOps (text : List U8) : List TextOp :=
  if pcanParseInputIdle text = 0 then []
  else
    let parsed := pcanParseInputMessage text
    if parsed.1 ≠ 0 then ((pcanParseInputInit text).map TextOp.setInit).toList
    else [.sendMsg parsed.2]

/-- Idle, rejected, a set of settings or a message: this is so whatever the device is. -/
theorem executeLine_cases (ops : TextOperations D) (text : List U8) :
    (lineOps text = [] ∧ ∀ dev, executeLine ops text dev = ⟨dev, [], 0, false⟩) ∨
    (lineOps text = [] ∧ ∀ dev, executeLine ops text dev = ⟨dev, [], -einval, true⟩) ∨
    (∃ fdi, lineOps text = [.setInit fdi] ∧ ∀ dev, executeLine ops text dev =
      ⟨(ops.setInit fdi dev).1, [(.setInit fdi, (ops.setInit fdi dev).2)],
        (ops.setInit fdi dev).2, (ops.setInit fdi dev).2 ≠ 0⟩) ∨
    (∃ msg, lineOps text = [.sendMsg msg] ∧ ∀ dev, executeLine ops text dev =
      ⟨(ops.sendMsg msg dev).1, [(.sendMsg msg, (ops.sendMsg msg dev).2)],
        (ops.sendMsg msg dev).2, (ops.sendMsg msg dev).2 ≠ 0 ∧
          (ops.sendMsg msg dev).2 ≠ -enodata⟩) := by
  unfold executeLine lineOps
  by_cases idle : pcanParseInputIdle text = 0
  · simp only [if_pos idle]
    exact .inl ⟨trivial, fun _ => trivial⟩
  · simp only [if_neg idle]
    by_cases message : (pcanParseInputMessage text).1 = 0
    · simp only [if_neg (not_not.mpr message)]
      exact .inr (.inr (.inr ⟨_, rfl, fun _ => rfl⟩))
    · simp only [if_pos message]
      cases pcanParseInputInit text with
      | none => exact .inr (.inl ⟨rfl, fun _ => rfl⟩)
      | some fdi => exact .inr (.inr (.inl ⟨fdi, rfl, fun _ => rfl⟩))

theorem executeLine_performed (ops : TextOperations D) (text : List U8) (dev : D) :
    (executeLine ops text dev).performed.map Prod.fst = lineOps text := by
  rcases executeLine_cases ops text with ⟨asks, done⟩ | ⟨asks, done⟩ | ⟨_, asks, done⟩ |
    ⟨_, asks, done⟩
  all_goals
    rw [done, asks]
    rfl

theorem executeLine_stays {ops : TextOperations D} {text : List U8} {dev : D}
    (fine : (executeLine ops text dev).err = 0) : (executeLine ops text dev).stays = false := by
  rcases executeLine_cases ops text with ⟨_, done⟩ | ⟨_, done⟩ | ⟨fdi, _, done⟩ | ⟨msg, _, done⟩
  · rw [done]
  · rw [done] at fine
    cases fine
  · rw [done] at fine ⊢
    exact decide_eq_false (not_not.mpr fine)
  · rw [done] at fine ⊢
    exact decide_eq_false fun refused => refused.1 fine

theorem executeLine_line (ops : TextOperations D) {body : List U8} (clean : newline ∉ body)
    (tail : List U8) (dev : D) :
    executeLine ops (body ++ newline :: tail) dev = executeLine ops (body ++ [newline]) dev := by
  unfold executeLine
  rw [pcanParseInputIdle_within body clean tail [], pcanParseInputMessage_within body clean tail [],
    pcanParseInputInit_within body clean tail []]

end Lines

section Paths
variable {D : Type}

/-- What a path and its device have of the writes, with the operations made and the values
    that `pcWritePointer` has had, as positions in `pcWriteBuffer`. -/
structure TextPath (D : Type) where
  buffer : List U8
  pointer : Nat
  dev : D
  performed : List (TextOp × Int)
  visited : List Nat
deriving DecidableEq

def TextPath.content (path : TextPath D) : List U8 := path.buffer.take path.pointer

def TextPath.point (path : TextPath D) (pointer : Nat) : TextPath D :=
  { path with pointer, visited := path.visited ++ [pointer] }

/-- `pcan_open`: the buffer is not cleared. -/
def TextPath.opened (buffer : List U8) (dev : D) : TextPath D := ⟨buffer, 0, dev, [], [0]⟩

/-- `pcan_write_line`; `ptr` is the position of the end of line. -/
def pcanWriteLine (ops : TextOperations D) (path : TextPath D) (ptr : Nat) : TextPath D × Int :=
  let amount := path.pointer - ptr - 1
  let offset := ptr + 1
  if writebufferSize < amount ∨ writebufferSize < offset then (path, -efault)
  else
    let r := executeLine ops path.buffer path.dev
    let path := { path with dev := r.dev, performed := path.performed ++ r.performed }
    if r.stays then (path, r.err)
    else
      ({ path with buffer := (path.buffer.drop offset).take amount ++ path.buffer.drop amount }.point
        (path.pointer - offset), r.err)

/-- The loop of `pcan_write`: no more rounds than there are bytes. -/
def pcanWriteLines (ops : TextOperations D) : Nat → TextPath D → TextPath D × Int
  | 0, path => (path, 0)
  | rounds + 1, path =>
    match path.content.findIdx? (· = newline) with
    | none => (path, 0)
    | some ptr =>
      let done := pcanWriteLine ops path ptr
      if done.2 ≠ 0 then done else pcanWriteLines ops rounds done.1

/-- A write: the user's memory, the address and the number of bytes, and whether the device
    is there (`pcan_get_dev_lock`). -/
structure WriteCall where
  user : UserMemory
  buf : Nat
  count : Nat
  present : Bool

def TextPath.room (path : TextPath D) : Nat := writebufferSize - path.pointer

def TextPath.copied (path : TextPath D) (call : WriteCall) : UserCopy :=
  copyFromUser call.user call.buf (min call.count path.room)

/-- The path with the bytes at its pointer, which is not moved. -/
def TextPath.store (path : TextPath D) (bytes : List U8) : TextPath D :=
  { path with buffer := path.buffer.take path.pointer ++ bytes ++
      path.buffer.drop (path.pointer + bytes.length) }

def pcanWrite (ops : TextOperations D) (path : TextPath D) (call : WriteCall) :
    TextPath D × Except Int Nat :=
  if !call.present then (path, .error (-enodev))
  else
    let c := path.copied call
    let stored := path.store c.bytes
    if c.fault then (stored, .error (-efault))
    else
      let done := pcanWriteLines ops (stored.pointer + c.bytes.length)
        (stored.point (stored.pointer + c.bytes.length))
      if done.2 ≠ 0 then (done.1, .error done.2)
      else if writebufferSize ≤ done.1.pointer then (done.1.point 0, .error (-einval))
      else (done.1, .ok c.bytes.length)

end Paths

section Reading
variable {D : Type}

/-- Lines handled one by one, nothing behind the first that ends with an error. -/
structure TextState (D : Type) where
  dev : D
  performed : List (TextOp × Int)
  failed : Bool

def executeOn (ops : TextOperations D) (s : TextState D) (line : List U8) : TextState D :=
  if s.failed then s
  else
    let r := executeLine ops line s.dev
    ⟨r.dev, s.performed ++ r.performed, r.err ≠ 0⟩

abbrev readText (ops : TextOperations D) (r : Reading (TextState D) U8) (text : List U8) :
    Reading (TextState D) U8 :=
  feedAll newline (executeOn ops) r text

def TextPath.state (path : TextPath D) : TextState D := ⟨path.dev, path.performed, false⟩

theorem executeOn_failed {ops : TextOperations D} {s : TextState D} (failed : s.failed = true)
    (line : List U8) : executeOn ops s line = s :=
  if_pos failed

theorem readText_failed {ops : TextOperations D} {r : Reading (TextState D) U8}
    (failed : r.state.failed = true) (text : List U8) :
    (readText ops r text).state.failed = true := by
  unfold readText feedAll
  induction text generalizing r with
  | nil => exact failed
  | cons c text ih =>
    refine ih ?_
    unfold feed
    split
    · rw [executeOn_failed failed]
      exact failed
    · exact failed

theorem executeOn_lines_failed {ops : TextOperations D} {s : TextState D}
    (failed : s.failed = true) (lines : List (List U8)) :
    (lines.foldl (executeOn ops) s).failed = true := by
  induction lines with
  | nil => exact failed
  | cons line lines ih =>
    rw [List.foldl_cons, executeOn_failed failed]
    exact ih

end Reading

section Steps
variable {D : Type} {ops : TextOperations D} {path : TextPath D}

structure TextPath.Fits (path : TextPath D) : Prop where
  size : path.buffer.length = writebufferSize
  inside : path.pointer ≤ writebufferSize
  always : ∀ pointer ∈ path.visited, pointer ≤ writebufferSize

theorem TextPath.Fits.content_length (fits : path.Fits) : path.content.length = path.pointer :=
  List.length_take_of_le (fits.size ▸ fits.inside)

theorem TextPath.opened_fits {buffer : List U8} (size : buffer.length = writebufferSize) (dev : D) :
    (TextPath.opened buffer dev).Fits :=
  ⟨size, Nat.zero_le _, by simp [TextPath.opened]⟩

def TextPath.executed (path : TextPath D) (r : LineResult D) : TextPath D :=
  { path with dev := r.dev, performed := path.performed ++ r.performed }

def TextPath.holding (path : TextPath D) (bytes : List U8) : TextPath D :=
  { path with buffer := bytes ++ path.buffer.drop bytes.length, pointer := bytes.length }

theorem TextPath.holding_content (path : TextPath D) (bytes : List U8) :
    (path.holding bytes).content = bytes := by
  unfold TextPath.content TextPath.holding
  exact List.take_left

/-- The path when the first line of its buffer has been executed and taken out. -/
def TextPath.taken (path : TextPath D) (r : LineResult D) (rest : List U8) : TextPath D :=
  ((path.executed r).holding rest).point rest.length

theorem TextPath.taken_content (path : TextPath D) (r : LineResult D) (rest : List U8) :
    (path.taken r rest).content = rest :=
  (path.executed r).holding_content rest

theorem TextPath.Fits.executed (fits : path.Fits) (r : LineResult D) : (path.executed r).Fits :=
  ⟨fits.size, fits.inside, fits.always⟩

theorem TextPath.Fits.holding (fits : path.Fits) {bytes : List U8}
    (short : bytes.length ≤ writebufferSize) : (path.holding bytes).Fits := by
  refine ⟨?_, short, fits.always⟩
  have size := fits.size
  simp only [TextPath.holding, List.length_append, List.length_drop]
  omega

theorem TextPath.Fits.point (fits : path.Fits) {pointer : Nat}
    (inside : pointer ≤ writebufferSize) : (path.point pointer).Fits := by
  refine ⟨fits.size, inside, ?_⟩
  intro p member
  rcases List.mem_append.mp member with earlier | last
  · exact fits.always p earlier
  · rw [List.mem_singleton.mp last]
    exact inside

theorem TextPath.Fits.taken (fits : path.Fits) (r : LineResult D) {rest : List U8}
    (short : rest.length ≤ writebufferSize) : (path.taken r rest).Fits :=
  ((fits.executed r).holding short).point short

/-- The first line of the buffer is executed; it is taken out, unless it stays. -/
theorem pcanWriteLine_first (fits : path.Fits) {body rest : List U8}
    (split : path.content = body ++ newline :: rest) (clean : newline ∉ body) :
    pcanWriteLine ops path body.length =
      (let r := executeLine ops (body ++ [newline]) path.dev
       (if r.stays then path.executed r else path.taken r rest, r.err)) := by
  have length := fits.content_length
  have inside := fits.inside
  rw [split, List.length_append, List.length_cons] at length
  have whole : path.buffer = body ++ newline :: (rest ++ path.buffer.drop path.pointer) := by
    rw [← List.cons_append, ← List.append_assoc, ← split]
    exact (List.take_append_drop _ _).symm
  have amount : path.pointer - body.length - 1 = rest.length := by omega
  have after : (path.buffer.drop (body.length + 1)).take rest.length = rest := by
    rw [whole, ← List.drop_drop, List.drop_left, List.drop_succ_cons, List.drop_zero,
      List.take_left]
  have pointer : path.pointer - (body.length + 1) = rest.length := by omega
  have same := executeLine_line ops clean (rest ++ path.buffer.drop path.pointer) path.dev
  rw [← whole] at same
  unfold pcanWriteLine
  simp only [amount]
  rw [if_neg (by omega), same, after, pointer]
  cases (executeLine ops (body ++ [newline]) path.dev).stays with
  | true => rfl
  | false => rfl

theorem executeOn_fine {line : List U8} (fine : (executeLine ops line path.dev).err = 0)
    (rest : List U8) :
    executeOn ops path.state line = (path.taken (executeLine ops line path.dev) rest).state := by
  simp only [executeOn, TextPath.state, Bool.false_eq_true, if_false, fine, ne_eq, not_true,
    decide_false]
  rfl

theorem executeOn_refused {line : List U8} (refused : (executeLine ops line path.dev).err ≠ 0) :
    (executeOn ops path.state line).failed = true := by
  simp only [executeOn, TextPath.state, Bool.false_eq_true, if_false]
  exact decide_eq_true refused

/-- The line that the buffer starts with ends with an error. -/
structure StartsRefused (ops : TextOperations D) (path : TextPath D) (body rest : List U8) :
    Prop where
  fits : path.Fits
  split : path.content = body ++ newline :: rest
  clean : newline ∉ body
  refused : (executeLine ops (body ++ [newline]) path.dev).err ≠ 0

theorem pcanWriteLines_read (fits : path.Fits) {rounds : Nat} (enough : path.pointer ≤ rounds) :
    let read := readText ops ⟨path.state, []⟩ path.content
    let done := pcanWriteLines ops rounds path
    (done.2 = 0 → done.1.Fits ∧ read = ⟨done.1.state, done.1.content⟩) ∧
      (done.2 ≠ 0 → read.state.failed = true ∧ ∃ found body rest,
        StartsRefused ops found body rest ∧ done = pcanWriteLine ops found body.length) := by
  induction rounds generalizing path with
  | zero =>
    have empty : path.content = [] := by
      rw [TextPath.content, Nat.le_zero.mp enough, List.take_zero]
    refine ⟨fun _ => ⟨fits, ?_⟩, fun wrong => absurd rfl wrong⟩
    simp only [pcanWriteLines, empty]
    rfl
  | succ rounds ih =>
    cases found : path.content.findIdx? (· = newline) with
    | none =>
      have clean : newline ∉ path.content := fun member => by
        simpa using List.findIdx?_eq_none_iff.mp found newline member
      simp only [pcanWriteLines, found]
      exact ⟨fun _ => ⟨fits, feedAll_clean clean _⟩, fun wrong => absurd rfl wrong⟩
    | some ptr =>
      obtain ⟨body, rest, split, clean, rfl⟩ := first_line found
      have length := fits.content_length
      rw [split, List.length_append, List.length_cons] at length
      have inside := fits.inside
      have line : readText ops ⟨path.state, []⟩ path.content =
          readText ops ⟨executeOn ops path.state (body ++ [newline]), []⟩ rest := by
        rw [split, readText, feedAll_line clean]
      have first := @pcanWriteLine_first D ops _ fits _ _ split clean
      simp only [pcanWriteLines, found, line]
      by_cases fine : (executeLine ops (body ++ [newline]) path.dev).err = 0
      · have next := fits.taken (executeLine ops (body ++ [newline]) path.dev)
          (show rest.length ≤ writebufferSize by omega)
        have step := ih next (show rest.length ≤ rounds by omega)
        rw [TextPath.taken_content, ← executeOn_fine fine] at step
        simpa only [first, fine, executeLine_stays fine, ne_eq, not_true, if_false,
          Bool.false_eq_true] using step
      · have ended : (pcanWriteLine ops path body.length).2 ≠ 0 := by
          rw [first]
          exact fine
        rw [if_pos ended]
        exact ⟨fun right => absurd right ended, fun _ =>
          ⟨readText_failed (executeOn_refused fine) rest, path, body, rest,
            ⟨fits, split, clean, fine⟩, rfl⟩⟩

theorem TextPath.Fits.store (fits : path.Fits) {bytes : List U8}
    (short : path.pointer + bytes.length ≤ writebufferSize) : (path.store bytes).Fits := by
  refine ⟨?_, fits.inside, fits.always⟩
  have size := fits.size
  simp only [TextPath.store, List.length_append, List.length_take, List.length_drop]
  omega

theorem TextPath.Fits.store_content (fits : path.Fits) (bytes : List U8) :
    (path.store bytes).content = path.content := by
  have length := fits.content_length
  unfold TextPath.content at length ⊢
  simp only [TextPath.store]
  rw [List.append_assoc, List.take_left' length]

theorem TextPath.Fits.point_content (fits : path.Fits) (bytes : List U8) :
    ((path.store bytes).point (path.pointer + bytes.length)).content = path.content ++ bytes := by
  have length := fits.content_length
  unfold TextPath.content at length ⊢
  simp only [TextPath.store, TextPath.point]
  rw [List.take_left' (by rw [List.length_append, length])]

theorem copied_length (path : TextPath D) (call : WriteCall) :
    (path.copied call).bytes.length = min call.count path.room := by
  simp only [TextPath.copied, copyFromUser, List.length_append, List.length_replicate,
    List.length_take]
  omega

theorem TextPath.Fits.copied_short (fits : path.Fits) (call : WriteCall) :
    path.pointer + (path.copied call).bytes.length ≤ writebufferSize := by
  have inside := fits.inside
  rw [copied_length, TextPath.room]
  omega

theorem pcanWrite_absent {call : WriteCall} (absent : call.present = false) :
    pcanWrite ops path call = (path, .error (-enodev)) := by
  unfold pcanWrite
  rw [absent]
  rfl

theorem pcanWrite_fault {call : WriteCall} (present : call.present = true)
    (fault : (path.copied call).fault = true) :
    pcanWrite ops path call = (path.store (path.copied call).bytes, .error (-efault)) := by
  unfold pcanWrite
  simp only [present, Bool.not_true, Bool.false_eq_true, if_false, fault, if_true]

/-- A write that has its bytes reads them behind what the buffer held, to its end; or it is
    one with an error, because of a line or of the room that is left. -/
theorem pcanWrite_read (fits : path.Fits) {call : WriteCall} (present : call.present = true)
    (copied : (path.copied call).fault = false) :
    let bytes := (path.copied call).bytes
    let read := readText ops ⟨path.state, []⟩ (path.content ++ bytes)
    let done := pcanWrite ops path call
    (done.2 = .ok bytes.length ∧ done.1.Fits ∧ read = ⟨done.1.state, done.1.content⟩) ∨
      ((∀ n, done.2 ≠ .ok n) ∧
        (read.state.failed = true ∨ writebufferSize ≤ read.pending.length)) := by
  intro bytes read done
  have pointed := (fits.store (fits.copied_short call)).point (fits.copied_short call)
  have loop := @pcanWriteLines_read D ops _ pointed (path.pointer + bytes.length) le_rfl
  have same : done = pcanWrite ops path call := rfl
  simp only [pcanWrite, present, Bool.not_true, Bool.false_eq_true, if_false, copied] at same
  rw [fits.point_content] at loop
  rcases lines : pcanWriteLines ops (path.pointer + bytes.length)
    ((path.store bytes).point (path.pointer + bytes.length)) with ⟨ended, err⟩
  rw [lines] at loop
  rw [show (path.store bytes).pointer = path.pointer from rfl, lines] at same
  by_cases fine : err = 0
  · obtain ⟨after, whole⟩ := loop.1 fine
    have whole : read = ⟨ended.state, ended.content⟩ := whole
    rw [if_neg (not_not.mpr fine)] at same
    by_cases full : writebufferSize ≤ ended.pointer
    · right
      rw [if_pos full] at same
      rw [same, whole, after.content_length]
      exact ⟨nofun, .inr full⟩
    · left
      rw [if_neg full] at same
      rw [same]
      exact ⟨rfl, after, whole⟩
  · right
    rw [if_pos fine] at same
    rw [same]
    exact ⟨nofun, .inl (loop.2 fine).1⟩

end Steps

end PcanDriver

import PcanDriver.TextWrite

/-!
Text that a caller writes in pieces, each time with some of what has not been consumed yet.
-/
namespace PcanDriver
open LineText
variable {D : Type}

section Writers

/-- A try to write the next bytes of a text: so many of those that are left, of which so many
    can be read at the caller's address. -/
structure WriteTry where
  count : Nat
  readable : Nat
  buf : Nat
  present : Bool

/-- The path, the bytes that have not been consumed, and the results of the calls. -/
structure Writer (D : Type) where
  path : TextPath D
  left : List U8
  results : List (Except Int Nat)

def WriteTry.call (t : WriteTry) (left : List U8) : WriteCall :=
  ⟨fun _ n => (left.take t.readable).take n, t.buf, min t.count left.length, t.present⟩

def consumed : Except Int Nat → Nat
  | .ok n => n
  | .error _ => 0

def writeNext (ops : TextOperations D) (w : Writer D) (t : WriteTry) : Writer D :=
  let done := pcanWrite ops w.path (t.call w.left)
  ⟨done.1, w.left.drop (consumed done.2), w.results ++ [done.2]⟩

def writeText (ops : TextOperations D) (path : TextPath D) (text : List U8)
    (tries : List WriteTry) : Writer D :=
  tries.foldl (writeNext ops) ⟨path, text, []⟩

end Writers

section Chunks
variable {ops : TextOperations D} {lines : List (List U8)} {start : TextState D} {w : Writer D}

/-- The path has read what has been consumed, as one text. -/
structure Follows (ops : TextOperations D) (start : TextState D) (text : List U8)
    (w : Writer D) : Prop where
  fits : w.path.Fits
  read : ∃ sofar, sofar ++ w.left = text ∧
    readText ops ⟨start, []⟩ sofar = ⟨w.path.state, w.path.content⟩
  results : ∀ r ∈ w.results, r ≠ .error (-einval)

theorem Follows.settled {text : List U8} (follows : Follows ops start text w) :
    newline ∉ w.path.content := by
  obtain ⟨sofar, _, read⟩ := follows.read
  have settled : newline ∉ (readText ops ⟨start, []⟩ sofar).pending :=
    feedAll_settled List.not_mem_nil sofar
  rwa [read] at settled

/-- What has been read of the lines, wherever they are cut: the end of the last is not far. -/
theorem readText_cut (each : ∀ line ∈ lines, IsLine newline line ∧ line.length ≤ writebufferSize)
    (executed : (lines.foldl (executeOn ops) start).failed = false) {sofar left : List U8}
    (cut : sofar ++ left = lines.flatten) :
    ∃ finished following unfinished, lines = finished ++ following ∧
      sofar = finished.flatten ++ unfinished ∧ (left = [] → following = []) ∧
      unfinished.length < writebufferSize ∧
      (finished.foldl (executeOn ops) start).failed = false ∧
      readText ops ⟨start, []⟩ sofar = ⟨finished.foldl (executeOn ops) start, unfinished⟩ := by
  obtain ⟨finished, following, unfinished, rfl, rfl, clean, empty, whole, short⟩ :=
    cut_lines (fun line member => (each line member).1) cut
  refine ⟨finished, following, unfinished, rfl, rfl, whole, ?_, ?_, ?_⟩
  · cases following with
    | nil =>
      rw [empty rfl]
      decide
    | cons line following =>
      have shorter := short line rfl
      have bounded := (each line (List.mem_append_right _ List.mem_cons_self)).2
      omega
  · rw [List.foldl_append] at executed
    by_contra failed
    rw [executeOn_lines_failed (Bool.eq_true_of_not_eq_false failed)] at executed
    cases executed
  · have front := fun line member => (each line (List.mem_append_left following member)).1
    rw [readText, feedAll_lines front, feedAll_clean clean]
    rfl

theorem copied_left {path : TextPath D} {t : WriteTry} {left : List U8}
    (copied : (path.copied (t.call left)).fault = false) :
    (path.copied (t.call left)).bytes = left.take (path.copied (t.call left)).bytes.length := by
  rw [copied_length]
  simp only [TextPath.copied, copyFromUser, WriteTry.call] at copied ⊢
  have all := Nat.le_of_not_lt (of_decide_eq_false copied)
  rw [Nat.sub_eq_zero_of_le all, List.replicate_zero, List.append_nil, List.take_take,
    List.take_take]
  simp only [List.length_take] at all
  congr 1
  omega

theorem Follows.step (each : ∀ line ∈ lines, IsLine newline line ∧ line.length ≤ writebufferSize)
    (executed : (lines.foldl (executeOn ops) start).failed = false)
    (follows : Follows ops start lines.flatten w) (t : WriteTry) :
    Follows ops start lines.flatten (writeNext ops w t) := by
  obtain ⟨sofar, split, read⟩ := follows.read
  have kept : ∀ r, r ≠ .error (-einval) → ∀ r' ∈ w.results ++ [r], r' ≠ .error (-einval) := by
    intro r fine r' member
    rcases List.mem_append.mp member with earlier | last
    · exact follows.results r' earlier
    · rwa [List.mem_singleton.mp last]
  simp only [writeNext]
  cases present : (t.call w.left).present with
  | false =>
    rw [pcanWrite_absent present]
    exact ⟨follows.fits, ⟨sofar, split, read⟩,
      kept _ fun same => absurd (Except.error.inj same) (by decide)⟩
  | true =>
    cases copied : (w.path.copied (t.call w.left)).fault with
    | true =>
      rw [pcanWrite_fault present copied]
      refine ⟨follows.fits.store (follows.fits.copied_short _), ⟨sofar, split, ?_⟩,
        kept _ fun same => absurd (Except.error.inj same) (by decide)⟩
      rw [follows.fits.store_content]
      exact read
    | false =>
      have bytes := copied_left copied
      generalize chunk : (w.path.copied (t.call w.left)).bytes = new at bytes
      have whole : (sofar ++ new) ++ w.left.drop new.length = lines.flatten := by
        rw [List.append_assoc, ← split]
        congr 1
        nth_rewrite 1 [bytes]
        exact List.take_append_drop _ _
      have joined : readText ops ⟨start, []⟩ (sofar ++ new) =
          readText ops ⟨w.path.state, []⟩ (w.path.content ++ new) := by
        simp only [readText, feedAll_append, feedAll_clean follows.settled, List.nil_append]
        exact congrArg (fun r => feedAll newline (executeOn ops) r new) read
      obtain ⟨finished, following, unfinished, -, -, -, short, fine, here⟩ :=
        readText_cut each executed whole
      have write := @pcanWrite_read D ops w.path follows.fits (t.call w.left) present copied
      dsimp only at write
      rw [chunk, ← joined, here] at write
      rcases write with ⟨result, fits, after⟩ | ⟨_, failed | full⟩
      · refine ⟨fits, ⟨sofar ++ new, ?_, here.trans after⟩, kept _ (by rw [result]; nofun)⟩
        rw [result]
        exact whole
      · exact absurd fine (ne_of_eq_of_ne failed (by decide))
      · exact absurd short (Nat.not_lt_of_le full)

end Chunks

section Guarantee

/-- However a text of lines that are executed without error is cut into calls, the path has
    executed its lines, one by one: those whose ends have been consumed, and at the end all. -/
theorem text_chunks_invisible (ops : TextOperations D) (dev : D) (lines : List (List U8))
    (each : ∀ line ∈ lines, IsLine newline line ∧ line.length ≤ writebufferSize)
    (executed : (lines.foldl (executeOn ops) ⟨dev, [], false⟩).failed = false)
    (buffer : List U8) (size : buffer.length = writebufferSize) (tries : List WriteTry) :
    let w := writeText ops (TextPath.opened buffer dev) lines.flatten tries
    (∀ pointer ∈ w.path.visited, pointer ≤ writebufferSize) ∧
      (∀ r ∈ w.results, r ≠ .error (-einval)) ∧
      ∃ finished following, lines = finished ++ following ∧
        finished.flatten ++ w.path.content ++ w.left = lines.flatten ∧
        newline ∉ w.path.content ∧ (w.left = [] → following = []) ∧
        w.path.state = finished.foldl (executeOn ops) ⟨dev, [], false⟩ := by
  intro w
  have opened : Follows ops ⟨dev, [], false⟩ lines.flatten
      ⟨TextPath.opened buffer dev, lines.flatten, []⟩ :=
    ⟨TextPath.opened_fits size dev, ⟨[], rfl, rfl⟩, nofun⟩
  have follows : Follows ops ⟨dev, [], false⟩ lines.flatten w :=
    List.foldlRecOn tries (writeNext ops) opened
      fun w follows t _ => Follows.step each executed follows t
  obtain ⟨sofar, split, read⟩ := follows.read
  obtain ⟨finished, following, unfinished, rfl, rfl, whole, -, -, here⟩ :=
    readText_cut each executed split
  have same := here.symm.trans read
  have state : finished.foldl (executeOn ops) ⟨dev, [], false⟩ = w.path.state :=
    congrArg Reading.state same
  have pending : unfinished = w.path.content := congrArg Reading.pending same
  refine ⟨follows.fits.always, follows.results, finished, following, rfl, ?_, follows.settled,
    whole, state.symm⟩
  rw [← split, ← pending]

end Guarantee

section Samples

def takingOperations : TextOperations Nat := ⟨fun _ n => (n + 1, 0), fun _ n => (n + 1, 0)⟩

def chunkLines : List (List U8) :=
  [ascii "# two commands\n", ascii " \n", ascii "i 0x001C e\n", ascii "m s 0x123 2 0x11 0xEE\n"]

/-- The second call meets a fault and the third no device. -/
def chunkTries : List WriteTry :=
  [⟨18, 100, 0, true⟩, ⟨9, 4, 0, true⟩, ⟨9, 9, 0, false⟩, ⟨30, 100, 0, true⟩, ⟨9, 9, 0, true⟩]

def chunkWriter : Writer Nat :=
  writeText takingOperations (TextPath.opened (List.replicate 512 0xff) 0) chunkLines.flatten
    chunkTries

theorem text_chunks_four_lines :
    (chunkWriter.left = [] ∧ chunkWriter.path.dev = 2) ∧
      (∀ pointer ∈ chunkWriter.path.visited, pointer ≤ writebufferSize) ∧
      (∀ r ∈ chunkWriter.results, r ≠ .error (-einval)) ∧
      ∃ finished following, chunkLines = finished ++ following ∧
        finished.flatten ++ chunkWriter.path.content ++ chunkWriter.left = chunkLines.flatten ∧
        newline ∉ chunkWriter.path.content ∧ (chunkWriter.left = [] → following = []) ∧
        chunkWriter.path.state = finished.foldl (executeOn takingOperations) ⟨0, [], false⟩ := by
  refine ⟨by decide +kernel, text_chunks_invisible takingOperations 0 chunkLines ?_
    (by decide +kernel) (List.replicate 512 0xff) (by decide +kernel) chunkTries⟩
  intro line member
  have shape : line = line.dropLast ++ [newline] ∧ newline ∉ line.dropLast ∧
      line.length ≤ writebufferSize := by
    revert line
    decide +kernel
  exact ⟨⟨line.dropLast, shape.2.1, shape.1⟩, shape.2.2⟩

end Samples

end PcanDriver

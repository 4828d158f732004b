import PcanDriver.TextWrite
import PcanDriver.TxPath

/-!
What is left behind by a write that ends with the error of a line. The line stays at the
start of the buffer, so that the next call executes it again.
-/
namespace PcanDriver
open LineText
variable {D : Type}

section LaterWrites

/-- A later call, and what has happened to the device since the one before. -/
structure LaterWrite (D : Type) where
  change : D → D
  call : WriteCall

structure Writes (D : Type) where
  path : TextPath D
  results : List (Except Int Nat)

def TextPath.changed (path : TextPath D) (change : D → D) : TextPath D :=
  { path with dev := change path.dev }

def nextWrite (ops : TextOperations D) (s : Writes D) (later : LaterWrite D) : Writes D :=
  let done := pcanWrite ops (s.path.changed later.change) later.call
  ⟨done.1, s.results ++ [done.2]⟩

def laterWrites (ops : TextOperations D) (path : TextPath D) (later : List (LaterWrite D)) :
    Writes D :=
  later.foldl (nextWrite ops) ⟨path, []⟩

/-- A call has found this line at the start of the buffer, and ended with its error. -/
structure FailsAt (ops : TextOperations D) (before : TextPath D) (call : WriteCall)
    (found : TextPath D) (body rest : List U8) : Prop extends StartsRefused ops found body rest where
  reported : pcanWrite ops before call =
    ((pcanWriteLine ops found body.length).1,
      .error (executeLine ops (body ++ [newline]) found.dev).err)

/-- Whatever is written later, the calls return and do what they would have without the line;
    so a line that is written once more is not sent more often. -/
def Recovers (ops : TextOperations D) (path without : TextPath D)
    (later : List (LaterWrite D)) : Prop :=
  ∀ n,
    let real := laterWrites ops path (later.take n)
    let asIf := laterWrites ops without (later.take n)
    real.results = asIf.results ∧ real.path.performed = asIf.path.performed ∧
      ∀ op, real.path.performed.count (op, 0) ≤ asIf.path.performed.count (op, 0)

end LaterWrites

section Refusals
variable {ops : TextOperations D} {path : TextPath D}

theorem executeLine_taken_iff {text : List U8} {dev : D}
    (refused : (executeLine ops text dev).err ≠ 0) : (executeLine ops text dev).stays = false ↔
      ∃ msg, lineOps text = [.sendMsg msg] ∧ (ops.sendMsg msg dev).2 = -enodata := by
  rcases executeLine_cases ops text with ⟨_, done⟩ | ⟨asks, done⟩ | ⟨fdi, asks, done⟩ |
    ⟨msg, asks, done⟩
  · rw [done] at refused
    exact absurd rfl refused
  · rw [done, asks]
    exact ⟨nofun, fun ⟨_, same, _⟩ => nomatch same⟩
  · rw [done] at refused ⊢
    rw [asks]
    refine ⟨fun taken => absurd refused (of_decide_eq_false taken), ?_⟩
    rintro ⟨_, same, _⟩
    cases same
  · rw [done] at refused ⊢
    rw [asks]
    constructor
    · intro taken
      refine ⟨msg, rfl, ?_⟩
      by_contra other
      exact of_decide_eq_false taken ⟨refused, other⟩
    · rintro ⟨_, same, answer⟩
      cases same
      exact decide_eq_false fun both => both.2 answer

/-- A line that asks for nothing ends the same way whatever the device is. -/
theorem executeLine_idle {text : List U8} (asks : lineOps text = [])
    (dev dev' : D) : (executeLine ops text dev).err = (executeLine ops text dev').err := by
  rcases executeLine_cases ops text with ⟨_, done⟩ | ⟨_, done⟩ | ⟨fdi, other, _⟩ | ⟨msg, other, _⟩
  · rw [done, done]
  · rw [done, done]
  · rw [asks] at other
    cases other
  · rw [asks] at other
    cases other
theorem readText_performed {s t : TextState D} (more : s.performed.length = t.performed.length + 1)
    (text : List U8) :
    (readText ops ⟨s, []⟩ text).state.failed = true ∨
      (readText ops ⟨t, []⟩ text).state.failed = true ∨
      (readText ops ⟨s, []⟩ text).state.performed.length =
        (readText ops ⟨t, []⟩ text).state.performed.length + 1 := by
  refine @feedAll_related U8 _ _ newline (executeOn ops) _ (executeOn ops)
    (fun s t => s.failed = true ∨ t.failed = true ∨
      s.performed.length = t.performed.length + 1) ?_ ⟨s, []⟩ ⟨t, []⟩ (.inr (.inr more)) rfl text
  intro s t line
  rintro (failed | failed | more)
  · exact .inl (by rwa [executeOn_failed failed])
  · exact .inr (.inl (by rwa [executeOn_failed failed]))
  · cases first : s.failed with
    | true => exact .inl (by rwa [executeOn_failed first])
    | false =>
      cases second : t.failed with
      | true => exact .inr (.inl (by rwa [executeOn_failed second]))
      | false =>
        refine .inr (.inr ?_)
        have asked := fun dev => congrArg List.length (executeLine_performed ops line dev)
        simp only [List.length_map] at asked
        simp only [executeOn, first, second, Bool.false_eq_true, if_false, List.length_append,
          asked]
        omega

theorem pcanWrite_ok (fits : path.Fits) {call : WriteCall} {n : Nat}
    (returned : (pcanWrite ops path call).2 = .ok n) :
    (path.copied call).bytes.length = n ∧
      readText ops ⟨path.state, []⟩ (path.content ++ (path.copied call).bytes) =
        ⟨(pcanWrite ops path call).1.state, (pcanWrite ops path call).1.content⟩ := by
  cases present : call.present with
  | false =>
    rw [pcanWrite_absent present] at returned
    cases returned
  | true =>
    cases copied : (path.copied call).fault with
    | true =>
      rw [pcanWrite_fault present copied] at returned
      cases returned
    | false =>
      rcases pcanWrite_read fits present copied with ⟨result, _, read⟩ | ⟨other, _⟩
      · exact ⟨Except.ok.inj (result.symm.trans returned), read⟩
      · exact absurd returned (other n)

theorem copied_same {left right : TextPath D} {call : WriteCall}
    (same : (left.copied call).bytes.length = (right.copied call).bytes.length) :
    (left.copied call).bytes = (right.copied call).bytes := by
  rw [copied_length, copied_length] at same
  simp only [TextPath.copied, same]

/-- A line that is refused asks for an operation, unless no device takes it. -/
theorem refused_asks {text : List U8} {dev dev' : D}
    (refused : (executeLine ops text dev).err ≠ 0) (fine : (executeLine ops text dev').err = 0) :
    (lineOps text).length = 1 := by
  rcases executeLine_cases ops text with ⟨asks, _⟩ | ⟨asks, _⟩ | ⟨fdi, asks, _⟩ | ⟨msg, asks, _⟩
  · exact absurd ((executeLine_idle asks dev dev').trans fine) refused
  · exact absurd ((executeLine_idle asks dev dev').trans fine) refused
  · rw [asks, List.length_singleton]
  · rw [asks, List.length_singleton]

/-- Where the refused line is still there, the next call differs from the one without it: it
    ends with an error, or it has made the line's operation too. -/
theorem refused_line_again {left without : TextPath D} {body rest : List U8} {dev : D}
    (fits : left.Fits) (fits' : without.Fits) (same : without.state = left.state)
    (split : left.content = body ++ newline :: rest) (split' : without.content = rest)
    (clean : newline ∉ body) (refused : (executeLine ops (body ++ [newline]) dev).err ≠ 0)
    (call : WriteCall) {n : Nat} (asIf : (pcanWrite ops without call).2 = .ok n)
    (real : (pcanWrite ops left call).2 = .ok n) :
    (pcanWrite ops left call).1.performed ≠ (pcanWrite ops without call).1.performed := by
  obtain ⟨length, read⟩ := pcanWrite_ok fits real
  obtain ⟨length', read'⟩ := pcanWrite_ok fits' asIf
  rw [split', same, ← copied_same (length.trans length'.symm)] at read'
  rw [split, List.append_assoc, List.cons_append, readText, feedAll_line clean] at read
  have unfailed := congrArg (fun r => r.state.failed) read
  have unfailed' := congrArg (fun r => r.state.failed) read'
  by_cases fine : (executeLine ops (body ++ [newline]) left.dev).err = 0
  · have asked := congrArg List.length (executeLine_performed ops (body ++ [newline]) left.dev)
    rw [List.length_map, refused_asks refused fine] at asked
    have more : (executeOn ops left.state (body ++ [newline])).performed.length =
        left.state.performed.length + 1 := by
      rw [executeOn_fine fine rest, ← asked, ← List.length_append]
      rfl
    rcases @readText_performed D ops _ _ more (rest ++ (left.copied call).bytes) with
      failed | failed | longer
    · exact absurd (unfailed.symm.trans failed) Bool.false_ne_true
    · exact absurd (unfailed'.symm.trans failed) Bool.false_ne_true
    · intro equal
      have lengths := congrArg List.length equal
      rw [show readText ops _ _ = _ from read, read'] at longer
      exact absurd (lengths.symm.trans longer) (Nat.succ_ne_self _).symm
  · have failed := @readText_failed D ops ⟨_, []⟩ (executeOn_refused fine)
      (rest ++ (left.copied call).bytes)
    exact absurd (unfailed.symm.trans failed) Bool.false_ne_true

end Refusals

section Failures
variable {ops : TextOperations D} {path : TextPath D}

theorem refused_line_found (fits : path.Fits) {call : WriteCall} (present : call.present = true)
    (copied : (path.copied call).fault = false)
    (refused : (readText ops ⟨path.state, []⟩
      (path.content ++ (path.copied call).bytes)).state.failed = true) :
    ∃ found body rest, FailsAt ops path call found body rest := by
  have pointed := (fits.store (fits.copied_short call)).point (fits.copied_short call)
  have loop := @pcanWriteLines_read D ops _ pointed
    (path.pointer + (path.copied call).bytes.length) le_rfl
  rw [fits.point_content] at loop
  have ended : (pcanWriteLines ops (path.pointer + (path.copied call).bytes.length)
      ((path.store (path.copied call).bytes).point
        (path.pointer + (path.copied call).bytes.length))).2 ≠ 0 := by
    intro fine
    have unfailed := congrArg (fun r => r.state.failed) (loop.1 fine).2
    exact Bool.false_ne_true (unfailed.symm.trans refused)
  obtain ⟨found, body, rest, starts, same⟩ := (loop.2 ended).2
  have first : (pcanWriteLine ops found body.length).2 =
      (executeLine ops (body ++ [newline]) found.dev).err :=
    congrArg Prod.snd (pcanWriteLine_first starts.fits starts.split starts.clean)
  refine ⟨found, body, rest, starts, ?_⟩
  rw [← first, ← same]
  simp only [pcanWrite, present, Bool.not_true, Bool.false_eq_true, if_false, copied]
  exact if_pos ended

theorem laterWrites_results (later : List (LaterWrite D)) (s : Writes D) :
    s.results ⊆ (later.foldl (nextWrite ops) s).results := by
  induction later generalizing s with
  | nil => exact List.Subset.refl _
  | cons first later ih =>
    exact List.Subset.trans (List.subset_append_left _ _) (ih (nextWrite ops s first))

theorem TextPath.Fits.changed (fits : path.Fits) (change : D → D) : (path.changed change).Fits :=
  ⟨fits.size, fits.inside, fits.always⟩

theorem TextPath.holding_taken (path : TextPath D) (r : LineResult D) (rest : List U8) :
    (path.taken r rest).holding rest = path.taken r rest := by
  simp only [TextPath.taken, TextPath.holding, TextPath.point, List.drop_left]

end Failures

section Guarantee

/-- After a call that has ended with the error of a line, where later calls succeed without the
    line, they do the same with it when there are none, or when the line was a message that the
    driver has answered with ENODATA. -/
theorem text_recovery_iff (ops : TextOperations D) {before found : TextPath D} {call : WriteCall}
    {body rest : List U8} (failure : FailsAt ops before call found body rest)
    (later : List (LaterWrite D))
    (accepted : ∀ r ∈ (laterWrites ops ((pcanWrite ops before call).1.holding rest) later).results,
      ∃ n, r = .ok n) :
    Recovers ops (pcanWrite ops before call).1 ((pcanWrite ops before call).1.holding rest) later ↔
      later = [] ∨
        ∃ msg, lineOps (body ++ [newline]) = [.sendMsg msg] ∧
          (ops.sendMsg msg found.dev).2 = -enodata := by
  obtain ⟨⟨fits, split, clean, refused⟩, reported⟩ := failure
  rw [pcanWriteLine_first fits split clean] at reported
  rw [← executeLine_taken_iff refused]
  rw [reported] at accepted ⊢
  have length := fits.content_length
  have inside := fits.inside
  rw [split, List.length_append, List.length_cons] at length
  cases stays : (executeLine ops (body ++ [newline]) found.dev).stays with
  | false =>
    simp only [stays, Bool.false_eq_true, if_false, or_true, iff_true]
    intro n
    rw [TextPath.holding_taken]
    exact ⟨rfl, rfl, fun _ => le_rfl⟩
  | true =>
    simp only [stays, if_true, Bool.true_eq_false, or_false] at accepted ⊢
    constructor
    · intro recovers
      cases later with
      | nil => rfl
      | cons first more =>
        obtain ⟨results, performed, -⟩ := recovers 1
        have asIf := accepted _ (laterWrites_results more _ (List.mem_singleton_self _))
        obtain ⟨n, asIf⟩ := asIf
        have real := (List.singleton_inj.mp results).trans asIf
        have left := fits.executed (executeLine ops (body ++ [newline]) found.dev)
        have without := left.holding (show rest.length ≤ writebufferSize by omega)
        exact absurd performed (refused_line_again (left.changed first.change)
          (without.changed first.change) rfl split (TextPath.holding_content _ rest) clean refused
          first.call asIf real)
    · rintro rfl n
      rw [List.take_nil]
      exact ⟨rfl, rfl, fun _ => le_rfl⟩

end Guarantee

section Samples

/-- A transmit FIFO with so many free slots that is sent from without waiting. -/
def slotOperations : TextOperations Nat :=
  ⟨fun _ free => if free = 0 then (free, -eagain) else (free - 1, 0), fun _ free => (free, 0)⟩

def textCall (text : List U8) : WriteCall := ⟨fun _ n => text.take n, 0, text.length, true⟩

def frameText : List U8 := ascii "m s 0x1 1 0x2"

def frameCall : WriteCall := textCall (frameText ++ [newline])

def slotPath : TextPath Nat := TextPath.opened (List.replicate 512 0) 0

/-- The path with the frame's line in its buffer. -/
def slotFound : TextPath Nat := (slotPath.store (frameText ++ [newline])).point 14

theorem slotFound_fails : FailsAt slotOperations slotPath frameCall slotFound frameText [] where
  fits := ⟨by decide +kernel, by decide +kernel, by decide +kernel⟩
  split := by decide +kernel
  clean := by decide +kernel
  refused := by decide +kernel
  reported := by decide +kernel

theorem text_recovery_slots :
    Recovers slotOperations (pcanWrite slotOperations slotPath frameCall).1
        ((pcanWrite slotOperations slotPath frameCall).1.holding []) [⟨fun _ => 2, frameCall⟩] ↔
      [(⟨fun _ => 2, frameCall⟩ : LaterWrite Nat)] = [] ∨
        ∃ msg, lineOps (frameText ++ [newline]) = [.sendMsg msg] ∧
          (slotOperations.sendMsg msg slotFound.dev).2 = -enodata := by
  refine text_recovery_iff slotOperations slotFound_fails _ ?_
  intro r member
  have result : (laterWrites slotOperations
      ((pcanWrite slotOperations slotPath frameCall).1.holding [])
      [⟨fun _ => 2, frameCall⟩]).results = [.ok 14] := by decide +kernel
  rw [result] at member
  exact ⟨14, List.mem_singleton.mp member⟩

/-- What a path without waiting makes of a message; the members that have not been parsed are
    zeros here. -/
def channelOperations : TextOperations (Pcandev Unit) where
  sendMsg pf dev :=
    let msg := { PcanfdMsg.zero with
      type := pf.type
      id := pf.id.getD 0
      flags := pf.flags
      dataLen := pf.dataLen.getD 0
      data := Vector.ofFn fun i => pf.data.getD i 0 }
    let sent := pcanfdIoctlSendMsg (fun dev => (dev, 0)) default default dev ⟨msg, ⟨0, 0⟩⟩ true
    (sent.1, match sent.2.2 with | .refused err => err | _ => 0)
  setInit _ dev := (dev, 0)

def fullChannel : Pcandev Unit :=
  { openedChannel () 4 2 pcanDevOpened with
    busState := .errorActive
    writeFifo := ⟨2, [⟨PcanfdMsg.zero, ⟨0, 0⟩⟩, ⟨PcanfdMsg.zero, ⟨0, 0⟩⟩], by decide⟩ }

def drained (dev : Pcandev Unit) : Pcandev Unit := { dev with writeFifo := .empty 2 }

/-- The path after a call with this text on the full FIFO. -/
def refusedPath (text : List U8) : TextPath (Pcandev Unit) :=
  (pcanWrite channelOperations (TextPath.opened (List.replicate 512 0) fullChannel)
    (textCall text)).1

def frameOp : TextOp := .sendMsg ⟨.can20Msg, 0, some 1, some 1, [2]⟩

/-- A frame that was refused with EAGAIN and is written again is sent twice; behind a line that
    the parsers reject, nothing is sent at all. -/
theorem refused_lines_stay :
    (pcanWrite channelOperations (TextPath.opened (List.replicate 512 0) fullChannel)
        frameCall).2 = .error (-eagain) ∧
      ¬Recovers channelOperations (refusedPath (frameText ++ [newline]))
        ((refusedPath (frameText ++ [newline])).holding []) [⟨drained, frameCall⟩] ∧
      (laterWrites channelOperations (refusedPath (frameText ++ [newline]))
        [⟨drained, frameCall⟩]).path.dev.writeFifo.items.length = 2 ∧
      ¬Recovers channelOperations (refusedPath (ascii "x\n"))
        ((refusedPath (ascii "x\n")).holding []) [⟨drained, frameCall⟩] ∧
      (laterWrites channelOperations (refusedPath (ascii "x\n"))
        [⟨drained, frameCall⟩]).path.dev.writeFifo.items = [] := by
  refine ⟨by decide +kernel, ?_, by decide +kernel, ?_, by decide +kernel⟩
  · intro recovers
    have sent := (recovers 1).2.2 frameOp
    revert sent
    decide +kernel
  · intro recovers
    have results := (recovers 1).1
    revert results
    decide +kernel

end Samples

end PcanDriver

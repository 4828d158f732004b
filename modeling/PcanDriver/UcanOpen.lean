import PcanDriver.UcanRegisters

/-!
What the functions that open and stop a channel of a PCAN-USB FD adapter do to its controller,
whatever transfers fail on the way.
-/
namespace PcanDriver
variable {P : Type}

section Steps
variable {bulk : Nat → Int} {fuel : Nat} {ch ch' : UcanChannel P} {regs regs' : UcanRegs} {err : Int}
  {calls : List BulkCall} {cmd : UcanCommand}
  {post post' : UcanChannel P → List BulkCall → UcanRegs → Prop}
  {step : Option (UcanChannel P × Int)} {next : UcanChannel P → Option (UcanChannel P × Int)}

/-- The buffer has room for a command, and the loops of the sending end. -/
structure UcanReady (fuel : Nat) (dev : UcanDev) : Prop where
  room : 8 ≤ dev.cmdSize
  enough : dev.cmdSize + 3 ≤ fuel

/-- A call that leaves the controller on the bus or off it as it was, with what holds if it
    returns 0. It returns 0 if no transfer fails. -/
structure UcanOutcome (ch : UcanChannel P) (regs : UcanRegs)
    (post : UcanChannel P → List BulkCall → UcanRegs → Prop) (ch' : UcanChannel P) (err : Int)
    (calls : List BulkCall) (regs' : UcanRegs) : Prop where
  told : ∃ cmds, ch.ucan.Told ch'.ucan calls cmds ∧ regs' = cmds.foldl UcanRegs.exec regs
  mode : regs'.mode = regs.mode
  busOn : ch'.dev.flags &&& pcanDevBusOn = ch.dev.flags &&& pcanDevBusOn
  done : err = 0 → post ch' calls regs'
  clean : ch.ucan.isPlugged → (∀ c ∈ calls, c.err = 0) → err = 0

def UcanSpec (ch : UcanChannel P) (regs : UcanRegs) (result : Option (UcanChannel P × Int))
    (post : UcanChannel P → List BulkCall → UcanRegs → Prop) : Prop :=
  ∃ ch' err calls regs', result = some (ch', err) ∧ UcanOutcome ch regs post ch' err calls regs'

/-- A step that did its work or left the controller alone, and that only if something went wrong. -/
structure LostOnlyIf (wrong : Prop) (ch : UcanChannel P) (regs after regs' : UcanRegs) : Prop where
  either : regs' = after ∨ regs' = regs
  kept : ch.ucan.isPlugged → ¬wrong → regs' = after

theorem UcanReady.told {dev dev' : UcanDev} {cmds : List UcanCommand} (ready : UcanReady fuel dev)
    (told : dev.Told dev' calls cmds) : UcanReady fuel dev' :=
  ⟨told.cmdSize ▸ ready.room, told.cmdSize ▸ ready.enough⟩

theorem UcanSpec.weaken (spec : UcanSpec ch regs step post)
    (weaker : ∀ ch' calls regs', post ch' calls regs' → post' ch' calls regs') :
    UcanSpec ch regs step post' := by
  obtain ⟨ch', err, calls, regs', result, outcome⟩ := spec
  exact ⟨ch', err, calls, regs', result, outcome.told, outcome.mode, outcome.busOn,
    fun zero => weaker ch' calls regs' (outcome.done zero), outcome.clean⟩

theorem UcanSpec.nothing (ch : UcanChannel P) (regs : UcanRegs) :
    UcanSpec ch regs (some (ch, 0)) fun ch' _ regs' => ch' = ch ∧ regs' = regs :=
  ⟨ch, 0, [], regs, rfl, ⟨[], .silent _ _, rfl⟩, rfl, rfl, fun _ => ⟨rfl, rfl⟩, fun _ _ => rfl⟩

theorem unlessFailed_ok (ok : ¬err ≠ 0) : unlessFailed (some (ch, err)) next = next ch := if_neg ok

theorem UcanSpec.andThen (ready : UcanReady fuel ch.ucan) (first : UcanSpec ch regs step post)
    (second : ∀ ch' calls regs', UcanReady fuel ch'.ucan → ch'.ucan.isPlugged = ch.ucan.isPlugged →
      post ch' calls regs' → UcanSpec ch' regs' (next ch')
        fun ch'' calls' regs'' => post' ch'' (calls ++ calls') regs'') :
    UcanSpec ch regs (unlessFailed step next) post' := by
  obtain ⟨ch', err, calls, regs', rfl, outcome⟩ := first
  obtain ⟨cmds, told, meant⟩ := outcome.told
  by_cases failed : err ≠ 0
  · exact ⟨ch', err, calls, regs', if_pos failed, outcome.told, outcome.mode, outcome.busOn,
      fun zero => absurd zero failed, outcome.clean⟩
  · obtain ⟨ch'', err', calls', regs'', result, later⟩ := second ch' calls regs' (ready.told told)
      told.isPlugged (outcome.done (not_not.mp failed))
    obtain ⟨cmds', told', meant'⟩ := later.told
    refine ⟨ch'', err', calls ++ calls', regs'', (if_neg failed).trans result,
      ⟨cmds ++ cmds', told.trans told', ?_⟩, later.mode.trans outcome.mode,
      later.busOn.trans outcome.busOn, later.done, fun present ok => later.clean ?_ fun c member =>
        ok c (List.mem_append_right _ member)⟩
    · rw [meant', meant, List.foldl_append]
    · rw [told.isPlugged]
      exact present

theorem command_sent (bulk : Nat → Int) {dev built : UcanDev} (ready : UcanReady fuel dev)
    (has : dev.Built built cmd) (small : cmd.opcode ≤ 0x3ff) :
    ∃ dev' err calls, pcanUsbfdSendUcanCmd bulk fuel built = some (dev', err) ∧
      dev.Told dev' calls (if err = 0 then [cmd] else []) ∧ (err = 0 → dev.isPlugged) ∧
      (dev.isPlugged → (∀ c ∈ calls, c.err = 0) → err = 0) := by
  obtain ⟨⟨head, cmdLen, rfl⟩, holds⟩ := has
  obtain ⟨dev', err, calls, sent, delivered⟩ := @usb_delivers
    { dev with cmdHead := head, cmdLen := cmdLen } [cmd] bulk fuel ready.room ready.enough
    (List.forall_mem_singleton.mpr small) holds
  refine ⟨dev', err, calls, delivered.ends, ?_, delivered.present, delivered.clean⟩
  have value : sent = if err = 0 then [cmd] else [] := by
    split
    · exact delivered.all ‹_›
    · exact delivered.single (Nat.le_refl _) ‹_›
  rw [← value]
  exact (UcanDev.Told.silent head cmdLen).trans delivered.told

theorem sendAdded_sent {added : UcanDev × Option Nat} {ucan : UcanDev} (fits : added.2 = some 0)
    (sent : pcanUsbfdSendUcanCmd bulk fuel added.1 = some (ucan, err)) (ch : UcanChannel P) :
    ch.sendAdded (pcanUsbfdUcanOps bulk fuel) added = some ({ ch with ucan := ucan }, err) := by
  unfold UcanChannel.sendAdded
  rw [fits]
  dsimp only [pcanUsbfdUcanOps]
  rw [sent]
  rfl

theorem UcanSpec.command {added : UcanDev × Option Nat} {dev : Pcandev P} {after : UcanRegs}
    (ready : UcanReady fuel ch.ucan) (has : ch.ucan.Built added.1 cmd) (fits : added.2 = some 0)
    (small : cmd.opcode ≤ 0x3ff) (meant : regs.exec cmd = after) (quiet : after.mode = regs.mode)
    (flags : dev.flags = ch.dev.flags) :
    UcanSpec ch regs (({ ch with dev := dev } : UcanChannel P).sendAdded (pcanUsbfdUcanOps bulk fuel) added)
      fun ch' _ regs' => ch.ucan.isPlugged ∧ ch'.dev = dev ∧ regs' = after := by
  obtain ⟨ucan, err, calls, sent, told, present, clean⟩ := command_sent bulk ready has small
  refine ⟨⟨dev, ucan⟩, err, calls, if err = 0 then after else regs, sendAdded_sent fits sent _,
    ⟨_, told, ?_⟩, ?_, by rw [flags], fun zero => ⟨present zero, rfl, if_pos zero⟩, clean⟩
  · split
    · exact meant.symm
    · rfl
  · split
    · exact quiet
    · rfl

end Steps

section Rows
variable {fuel : Nat} {dev : UcanDev} {group : List Nat}

/-- What a sending of rows comes to: the first of them, and all if it succeeds. -/
theorem rows_sent (bulk : Nat → Int) (ready : UcanReady fuel dev)
    (holds : dev.Holds (rowBytes dev.nChannel group)) :
    ∃ dev' err calls rows, pcanUsbfdSendUcanCmd bulk fuel dev = some (dev', err) ∧
      dev.Told dev' calls (rows.map filterRow) ∧ (err = 0 → rows = group) ∧
      (dev.isPlugged → (∀ c ∈ calls, c.err = 0) → err = 0) := by
  have small : ∀ cmd ∈ group.map filterRow, cmd.opcode ≤ 0x3ff := by
    intro cmd member
    obtain ⟨i, _, rfl⟩ := List.mem_map.mp member
    exact (by decide : ucanCmdSetStdFilter ≤ 0x3ff)
  obtain ⟨dev', err, calls, sent, delivered⟩ := usb_delivers bulk ready.room ready.enough small holds
  have rows : sent = (group.take sent.length).map filterRow := by
    rw [List.map_take]
    exact List.prefix_iff_eq_take.mp delivered.first
  refine ⟨dev', err, calls, group.take sent.length, delivered.ends, rows ▸ delivered.told,
    fun zero => ?_, delivered.clean⟩
  rw [delivered.all zero, List.length_map, List.take_length]

theorem filterRow_told (bulk : Nat → Int) (i rounds : Nat) (ready : UcanReady fuel dev)
    (holds : dev.Holds (rowBytes dev.nChannel group)) :
    ∃ dev' err calls rows waiting,
      ucanAddFilterRow (pcanUsbfdSendUcanCmd bulk fuel) i (rounds + 2) dev = some (dev', err) ∧
      dev.Told dev' calls (rows.map filterRow) ∧
      (err = 0 → rows ++ waiting = group ++ [i] ∧ dev'.Holds (rowBytes dev'.nChannel waiting)) ∧
      (dev.isPlugged → (∀ c ∈ calls, c.err = 0) → err = 0) := by
  rw [ucanAddFilterRow]
  by_cases fits : (rowBytes dev.nChannel group).length + 8 ≤ dev.cmdSize
  · obtain ⟨added, adds, head, cmdLen, frame, held⟩ := ucanAddCmd_row holds fits i
    rw [adds]
    dsimp only
    rw [frame] at held ⊢
    refine ⟨_, 0, [], [], group ++ [i], rfl, .silent _ _, fun _ => ⟨rfl, ?_⟩, fun _ _ => rfl⟩
    unfold rowBytes at held ⊢
    rw [List.map_append, List.flatMap_append]
    exact held
  · rw [ucanAddCmd_full holds (by omega)]
    dsimp only
    obtain ⟨dev', err, calls, rows, run, told, all, clean⟩ := rows_sent bulk ready holds
    rw [run]
    dsimp only
    by_cases failed : err ≠ 0
    · rw [if_pos failed]
      exact ⟨dev', err, calls, rows, [], rfl, told, fun zero => absurd zero failed, clean⟩
    · have zero := not_not.mp failed
      obtain ⟨added, adds, head, cmdLen, frame, held⟩ := ucanAddCmd_row (ucanInitCmd_holds dev')
        (ready.told told).room i
      rw [if_neg failed, ucanAddFilterRow, adds]
      dsimp only
      rw [frame] at held ⊢
      have silent := told.trans (UcanDev.Told.silent head cmdLen)
      rw [List.append_nil, List.append_nil] at silent
      exact ⟨_, 0, calls, rows, [i], rfl, silent, fun _ => ⟨by rw [all zero], held⟩, fun _ _ => rfl⟩

theorem filterRows_told (bulk : Nat → Int) (rows : List Nat) (ready : UcanReady fuel dev)
    (holds : dev.Holds (rowBytes dev.nChannel group)) :
    ∃ dev' err calls done,
      ucanAddFilterRows (pcanUsbfdSendUcanCmd bulk fuel) fuel rows dev = some (dev', err) ∧
      dev.Told dev' calls (done.map filterRow) ∧ (err = 0 → done = group ++ rows) ∧
      (dev.isPlugged → (∀ c ∈ calls, c.err = 0) → err = 0) := by
  induction rows generalizing dev group with
  | nil =>
    rw [List.append_nil]
    exact rows_sent bulk ready holds
  | cons i rows ih =>
    have enough := ready.enough
    obtain ⟨rounds, rounds_eq⟩ : ∃ rounds, fuel = rounds + 2 := ⟨fuel - 2, by omega⟩
    obtain ⟨dev', err, calls, sent, waiting, run, told, next, clean⟩ :=
      filterRow_told bulk i rounds ready holds
    rw [← rounds_eq] at run
    rw [ucanAddFilterRows, run]
    dsimp only
    by_cases failed : err ≠ 0
    · rw [if_pos failed]
      exact ⟨dev', err, calls, sent, rfl, told, fun zero => absurd zero failed, clean⟩
    · obtain ⟨order, held⟩ := next (not_not.mp failed)
      obtain ⟨dev'', last, later, done, run', told', all, clean'⟩ := ih (ready.told told) held
      rw [if_neg failed]
      have both := told.trans told'
      rw [← List.map_append] at both
      refine ⟨dev'', last, calls ++ later, sent ++ done, run', both, fun zero => ?_,
        fun present ok => clean' (told.isPlugged ▸ present) fun c member =>
          ok c (List.mem_append_right _ member)⟩
      rw [all zero, ← List.append_assoc, order, List.append_assoc, List.singleton_append]

/-- The rows let pass what they are for, and do nothing else. -/
theorem exec_rows (rows : List Nat) (regs : UcanRegs) :
    (rows.map filterRow).foldl UcanRegs.exec regs = { regs with
      stdFilter := rows.foldl (fun filter i => Function.update filter (BitVec.ofNat 8 i) 0xffffffff)
        regs.stdFilter } := by
  induction rows generalizing regs with
  | nil => rfl
  | cons i rows ih => rw [List.map_cons, List.foldl_cons, ih, exec_filterRow, List.foldl_cons]

theorem foldl_passes {rows : List Nat} {filter : U8 → U32} {row : U8}
    (asked : row ∈ rows.map (BitVec.ofNat 8) ∨ filter row = 0xffffffff) :
    rows.foldl (fun filter i => Function.update filter (BitVec.ofNat 8 i) 0xffffffff) filter row =
      0xffffffff := by
  induction rows generalizing filter with
  | nil => exact asked.resolve_left List.not_mem_nil
  | cons i rows ih =>
    rw [List.foldl_cons]
    apply ih
    by_cases here : row = BitVec.ofNat 8 i
    · right
      rw [here, Function.update_self]
    · rcases asked with member | before
      · rw [List.map_cons] at member
        exact .inl ((List.mem_cons.mp member).resolve_left here)
      · right
        rw [Function.update_of_ne here]
        exact before

end Rows

section Functions
variable {fuel : Nat} {ch : UcanChannel P} (bulk : Nat → Int) (ready : UcanReady fuel ch.ucan)
  (regs : UcanRegs)
include ready

theorem ucanClrErrCounters_spec :
    UcanSpec ch regs (ucanClrErrCounters (pcanUsbfdUcanOps bulk fuel) ch) fun ch' _ regs' =>
      ch.ucan.isPlugged ∧ ch'.dev = { ch.dev with txErrorCounter := 0, rxErrorCounter := 0 } ∧
        regs' = { regs with txCounter := 0, rxCounter := 0 } := by
  obtain ⟨built, adds, has⟩ := wrErrCnt_built ready.room (ucanWrerrcntTe ||| ucanWrerrcntRe) 0 0
  unfold ucanClrErrCounters
  rw [adds]
  exact UcanSpec.command ready has rfl (by decide : ucanCmdWrErrCnt ≤ 0x3ff)
    (exec_errCount regs) rfl rfl

theorem ucanSetOptions_spec (mask : U16) :
    UcanSpec ch regs (ucanSetOptions (pcanUsbfdUcanOps bulk fuel) ch mask) fun ch' _ regs' =>
      ch.ucan.isPlugged ∧ ch'.dev = ch.dev ∧
        regs' = { regs with options := regs.options ||| mask } := by
  obtain ⟨built, adds, has⟩ := setEnOption_built ready.room mask
  have meant := exec_setEnOption regs mask 0
  rw [show regs.usbOptions ||| 0 = regs.usbOptions from BitVec.or_zero] at meant
  unfold ucanSetOptions
  rw [adds]
  exact UcanSpec.command ready has rfl (by decide : ucanCmdSetEnOption ≤ 0x3ff) meant rfl rfl

theorem ucanClrOptions_spec (mask : U16) :
    UcanSpec ch regs (ucanClrOptions (pcanUsbfdUcanOps bulk fuel) ch mask) fun ch' _ regs' =>
      ch.ucan.isPlugged ∧ ch'.dev = ch.dev ∧
        regs' = { regs with options := regs.options &&& ~~~mask } := by
  obtain ⟨built, adds, has⟩ := clrDisOption_built ready.room mask
  have meant := exec_clrDisOption regs mask 0
  rw [show regs.usbOptions &&& ~~~0 = regs.usbOptions from BitVec.and_allOnes] at meant
  unfold ucanClrOptions
  rw [adds]
  exact UcanSpec.command ready has rfl (by decide : ucanCmdClrDisOption ≤ 0x3ff) meant rfl rfl

theorem ucanSetTimingSlowAt_spec (pbr : PcanBittiming) :
    UcanSpec ch regs (ucanSetTimingSlowAt (pcanUsbfdUcanOps bulk fuel) ch pbr) fun ch' _ regs' =>
      ch.ucan.isPlugged ∧ ch'.dev = ch.dev ∧
        regs' = { regs with slow := ucanAddCmdTimingSlow pbr } := by
  obtain ⟨built, adds, has⟩ := timingSlow_built ready.room pbr
  unfold ucanSetTimingSlowAt
  rw [adds]
  exact UcanSpec.command ready has rfl (by decide : ucanCmdTimingSlow ≤ 0x3ff)
    (exec_slow regs pbr) rfl rfl

theorem ucanSetTimingFast_spec (pbr : PcanBittiming) :
    UcanSpec ch regs (ucanSetTimingFast (pcanUsbfdUcanOps bulk fuel) ch pbr) fun ch' _ regs' =>
      ch.ucan.isPlugged ∧ ch'.dev = ch.dev ∧
        regs' = { regs with fast := ucanAddCmdTimingFast pbr } := by
  obtain ⟨built, adds, has⟩ := timingFast_built ready.room pbr
  unfold ucanSetTimingFast
  rw [adds]
  exact UcanSpec.command ready has rfl (by decide : ucanCmdTimingFast ≤ 0x3ff)
    (exec_fast regs pbr) rfl rfl

/-- The functions of the USB adapters send even without a command. -/
theorem usbOptions_spec {built : UcanDev} {cmd : UcanCommand} {after : UcanRegs}
    (has : ch.ucan.Built built cmd) (small : cmd.opcode ≤ 0x3ff) (meant : regs.exec cmd = after)
    (quiet : after.mode = regs.mode) :
    UcanSpec ch regs (((pcanUsbfdUcanOps bulk fuel).sendCmd built).map
      fun sent => ({ ch with ucan := sent.1 }, sent.2)) fun ch' _ regs' =>
        ch.ucan.isPlugged ∧ ch'.dev = ch.dev ∧ regs' = after := by
  have sent := @UcanSpec.command P bulk fuel ch regs cmd (built, some 0) ch.dev after ready has rfl
    small meant quiet rfl
  exact sent

theorem ucanUsbSetEnOption_spec (mask usbMask : U16) :
    UcanSpec ch regs (ucanUsbSetEnOption (pcanUsbfdUcanOps bulk fuel) ch mask usbMask)
      fun ch' _ regs' => ch.ucan.isPlugged ∧ ch'.dev = ch.dev ∧
        regs' = { regs with
          options := regs.options ||| mask, usbOptions := regs.usbOptions ||| usbMask } :=
  usbOptions_spec bulk ready regs (usbSetEnOption_built ready.room mask usbMask)
    (by decide : ucanCmdSetEnOption ≤ 0x3ff) (exec_setEnOption regs mask usbMask) rfl

theorem ucanUsbClrDisOption_spec (mask usbMask : U16) :
    UcanSpec ch regs (ucanUsbClrDisOption (pcanUsbfdUcanOps bulk fuel) ch mask usbMask)
      fun ch' _ regs' => ch.ucan.isPlugged ∧ ch'.dev = ch.dev ∧
        regs' = { regs with
          options := regs.options &&& ~~~mask, usbOptions := regs.usbOptions &&& ~~~usbMask } :=
  usbOptions_spec bulk ready regs (usbClrDisOption_built ready.room mask usbMask)
    (by decide : ucanCmdClrDisOption ≤ 0x3ff) (exec_clrDisOption regs mask usbMask) rfl

theorem ucanSetAllFilter_spec :
    UcanSpec ch regs (ucanSetAllFilter (pcanUsbfdUcanOps bulk fuel) ch fuel) fun ch' _ regs' =>
      ch'.dev = ch.dev ∧ ∃ filter, regs' = { regs with stdFilter := filter } ∧
        ∀ i < 64, filter (BitVec.ofNat 8 i) = 0xffffffff := by
  obtain ⟨ucan, err, calls, rows, run, told, all, clean⟩ := @filterRows_told fuel
    (ucanInitCmd ch.ucan) [] bulk (List.range 64) ⟨ready.room, ready.enough⟩
    (ucanInitCmd_holds ch.ucan)
  have silent := (UcanDev.Told.silent ch.ucan.cmdHead 0).trans told
  refine ⟨⟨ch.dev, ucan⟩, err, calls, _, ?_, ⟨_, silent, rfl⟩, ?_, rfl, fun zero => ⟨rfl, _,
    exec_rows rows regs, fun i inside => foldl_passes (.inl ?_)⟩, clean⟩
  · have started : ucanSetAllAcceptanceFilter (pcanUsbfdSendUcanCmd bulk fuel) fuel ch.ucan =
        some (ucan, err) := run
    unfold ucanSetAllFilter
    dsimp only [pcanUsbfdUcanOps]
    rw [started]
    rfl
  · rw [List.nil_append, exec_rows]
  · rw [all zero, List.nil_append]
    exact List.mem_map_of_mem (List.mem_range.mpr inside)

/-- A command whose result nobody looks at is lost only if a transfer fails. -/
theorem unheeded_spec {added : UcanDev × Option Nat} {cmd : UcanCommand} {after : UcanRegs}
    (has : ch.ucan.Built added.1 cmd) (fits : added.2 = some 0) (small : cmd.opcode ≤ 0x3ff)
    (meant : regs.exec cmd = after) (quiet : after.mode = regs.mode) :
    UcanSpec ch regs (unheeded (ch.sendAdded (pcanUsbfdUcanOps bulk fuel) added))
      fun ch' calls regs' => ch'.dev = ch.dev ∧
        LostOnlyIf (∃ c ∈ calls, c.err ≠ 0) ch regs after regs' := by
  obtain ⟨ucan, err, calls, sent, told, present, clean⟩ := command_sent bulk ready has small
  have result : unheeded (ch.sendAdded (pcanUsbfdUcanOps bulk fuel) added) =
      some ({ ch with ucan := ucan }, 0) := by
    rw [sendAdded_sent fits sent]
    rfl
  refine ⟨_, 0, calls, if err = 0 then after else regs, result, ⟨_, told, ?_⟩, ?_, rfl,
    fun _ => ⟨rfl, ?_, fun plugged none_ => if_pos (clean plugged fun c member => ?_)⟩, fun _ _ => rfl⟩
  · split
    · exact meant.symm
    · rfl
  · split
    · exact quiet
    · rfl
  · split
    · exact .inl rfl
    · exact .inr rfl
  · exact not_not.mp fun failed => none_ ⟨c, member, failed⟩

theorem ucanOption20ab_spec (set_ : Bool) :
    UcanSpec ch regs (unheeded (if set_ then ucanSetOptions (pcanUsbfdUcanOps bulk fuel) ch ucanOption20abMode
      else ucanClrOptions (pcanUsbfdUcanOps bulk fuel) ch ucanOption20abMode)) fun ch' calls regs' =>
        ch'.dev = ch.dev ∧ LostOnlyIf (∃ c ∈ calls, c.err ≠ 0) ch regs { regs with
          options := if set_ then regs.options ||| ucanOption20abMode
            else regs.options &&& ~~~ucanOption20abMode } regs' := by
  cases set_ with
  | true =>
    obtain ⟨built, adds, has⟩ := setEnOption_built ready.room ucanOption20abMode
    have meant := exec_setEnOption regs ucanOption20abMode 0
    rw [show regs.usbOptions ||| 0 = regs.usbOptions from BitVec.or_zero] at meant
    unfold ucanSetOptions
    rw [if_pos rfl, adds]
    exact unheeded_spec bulk ready regs has rfl (by decide : ucanCmdSetEnOption ≤ 0x3ff) meant rfl
  | false =>
    obtain ⟨built, adds, has⟩ := clrDisOption_built ready.room ucanOption20abMode
    have meant := exec_clrDisOption regs ucanOption20abMode 0
    rw [show regs.usbOptions &&& ~~~0 = regs.usbOptions from BitVec.and_allOnes] at meant
    unfold ucanClrOptions
    rw [if_neg Bool.false_ne_true, adds]
    exact unheeded_spec bulk ready regs has rfl (by decide : ucanCmdClrDisOption ≤ 0x3ff) meant rfl

end Functions

section Opening
variable {fuel : Nat} {ch : UcanChannel P} (bulk : Nat → Int) (ready : UcanReady fuel ch.ucan)
  (regs : UcanRegs)

structure FormatTold (pfdi : PcanfdInit) (ch : UcanChannel P) (calls : List BulkCall)
    (regs regs' : UcanRegs) : Prop where
  rest : regs' = { regs with fast := regs'.fast, options := regs'.options }
  fast : pfdi.flags &&& pcanfdInitFd ≠ 0 → regs'.fast = ucanAddCmdTimingFast pfdi.data
  iso : pfdi.flags &&& pcanfdInitFd ≠ 0 →
    (regs'.options &&& ucanOptionIsoMode ≠ 0 ↔ pfdi.flags &&& pcanfdInitFdNonIso = 0)
  can20ab : ch.ucan.isPlugged → (∀ c ∈ calls, c.err = 0) →
    (regs'.options &&& ucanOption20abMode ≠ 0 ↔ pfdi.flags &&& pcanfdInitFd = 0)

include ready in
theorem ucanOpenFormat_spec (pfdi : PcanfdInit) :
    UcanSpec ch regs (ucanOpenFormat (pcanUsbfdUcanOps bulk fuel) ch pfdi) fun ch' calls regs' =>
      ch'.dev = ch.dev ∧ FormatTold pfdi ch calls regs regs' := by
  unfold ucanOpenFormat
  by_cases fd : pfdi.flags &&& pcanfdInitFd ≠ 0
  · rw [if_pos fd]
    have iso : UcanSpec ch regs
        (if pfdi.flags &&& pcanfdInitFdNonIso ≠ 0
          then ucanClrOptions (pcanUsbfdUcanOps bulk fuel) ch ucanOptionIsoMode
          else ucanSetOptions (pcanUsbfdUcanOps bulk fuel) ch ucanOptionIsoMode)
        fun ch' _ regs' => ch'.dev = ch.dev ∧ regs' = { regs with options := regs'.options } ∧
          (regs'.options &&& ucanOptionIsoMode ≠ 0 ↔ pfdi.flags &&& pcanfdInitFdNonIso = 0) := by
      by_cases nonIso : pfdi.flags &&& pcanfdInitFdNonIso ≠ 0
      · rw [if_pos nonIso]
        refine (ucanClrOptions_spec bulk ready regs ucanOptionIsoMode).weaken ?_
        rintro ch' calls regs' ⟨_, dev, rfl⟩
        exact ⟨dev, rfl, iff_of_false (not_not.mpr (Masks.andNot_and_self _ _)) nonIso⟩
      · rw [if_neg nonIso]
        refine (ucanSetOptions_spec bulk ready regs ucanOptionIsoMode).weaken ?_
        rintro ch' calls regs' ⟨_, dev, rfl⟩
        refine ⟨dev, rfl, iff_of_true ?_ (not_not.mp nonIso)⟩
        rw [Masks.or_and_self]
        decide
    refine UcanSpec.andThen ready iso fun ch₁ calls₁ regs₁ ready₁ plug₁ ⟨dev₁, rest₁, iso₁⟩ => ?_
    refine UcanSpec.andThen ready₁ (ucanSetTimingFast_spec bulk ready₁ regs₁ pfdi.data)
      fun ch₂ calls₂ regs₂ ready₂ plug₂ ⟨_, dev₂, fast₂⟩ => ?_
    refine (ucanOption20ab_spec bulk ready₂ regs₂ false).weaken ?_
    rintro ch₃ calls₃ regs₃ ⟨dev₃, lost⟩
    refine ⟨dev₃.trans (dev₂.trans dev₁), ?_, fun _ => ?_, fun _ => ?_, fun plugged ok => ?_⟩
    · rw [fast₂] at lost
      rcases lost.either with rfl | rfl
      · rw [rest₁]
      · rw [rest₁]
    · rw [fast₂] at lost
      rcases lost.either with rfl | rfl <;> rfl
    · rw [fast₂] at lost
      rcases lost.either with rfl | rfl
      · rw [← iso₁]
        exact (congrArg (· ≠ 0) (Masks.andNot_and_of_disjoint _ (by decide))).to_iff
      · exact iso₁
    · have through := lost.kept (by rw [plug₂, plug₁]; exact plugged) fun ⟨c, member, failed⟩ =>
        failed (ok c (List.mem_append_right _ (List.mem_append_right _ member)))
      rw [through]
      exact iff_of_false (not_not.mpr (Masks.andNot_and_self _ _)) fd
  · rw [if_neg fd]
    refine (ucanOption20ab_spec bulk ready regs true).weaken ?_
    rintro ch' calls regs' ⟨dev, lost⟩
    refine ⟨dev, ?_, fun on => absurd on fd, fun on => absurd on fd, fun plugged ok => ?_⟩
    · rcases lost.either with rfl | rfl <;> rfl
    · have through := lost.kept plugged fun ⟨c, member, failed⟩ => failed (ok c member)
      rw [through]
      refine iff_of_true ?_ (not_not.mp fd)
      change (regs.options ||| ucanOption20abMode) &&& ucanOption20abMode ≠ 0
      rw [Masks.or_and_self]
      decide

/-- The controller has been told the settings, all but its clock and what it is to report. -/
structure SettingsTold (pfdi : PcanfdInit) (ch : UcanChannel P) (calls : List BulkCall)
    (regs regs' : UcanRegs) : Prop where
  clock : regs'.clock = regs.clock
  usbOptions : regs'.usbOptions = regs.usbOptions
  counters : regs'.txCounter = 0 ∧ regs'.rxCounter = 0
  slow : regs'.slow = ucanAddCmdTimingSlow pfdi.nominal
  fast : pfdi.flags &&& pcanfdInitFd ≠ 0 → regs'.fast = ucanAddCmdTimingFast pfdi.data
  iso : pfdi.flags &&& pcanfdInitFd ≠ 0 →
    (regs'.options &&& ucanOptionIsoMode ≠ 0 ↔ pfdi.flags &&& pcanfdInitFdNonIso = 0)
  can20ab : (∀ c ∈ calls, c.err = 0) →
    (regs'.options &&& ucanOption20abMode ≠ 0 ↔ pfdi.flags &&& pcanfdInitFd = 0)
  filter : ∀ i < 64, regs'.stdFilter (BitVec.ofNat 8 i) = 0xffffffff

/-- What the next opening of the bus looks at. -/
def ListenOnlyAs (pfdi : PcanfdInit) (ch : UcanChannel P) : Prop :=
  ch.dev.flags &&& pcanDevListenOnly ≠ 0 ↔ pfdi.flags &&& pcanfdInitListenOnly ≠ 0

theorem listenOnly_spec (ch : UcanChannel P) (pfdi : PcanfdInit) :
    UcanSpec ch regs (some ({ ch with dev := { ch.dev with
      flags := if pfdi.flags &&& pcanfdInitListenOnly ≠ 0 then ch.dev.flags ||| pcanDevListenOnly
        else ch.dev.flags &&& ~~~pcanDevListenOnly } }, 0))
      fun ch' _ regs' => ListenOnlyAs pfdi ch' ∧ regs' = regs := by
  refine ⟨_, 0, [], regs, rfl, ⟨[], .silent _ _, rfl⟩, rfl, ?_, fun _ => ⟨?_, rfl⟩, fun _ _ => rfl⟩
  · split
    · exact Masks.or_and_of_disjoint _ (by decide)
    · exact Masks.andNot_and_of_disjoint _ (by decide)
  · unfold ListenOnlyAs
    dsimp only
    split
    case isTrue listen =>
      refine iff_of_true ?_ listen
      rw [Masks.or_and_self]
      decide
    case isFalse normal => exact iff_of_false (not_not.mpr (Masks.andNot_and_self _ _)) normal

include ready in
theorem ucanOpenClocked_spec (pfdi : PcanfdInit) :
    UcanSpec ch regs (ucanOpenClocked (pcanUsbfdUcanOps bulk fuel) ch fuel pfdi)
      fun ch' calls regs' => ch.ucan.isPlugged ∧ ListenOnlyAs pfdi ch' ∧
        SettingsTold pfdi ch calls regs regs' := by
  unfold ucanOpenClocked
  refine UcanSpec.andThen ready (ucanClrErrCounters_spec bulk ready regs)
    fun ch₁ calls₁ regs₁ ready₁ plug₁ ⟨plugged, _, counters⟩ => ?_
  refine UcanSpec.andThen ready₁ (ucanOpenFormat_spec bulk ready₁ regs₁ pfdi)
    fun ch₂ calls₂ regs₂ ready₂ _ ⟨_, format⟩ => ?_
  refine UcanSpec.andThen ready₂ (ucanSetTimingSlowAt_spec bulk ready₂ regs₂ pfdi.nominal)
    fun ch₃ calls₃ regs₃ ready₃ _ ⟨_, _, slow⟩ => ?_
  refine UcanSpec.andThen ready₃ (ucanSetAllFilter_spec bulk ready₃ regs₃)
    fun ch₄ calls₄ regs₄ _ _ ⟨_, filter, filtered, passes⟩ => ?_
  refine (listenOnly_spec regs₄ ch₄ pfdi).weaken ?_
  rintro ch' calls regs' ⟨listen, rfl⟩
  have rest := format.rest
  subst filtered slow
  refine ⟨plugged, listen, ?_, ?_, ?_, rfl, format.fast, format.iso, fun ok => ?_, passes⟩
  · rw [rest, counters]
  · rw [rest, counters]
  · rw [rest, counters]
    exact ⟨rfl, rfl⟩
  · refine format.can20ab (by rw [plug₁]; exact plugged) fun c member => ok c ?_
    exact List.mem_append_right _ (List.mem_append_left _ member)

end Opening

section Complete
variable {fuel : Nat} {ch : UcanChannel P} (bulk : Nat → Int) (ready : UcanReady fuel ch.ucan)
  (regs : UcanRegs)

def ucanUsed (pfdi : PcanfdInit) : Option PcanfdInit :=
  if (ucanUsbClk pfdi.clockHz).isSome then some pfdi else ucanDefaultClock pfdi

theorem ucanDefaultClock_clockHz {pfdi used : PcanfdInit} (default : ucanDefaultClock pfdi = some used) :
    used.clockHz = 80 * mhz := by
  unfold ucanDefaultClock at default
  by_cases fd : pfdi.flags &&& pcanfdInitFd ≠ 0
  · simp only [if_pos fd, Option.bind_eq_bind, Option.bind_eq_some_iff] at default
    obtain ⟨nominal, _, data, _, made⟩ := default
    rw [← Option.some.inj made]
  · simp only [if_neg fd, Option.bind_eq_bind, Option.bind_eq_some_iff] at default
    obtain ⟨nominal, _, data, _, made⟩ := default
    rw [← Option.some.inj made]

theorem ucanUsed_clock {pfdi used : PcanfdInit} (uses : ucanUsed pfdi = some used) :
    ∃ mode, ucanUsbClk used.clockHz = some mode := by
  unfold ucanUsed at uses
  split at uses
  case isTrue known =>
    obtain rfl := Option.some.inj uses
    exact Option.isSome_iff_exists.mp known
  case isFalse =>
    rw [ucanDefaultClock_clockHz uses]
    exact ⟨0, by decide⟩

theorem ucanSetClockDomain_used {pfdi used : PcanfdInit} (uses : ucanUsed pfdi = some used) :
    ucanSetClockDomain (pcanUsbfdUcanOps bulk fuel) ch pfdi =
      (pcanUsbfdSetClkDomain (pcanUsbfdSendUcanCmd bulk fuel) ch.ucan used.clockHz).map
        fun set => ({ ch with ucan := set.1 }, set.2, used) := by
  unfold ucanSetClockDomain
  dsimp only [pcanUsbfdUcanOps]
  unfold ucanUsed at uses
  cases known : ucanUsbClk pfdi.clockHz with
  | some mode =>
    rw [known, Option.isSome_some, if_pos rfl] at uses
    obtain rfl := Option.some.inj uses
    unfold pcanUsbfdSetClkDomain
    rw [known]
    dsimp only
    cases ucanUsbSetClckDomain (pcanUsbfdSendUcanCmd bulk fuel) ch.ucan mode with
    | none => rfl
    | some sent => rfl
  | none =>
    rw [known, if_neg (by decide)] at uses
    have unset : pcanUsbfdSetClkDomain (pcanUsbfdSendUcanCmd bulk fuel) ch.ucan pfdi.clockHz =
        some (ch.ucan, -einval) := by
      unfold pcanUsbfdSetClkDomain
      rw [known]
    rw [unset, uses]
    rfl

include ready in
theorem clkDomain_spec {clockHz : U32} {mode : U8} (known : ucanUsbClk clockHz = some mode) :
    UcanSpec ch regs
      ((pcanUsbfdSetClkDomain (pcanUsbfdSendUcanCmd bulk fuel) ch.ucan clockHz).map
        fun set => ({ ch with ucan := set.1 }, set.2)) fun ch' calls regs' => ch'.dev = ch.dev ∧
          LostOnlyIf (∃ c ∈ calls, c.err ≠ 0) ch regs { regs with clock := mode } regs' := by
  obtain ⟨built, adds, has⟩ := clckDomain_built ready.room mode
  have spec := @unheeded_spec P fuel ch bulk ready regs (built, some 0) (clockCommand mode)
    { regs with clock := mode } has rfl (by decide : ucanUsbCmdClkSet ≤ 0x3ff) (exec_clock regs mode) rfl
  unfold pcanUsbfdSetClkDomain ucanUsbSetClckDomain
  rw [known]
  dsimp only
  rw [adds]
  unfold unheeded UcanChannel.sendAdded at spec
  dsimp only [pcanUsbfdUcanOps] at spec ⊢
  rw [Option.map_map] at spec ⊢
  exact spec

theorem pcanUsbfdOpenFd_used {pfdi used : PcanfdInit} (uses : ucanUsed pfdi = some used)
    (fastFwd : Bool) :
    pcanUsbfdOpenFd (pcanUsbfdUcanOps bulk fuel) ch fuel fastFwd pfdi =
      unlessFailed ((pcanUsbfdSetClkDomain (pcanUsbfdSendUcanCmd bulk fuel) ch.ucan used.clockHz).map
          fun set => ({ ch with ucan := set.1 }, set.2)) fun ch =>
        unlessFailed (ucanOpenClocked (pcanUsbfdUcanOps bulk fuel) ch fuel used) fun ch =>
        pcanUsbfdOpenComplete (pcanUsbfdUcanOps bulk fuel) ch fastFwd used 0 := by
  unfold pcanUsbfdOpenFd ucanDeviceOpenFd
  rw [ucanSetClockDomain_used bulk uses]
  cases pcanUsbfdSetClkDomain (pcanUsbfdSendUcanCmd bulk fuel) ch.ucan used.clockHz with
  | none => rfl
  | some set =>
    simp only [Option.map_some, unlessFailed]
    by_cases failed : set.2 ≠ 0
    · rw [if_pos failed, if_pos failed]
      exact if_pos failed
    · rw [if_neg failed, if_neg failed]
      cases ucanOpenClocked (pcanUsbfdUcanOps bulk fuel) ⟨ch.dev, set.1⟩ fuel used with
      | none => rfl
      | some opened =>
        simp only [Option.map_some]
        by_cases lost : opened.2 ≠ 0
        · rw [if_pos lost]
          exact if_pos lost
        · rw [if_neg lost, not_not.mp lost]

structure ReportsTold (pfdi : PcanfdInit) (fastFwd : Bool) (regs regs' : UcanRegs) : Prop where
  rest : regs' = { regs with options := regs'.options, usbOptions := regs'.usbOptions }
  iso : regs'.options &&& ucanOptionIsoMode = regs.options &&& ucanOptionIsoMode
  can20ab : regs'.options &&& ucanOption20abMode = regs.options &&& ucanOption20abMode
  errors : regs'.options &&& ucanOptionError ≠ 0
  busload : regs'.options &&& ucanOptionBusload ≠ 0 ↔ pfdi.flags &&& pcanfdInitBusLoadInfo ≠ 0
  forwards : regs'.usbOptions &&& ucanUsbOptionFastFwd ≠ 0 ↔ fastFwd = true

include ready in
theorem clearUnless_spec (keep : Prop) [Decidable keep] (mask usbMask : U16) :
    UcanSpec ch regs (if keep then some (ch, 0)
      else ucanUsbClrDisOption (pcanUsbfdUcanOps bulk fuel) ch mask usbMask) fun ch' _ regs' =>
        ch'.dev = ch.dev ∧ regs' = if keep then regs else { regs with
          options := regs.options &&& ~~~mask, usbOptions := regs.usbOptions &&& ~~~usbMask } := by
  by_cases kept : keep
  · simp only [if_pos kept]
    refine (UcanSpec.nothing ch regs).weaken ?_
    rintro ch' _ regs' ⟨rfl, rfl⟩
    exact ⟨rfl, rfl⟩
  · simp only [if_neg kept]
    refine (ucanUsbClrDisOption_spec bulk ready regs mask usbMask).weaken ?_
    rintro ch' _ regs' ⟨_, dev, after⟩
    exact ⟨dev, after⟩

theorem reports_options (options : U16) {asked : Prop} [Decidable asked] {optMask : U16}
    (masked : (if asked then ucanOptionError ||| ucanOptionBusload else ucanOptionError) = optMask)
    {after : U16} (after_eq : after = (if optMask &&& ucanOptionBusload ≠ 0 then options
      else options &&& ~~~ucanOptionBusload) ||| optMask) :
    after &&& ucanOptionIsoMode = options &&& ucanOptionIsoMode ∧
      after &&& ucanOption20abMode = options &&& ucanOption20abMode ∧
      after &&& ucanOptionError ≠ 0 ∧ (after &&& ucanOptionBusload ≠ 0 ↔ asked) := by
  subst after_eq masked
  by_cases on : asked
  · rw [if_pos on, if_pos (by decide)]
    refine ⟨Masks.or_and_of_disjoint _ (by decide), Masks.or_and_of_disjoint _ (by decide), ?_,
      iff_of_true ?_ on⟩
    · rw [BitVec.or_comm ucanOptionError, ← BitVec.or_assoc, Masks.or_and_self]
      decide
    · rw [← BitVec.or_assoc, Masks.or_and_self]
      decide
  · rw [if_neg on, if_neg (by decide)]
    refine ⟨?_, ?_, ?_, iff_of_false (not_not.mpr ?_) on⟩
    · rw [Masks.or_and_of_disjoint _ (by decide), Masks.andNot_and_of_disjoint _ (by decide)]
    · rw [Masks.or_and_of_disjoint _ (by decide), Masks.andNot_and_of_disjoint _ (by decide)]
    · rw [Masks.or_and_self]
      decide
    · rw [Masks.or_and_of_disjoint _ (by decide), Masks.andNot_and_self]

theorem reports_forwards (usbOptions : U16) (fastFwd : Bool) {after : U16}
    (after_eq : after = (if fastFwd then usbOptions else usbOptions &&& ~~~ucanUsbOptionFastFwd) |||
      if fastFwd then ucanUsbOptionFastFwd else 0) :
    after &&& ucanUsbOptionFastFwd ≠ 0 ↔ fastFwd = true := by
  subst after_eq
  cases fastFwd with
  | true =>
    refine iff_of_true ?_ rfl
    rw [if_pos rfl, if_pos rfl, Masks.or_and_self]
    decide
  | false =>
    refine iff_of_false (not_not.mpr ?_) Bool.false_ne_true
    rw [if_neg Bool.false_ne_true, if_neg Bool.false_ne_true,
      Masks.or_and_of_disjoint _ (by decide), Masks.andNot_and_self]

include ready in
theorem pcanUsbfdOpenComplete_spec (fastFwd : Bool) (pfdi : PcanfdInit) :
    UcanSpec ch regs (pcanUsbfdOpenComplete (pcanUsbfdUcanOps bulk fuel) ch fastFwd pfdi 0)
      fun ch' _ regs' => ch'.dev = ch.dev ∧ ReportsTold pfdi fastFwd regs regs' := by
  unfold pcanUsbfdOpenComplete
  rw [if_neg (not_not.mpr rfl)]
  dsimp only
  generalize masked : (if pfdi.flags &&& pcanfdInitBusLoadInfo ≠ 0 then
    ucanOptionError ||| ucanOptionBusload else ucanOptionError) = optMask
  refine UcanSpec.andThen ready
    (clearUnless_spec bulk ready regs (fastFwd = true) 0 ucanUsbOptionFastFwd)
    fun ch₁ calls₁ regs₁ ready₁ _ ⟨dev₁, after₁⟩ => ?_
  refine UcanSpec.andThen ready₁
    (clearUnless_spec bulk ready₁ regs₁ (optMask &&& ucanOptionBusload ≠ 0) ucanOptionBusload 0)
    fun ch₂ calls₂ regs₂ ready₂ _ ⟨dev₂, after₂⟩ => ?_
  refine (ucanUsbSetEnOption_spec bulk ready₂ regs₂ optMask _).weaken ?_
  rintro ch₃ calls₃ regs₃ ⟨_, dev₃, after₃⟩
  have same₁ : regs₁ = { regs with usbOptions := regs₁.usbOptions } := by
    rw [after₁]
    split
    · rfl
    · rw [show regs.options &&& ~~~0 = regs.options from BitVec.and_allOnes]
  have same₂ : regs₂ = { regs₁ with options := regs₂.options } := by
    rw [after₂]
    split
    · rfl
    · rw [show regs₁.usbOptions &&& ~~~0 = regs₁.usbOptions from BitVec.and_allOnes]
  have options : regs₃.options = (if optMask &&& ucanOptionBusload ≠ 0 then regs.options
      else regs.options &&& ~~~ucanOptionBusload) ||| optMask := by
    rw [after₃, after₂]
    split <;> rw [same₁]
  obtain ⟨iso, can20ab, errors, busload⟩ := reports_options regs.options masked options
  refine ⟨dev₃.trans (dev₂.trans dev₁), ?_, iso, can20ab, errors, busload, ?_⟩
  · rw [after₃, same₂, same₁]
  · have usb : regs₃.usbOptions = (if fastFwd then regs.usbOptions
        else regs.usbOptions &&& ~~~ucanUsbOptionFastFwd) |||
          if fastFwd then ucanUsbOptionFastFwd else 0 := by
      rw [after₃, same₂, after₁]
      split <;> rfl
    exact reports_forwards regs.usbOptions fastFwd usb

/-- The controller of a channel that has been opened. Its clock and the format of classic frames
    are as asked for unless a transfer failed: nobody looks at the results of these commands. -/
structure Configured (pfdi : PcanfdInit) (fastFwd : Bool) (calls : List BulkCall)
    (regs : UcanRegs) : Prop where
  counters : regs.txCounter = 0 ∧ regs.rxCounter = 0
  slow : regs.slow = ucanAddCmdTimingSlow pfdi.nominal
  fast : pfdi.flags &&& pcanfdInitFd ≠ 0 → regs.fast = ucanAddCmdTimingFast pfdi.data
  iso : pfdi.flags &&& pcanfdInitFd ≠ 0 →
    (regs.options &&& ucanOptionIsoMode ≠ 0 ↔ pfdi.flags &&& pcanfdInitFdNonIso = 0)
  filter : ∀ i < 64, regs.stdFilter (BitVec.ofNat 8 i) = 0xffffffff
  errors : regs.options &&& ucanOptionError ≠ 0
  busload : regs.options &&& ucanOptionBusload ≠ 0 ↔ pfdi.flags &&& pcanfdInitBusLoadInfo ≠ 0
  forwards : regs.usbOptions &&& ucanUsbOptionFastFwd ≠ 0 ↔ fastFwd = true
  heard : (∀ c ∈ calls, c.err = 0) → ucanUsbClk pfdi.clockHz = some regs.clock ∧
    (regs.options &&& ucanOption20abMode ≠ 0 ↔ pfdi.flags &&& pcanfdInitFd = 0)

/-- The mode is another matter, and more transfers can only fail more. -/
theorem Configured.withMode {pfdi : PcanfdInit} {fastFwd : Bool} {calls more : List BulkCall}
    {regs : UcanRegs} (configured : Configured pfdi fastFwd calls regs) (within : calls ⊆ more)
    (mode : UcanMode) : Configured pfdi fastFwd more { regs with mode := mode } where
  counters := configured.counters
  slow := configured.slow
  fast := configured.fast
  iso := configured.iso
  filter := configured.filter
  errors := configured.errors
  busload := configured.busload
  forwards := configured.forwards
  heard ok := configured.heard fun c member => ok c (within member)

include ready in
theorem pcanUsbfdOpenFd_spec {pfdi used : PcanfdInit} (uses : ucanUsed pfdi = some used)
    (fastFwd : Bool) :
    UcanSpec ch regs (pcanUsbfdOpenFd (pcanUsbfdUcanOps bulk fuel) ch fuel fastFwd pfdi)
      fun ch' calls regs' => ListenOnlyAs used ch' ∧ Configured used fastFwd calls regs' := by
  obtain ⟨mode, known⟩ := ucanUsed_clock uses
  rw [pcanUsbfdOpenFd_used bulk uses]
  refine UcanSpec.andThen ready (clkDomain_spec bulk ready regs known)
    fun ch₁ calls₁ regs₁ ready₁ plug₁ ⟨_, lost⟩ => ?_
  refine UcanSpec.andThen ready₁ (ucanOpenClocked_spec bulk ready₁ regs₁ used)
    fun ch₂ calls₂ regs₂ ready₂ _ ⟨plugged, listen, settings⟩ => ?_
  refine (pcanUsbfdOpenComplete_spec bulk ready₂ regs₂ fastFwd used).weaken ?_
  rintro ch₃ calls₃ regs₃ ⟨dev₃, reports⟩
  have rest := reports.rest
  refine ⟨by unfold ListenOnlyAs; rw [dev₃]; exact listen, ?_, ?_, ?_, ?_, ?_, reports.errors,
    reports.busload, reports.forwards, fun ok => ⟨?_, ?_⟩⟩
  · rw [rest]
    exact settings.counters
  · rw [rest]
    exact settings.slow
  · rw [rest]
    exact settings.fast
  · rw [reports.iso]
    exact settings.iso
  · rw [rest]
    exact settings.filter
  · have clocked := lost.kept (by rw [← plug₁]; exact plugged) fun ⟨c, member, failed⟩ =>
      failed (ok c (List.mem_append_left _ member))
    rw [rest, known]
    dsimp only
    rw [settings.clock, clocked]
  · rw [reports.can20ab]
    exact settings.can20ab fun c member =>
      ok c (List.mem_append_right _ (List.mem_append_left _ member))

end Complete

section Modes
variable {fuel : Nat} {ch : UcanChannel P} (bulk : Nat → Int) (ready : UcanReady fuel ch.ucan)
  (regs : UcanRegs)

def busMode (flags : U32) : UcanMode :=
  if flags &&& pcanDevBusOn = 0 then .reset
  else if flags &&& pcanDevListenOnly ≠ 0 then .listenOnly else .normal

theorem busMode_on (flags : U32) : busMode (flags ||| pcanDevBusOn) =
    if flags &&& pcanDevListenOnly ≠ 0 then .listenOnly else .normal := by
  unfold busMode
  rw [Masks.or_and_self, if_neg (by decide), Masks.or_and_of_disjoint _ (by decide)]

theorem busMode_off (flags : U32) : busMode (flags &&& ~~~pcanDevBusOn) = .reset :=
  if_pos (Masks.andNot_and_self _ _)

structure UcanModeSet (ch : UcanChannel P) (regs : UcanRegs) (flags : U32) (mode : UcanMode)
    (ch' : UcanChannel P) (err : Int) (calls : List BulkCall) (regs' : UcanRegs) : Prop where
  told : ∃ cmds, ch.ucan.Told ch'.ucan calls cmds ∧ regs' = cmds.foldl UcanRegs.exec regs
  set_ : err = 0 → ch'.dev.flags = flags ∧ regs' = { regs with mode := mode }
  unset : err ≠ 0 → ch'.dev = ch.dev ∧ regs' = regs
  clean : ch.ucan.isPlugged → (∀ c ∈ calls, c.err = 0) → err = 0

theorem UcanModeSet.agrees {regs regs' : UcanRegs} {flags : U32} {ch' : UcanChannel P} {err : Int}
    {calls : List BulkCall} (sets : UcanModeSet ch regs flags (busMode flags) ch' err calls regs')
    (before : regs.mode = busMode ch.dev.flags) : regs'.mode = busMode ch'.dev.flags := by
  by_cases zero : err = 0
  · obtain ⟨flags', after⟩ := sets.set_ zero
    rw [after, flags']
  · obtain ⟨dev, same⟩ := sets.unset zero
    rw [same, dev]
    exact before

include ready in
theorem mode_sent {added : UcanDev × Option Nat} {cmd : UcanCommand} {mode : UcanMode}
    (has : ch.ucan.Built added.1 cmd) (fits : added.2 = some 0) (small : cmd.opcode ≤ 0x3ff)
    (meant : regs.exec cmd = { regs with mode := mode }) (setFlags : U32 → U32) :
    ∃ ch' err calls regs',
      ((ch.sendAdded (pcanUsbfdUcanOps bulk fuel) added).map fun (ch, err) =>
        (if err = 0 then { ch with dev := { ch.dev with flags := setFlags ch.dev.flags } } else ch, err)) =
          some (ch', err) ∧ UcanModeSet ch regs (setFlags ch.dev.flags) mode ch' err calls regs' := by
  obtain ⟨ucan, err, calls, sent, told, _, clean⟩ := command_sent bulk ready has small
  rw [sendAdded_sent fits sent, Option.map_some]
  by_cases zero : err = 0
  · rw [if_pos zero] at told
    exact ⟨_, err, calls, { regs with mode := mode }, congrArg some (Prod.ext (if_pos zero) rfl),
      ⟨[cmd], told, meant.symm⟩, fun _ => ⟨rfl, rfl⟩, fun failed => absurd zero failed, clean⟩
  · rw [if_neg zero] at told
    exact ⟨_, err, calls, regs, congrArg some (Prod.ext (if_neg zero) rfl), ⟨[], told, rfl⟩,
      fun ok => absurd ok zero, fun _ => ⟨rfl, rfl⟩, clean⟩

include ready in
theorem ucanSetBusOffAt_spec : ∃ ch' err calls regs',
    ucanSetBusOffAt (pcanUsbfdUcanOps bulk fuel) ch = some (ch', err) ∧
      UcanModeSet ch regs (ch.dev.flags &&& ~~~pcanDevBusOn)
        (busMode (ch.dev.flags &&& ~~~pcanDevBusOn)) ch' err calls regs' := by
  obtain ⟨built, adds, has⟩ := resetMode_built ready.room
  rw [busMode_off]
  unfold ucanSetBusOffAt
  rw [adds]
  exact mode_sent bulk ready regs has rfl (by decide : ucanCmdResetMode ≤ 0x3ff) (exec_reset regs)
    fun flags => flags &&& ~~~pcanDevBusOn

include ready in
theorem ucanSetBusOn_spec : ∃ ch' err calls regs',
    ucanSetBusOn (pcanUsbfdUcanOps bulk fuel) ch = some (ch', err) ∧
      UcanModeSet ch regs (ch.dev.flags ||| pcanDevBusOn) (busMode (ch.dev.flags ||| pcanDevBusOn))
        ch' err calls regs' := by
  rw [busMode_on]
  unfold ucanSetBusOn
  by_cases listen : ch.dev.flags &&& pcanDevListenOnly ≠ 0
  · obtain ⟨built, adds, has⟩ := listenOnlyMode_built ready.room
    rw [if_pos listen, if_pos listen, adds]
    exact mode_sent bulk ready regs has rfl (by decide : ucanCmdListenOnlyMode ≤ 0x3ff)
      (exec_listenOnly regs) fun flags => flags ||| pcanDevBusOn
  · obtain ⟨built, adds, has⟩ := normalMode_built ready.room
    rw [if_neg listen, if_neg listen, adds]
    exact mode_sent bulk ready regs has rfl (by decide : ucanCmdNormalMode ≤ 0x3ff)
      (exec_normal regs) fun flags => flags ||| pcanDevBusOn

end Modes

section Calls
variable {fuel : Nat} {ch : UcanChannel P} (bulk : Nat → Int) (ready : UcanReady fuel ch.ucan)
  (regs : UcanRegs)

/-- A whole call: the controller stays in the mode that the flags stand for, and what else holds
    if it returns 0. -/
structure UcanCalled (ch : UcanChannel P) (regs : UcanRegs)
    (post : UcanChannel P → List BulkCall → UcanRegs → Prop) (ch' : UcanChannel P) (err : Int)
    (calls : List BulkCall) (regs' : UcanRegs) : Prop where
  told : ∃ cmds, ch.ucan.Told ch'.ucan calls cmds ∧ regs' = cmds.foldl UcanRegs.exec regs
  mode : regs.mode = busMode ch.dev.flags → regs'.mode = busMode ch'.dev.flags
  done : err = 0 → post ch' calls regs'
  clean : ch.ucan.isPlugged → (∀ c ∈ calls, c.err = 0) → err = 0

structure UcanOpened (pfdi : PcanfdInit) (fastFwd : Bool) (ch : UcanChannel P)
    (calls : List BulkCall) (regs : UcanRegs) : Prop where
  mode : regs.mode = if pfdi.flags &&& pcanfdInitListenOnly ≠ 0 then .listenOnly else .normal
  configured : Configured pfdi fastFwd calls regs

include ready in
theorem usbfdDeviceOpenFd_spec {pfdi used : PcanfdInit} (uses : ucanUsed pfdi = some used)
    (fastFwd : Bool) : ∃ ch' err calls regs',
      usbfdDeviceOpenFd (pcanUsbfdUcanOps bulk fuel) ch fuel fastFwd pfdi = some (ch', err) ∧
        UcanCalled ch regs (UcanOpened used fastFwd) ch' err calls regs' := by
  obtain ⟨ch₁, err₁, calls₁, regs₁, off, set₁⟩ := ucanSetBusOffAt_spec bulk ready regs
  obtain ⟨cmds₁, told₁, meant₁⟩ := set₁.told
  unfold usbfdDeviceOpenFd
  rw [off]
  by_cases failed₁ : err₁ ≠ 0
  · exact ⟨ch₁, err₁, calls₁, regs₁, if_pos failed₁, set₁.told, set₁.agrees,
      fun zero => absurd zero failed₁, set₁.clean⟩
  obtain ⟨flags₁, after₁⟩ := set₁.set_ (not_not.mp failed₁)
  have ready₁ := ready.told told₁
  obtain ⟨ch₂, err₂, calls₂, regs₂, opened, outcome⟩ :=
    pcanUsbfdOpenFd_spec bulk ready₁ regs₁ uses fastFwd
  obtain ⟨cmds₂, told₂, meant₂⟩ := outcome.told
  have mode₂ : regs₂.mode = busMode ch₂.dev.flags := by
    have cleared : ch₂.dev.flags &&& pcanDevBusOn = 0 := by
      rw [outcome.busOn, flags₁]
      exact Masks.andNot_and_self _ _
    rw [outcome.mode, after₁]
    exact (busMode_off _).trans (if_pos cleared).symm
  have clean₂ : ch.ucan.isPlugged → (∀ c ∈ calls₁ ++ calls₂, c.err = 0) → err₂ = 0 :=
    fun present ok => outcome.clean (told₁.isPlugged ▸ present) fun c member =>
      ok c (List.mem_append_right _ member)
  rw [unlessFailed_ok failed₁, opened]
  by_cases failed₂ : err₂ ≠ 0
  · refine ⟨ch₂, err₂, calls₁ ++ calls₂, regs₂, if_pos failed₂, ⟨_, told₁.trans told₂, ?_⟩,
      fun _ => mode₂, fun zero => absurd zero failed₂, clean₂⟩
    rw [meant₂, meant₁, List.foldl_append]
  obtain ⟨ch₃, err₃, calls₃, regs₃, on, set₃⟩ := ucanSetBusOn_spec bulk (ready₁.told told₂) regs₂
  obtain ⟨cmds₃, told₃, meant₃⟩ := set₃.told
  obtain ⟨listen, configured⟩ := outcome.done (not_not.mp failed₂)
  refine ⟨ch₃, err₃, (calls₁ ++ calls₂) ++ calls₃, regs₃, (if_neg failed₂).trans on,
    ⟨_, (told₁.trans told₂).trans told₃, ?_⟩, fun _ => set₃.agrees mode₂, fun zero => ⟨?_, ?_⟩,
    fun present ok => set₃.clean ?_ fun c member => ok c (List.mem_append_right _ member)⟩
  · rw [meant₃, meant₂, meant₁, List.foldl_append, List.foldl_append]
  · obtain ⟨_, after₃⟩ := set₃.set_ zero
    rw [after₃]
    dsimp only
    rw [busMode_on]
    exact if_congr listen rfl rfl
  · obtain ⟨_, after₃⟩ := set₃.set_ zero
    rw [after₃]
    exact configured.withMode (fun c member =>
      List.mem_append_left _ (List.mem_append_right _ member)) _
  · rw [told₂.isPlugged, told₁.isPlugged]
    exact present

include ready in
theorem quiet_sent {built : UcanDev} {cmd : UcanCommand} (has : ch.ucan.Built built cmd)
    (small : cmd.opcode ≤ 0x3ff) (quiet : (regs.exec cmd).mode = regs.mode) :
    ∃ ucan err calls regs', (((pcanUsbfdUcanOps bulk fuel).sendCmd built).map fun sent =>
        (({ ch with ucan := sent.1 } : UcanChannel P), sent.2)) = some ({ ch with ucan := ucan }, err) ∧
      UcanCalled ch regs (fun _ _ _ => True) { ch with ucan := ucan } err calls regs' ∧
      regs'.mode = regs.mode := by
  obtain ⟨ucan, err, calls, sent, told, _, clean⟩ := command_sent bulk ready has small
  have kept : ((if err = 0 then [cmd] else []).foldl UcanRegs.exec regs).mode = regs.mode := by
    split
    · exact quiet
    · rfl
  refine ⟨ucan, err, calls, _, ?_, ⟨⟨_, told, rfl⟩, fun mode => kept.trans mode, fun _ => trivial,
    clean⟩, kept⟩
  dsimp only [pcanUsbfdUcanOps]
  rw [sent]
  rfl

include ready in
theorem usbfdStop_spec (fastFwd : Bool) : ∃ ch' err calls regs',
    usbfdStop (pcanUsbfdUcanOps bulk fuel) ch fastFwd = some (ch', err) ∧
      UcanCalled ch regs (fun _ _ _ => True) ch' err calls regs' := by
  have nothing : UcanCalled ch regs (fun _ _ _ => True) ch 0 [] regs :=
    ⟨⟨[], .silent _ _, rfl⟩, id, fun _ => trivial, fun _ _ => rfl⟩
  unfold usbfdStop
  by_cases cleaned : ch.dev.flags &&& pcanDevCleaned ≠ 0
  · exact ⟨ch, 0, [], regs, if_pos cleaned, nothing⟩
  rw [if_neg cleaned]
  by_cases unopened : ch.dev.flags &&& pcanDevOpened = 0
  · exact ⟨ch, 0, [], regs, if_pos unopened, nothing⟩
  rw [if_neg unopened]
  obtain ⟨ucan, err₁, calls₁, regs₁, closed, called, quiet⟩ := quiet_sent bulk ready regs
    (usbClrDisOption_built ready.room (ucanOptionError ||| ucanOptionBusload)
      (if fastFwd then ucanUsbOptionFastFwd else 0)) (by decide : ucanCmdClrDisOption ≤ 0x3ff)
    (by rw [exec_clrDisOption])
  obtain ⟨cmds₁, told₁, meant₁⟩ := called.told
  obtain ⟨ch₂, err₂, calls₂, regs₂, off, set₂⟩ :=
    @ucanSetBusOffAt_spec P fuel { ch with ucan := ucan } bulk (ready.told told₁) regs₁
  obtain ⟨cmds₂, told₂, meant₂⟩ := set₂.told
  unfold usbfdClose ucanUsbClrDisOption
  rw [closed]
  refine ⟨ch₂, err₂, calls₁ ++ calls₂, regs₂, off, ⟨_, told₁.trans told₂, ?_⟩,
    fun mode => set₂.agrees (quiet.trans mode), fun _ => trivial, fun present ok => set₂.clean
      (told₁.isPlugged ▸ present) fun c member => ok c (List.mem_append_right _ member)⟩
  rw [meant₂, meant₁, List.foldl_append]

end Calls

end PcanDriver

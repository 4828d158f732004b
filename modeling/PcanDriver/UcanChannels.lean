import PcanDriver.Lib.StepSystem
import PcanDriver.UcanOpen

/-!
The channels of a PCAN-USB FD adapter and its controllers: runs of openings, stops and other
commands on any of them.
-/
namespace PcanDriver
open CommandStream StepSystem
variable {P : Type}

section System
variable {n : Nat}

/-- The channels of an adapter and its controllers. -/
structure UcanUsb (P : Type) (n : Nat) where
  channels : Fin n → UcanChannel P
  regs : Nat → UcanRegs

inductive UcanUsbCall where
  | openFd (pfdi : PcanfdInit)
  | stop
  | setCanLed (mode : U8)
  | setDeviceNr (deviceNr : U32)

def UcanUsbCall.perform (call : UcanUsbCall) (bulk : Nat → Int) (fastFwd : Bool)
    (ch : UcanChannel P) : Option (UcanChannel P × Int) :=
  let fuel := ch.ucan.cmdSize + 3
  let ops := pcanUsbfdUcanOps bulk fuel
  match call with
  | .openFd pfdi => usbfdDeviceOpenFd ops ch fuel fastFwd pfdi
  | .stop => usbfdStop ops ch fastFwd
  | .setCanLed mode => ucanUsbSetCanLed ops ch mode
  | .setDeviceNr deviceNr => pcanUsbfdSetDeviceNr ops ch deviceNr

def pcanDevBusFlags : U32 := pcanDevBusOn ||| pcanDevListenOnly

def UcanChannel.driven (ch : UcanChannel P) (effect : Pcandev P → Pcandev P) : UcanChannel P :=
  { ch with dev := { effect ch.dev with
    flags := (effect ch.dev).flags &&& ~~~pcanDevBusFlags ||| ch.dev.flags &&& pcanDevBusFlags } }

inductive UcanUsbEvent (P : Type) (n : Nat) where
  | call (c : Fin n) (bulk : Nat → Int) (call : UcanUsbCall)
  | driver (c : Fin n) (effect : Pcandev P → Pcandev P)
  | plugOut

def UcanUsb.newCalls (s s' : UcanUsb P n) (c : Fin n) : List BulkCall :=
  (s'.channels c).ucan.bulks.drop (s.channels c).ucan.bulks.length

/-- The adapter executes what gets through. The output is what a call returns, if it does. -/
def UcanUsb.step (fastFwd : Bool) (s : UcanUsb P n) : UcanUsbEvent P n → UcanUsb P n × Option Int
  | .call c bulk call =>
    match call.perform bulk fastFwd (s.channels c) with
    | none => (s, none)
    | some (ch, err) =>
      let told := { s with channels := Function.update s.channels c ch }
      ({ told with regs := ucanExecute s.regs (transferred (s.newCalls told c)) }, some err)
  | .driver c effect =>
    ({ s with channels := Function.update s.channels c ((s.channels c).driven effect) }, some 0)
  | .plugOut =>
    ({ s with channels := fun c =>
      { s.channels c with ucan := { (s.channels c).ucan with isPlugged := false } } }, some 0)

/-- The settings of an opening have timings at the clock that it uses. -/
def UcanUsbCall.Usable : UcanUsbCall → Prop
  | .openFd pfdi => (ucanUsed pfdi).isSome
  | _ => True

def UcanUsbEvent.Usable : UcanUsbEvent P n → Prop
  | .call _ _ made => made.Usable
  | _ => True

def UcanUsbEvent.CallsOn (c : Fin n) : UcanUsbEvent P n → Prop
  | .call d _ _ => d = c
  | _ => False

structure UcanUsb.Sound (s : UcanUsb P n) : Prop where
  numbered : ∀ c, (s.channels c).ucan.nChannel = c
  room : ∀ c, 8 ≤ (s.channels c).ucan.cmdSize
  mode : ∀ c : Fin n, (s.regs c).mode = busMode (s.channels c).dev.flags

def UcanUsbCall.Done (fastFwd : Bool) (calls : List BulkCall) (regs : UcanRegs) :
    UcanUsbCall → Prop
  | .openFd pfdi => ∃ used, ucanUsed pfdi = some used ∧
      Configured used fastFwd calls regs ∧
      regs.mode = if used.flags &&& pcanfdInitListenOnly ≠ 0 then .listenOnly else .normal
  | _ => True

theorem call_performed {ch : UcanChannel P} (room : 8 ≤ ch.ucan.cmdSize) (regs : UcanRegs)
    {call : UcanUsbCall} (usable : call.Usable) (bulk : Nat → Int) (fastFwd : Bool) :
    ∃ ch' err calls regs', call.perform bulk fastFwd ch = some (ch', err) ∧
      UcanCalled ch regs (fun _ calls regs' => call.Done fastFwd calls regs') ch' err calls regs' := by
  have ready : UcanReady (ch.ucan.cmdSize + 3) ch.ucan := ⟨room, Nat.le_refl _⟩
  cases call with
  | openFd pfdi =>
    obtain ⟨used, uses⟩ := Option.isSome_iff_exists.mp usable
    obtain ⟨ch', err, calls, regs', opens, called⟩ :=
      usbfdDeviceOpenFd_spec bulk ready regs uses fastFwd
    exact ⟨ch', err, calls, regs', opens, called.told, called.mode, fun zero =>
      ⟨used, uses, (called.done zero).configured, (called.done zero).mode⟩, called.clean⟩
  | stop =>
    obtain ⟨ch', err, calls, regs', stops, called⟩ := usbfdStop_spec bulk ready regs fastFwd
    exact ⟨ch', err, calls, regs', stops, called.told, called.mode, fun _ => trivial, called.clean⟩
  | setCanLed mode =>
    obtain ⟨built, adds, has⟩ := canLed_built room mode
    obtain ⟨ucan, err, calls, regs', sent, called, _⟩ := quiet_sent bulk ready regs has
      (by decide : ucanUsbCmdLedSet ≤ 0x3ff) rfl
    refine ⟨_, err, calls, regs', ?_, called.told, called.mode, fun _ => trivial, called.clean⟩
    unfold UcanUsbCall.perform ucanUsbSetCanLed
    dsimp only
    rw [adds]
    exact sent
  | setDeviceNr deviceNr =>
    obtain ⟨built, adds, has⟩ := deviceNr_built room deviceNr
    obtain ⟨ucan, err, calls, regs', sent, called, _⟩ := quiet_sent bulk ready regs has
      (by decide : ucanUsbCmdDevidSet ≤ 0x3ff) rfl
    refine ⟨_, err, calls, regs', ?_, called.told, called.mode, fun _ => trivial, called.clean⟩
    unfold UcanUsbCall.perform pcanUsbfdSetDeviceNr
    dsimp only
    rw [adds]
    exact sent

theorem readCommand_bytes {c : Nat} (few : c < 16) {cmd : UcanCommand}
    (small : cmd.opcode ≤ 0x3ff) : readCommand (cmd.bytes c) = (c, cmd) := by
  have opcode : cmd.opcode.toNat ≤ 0x3ff := small
  have word : u16At (fun k => (cmd.bytes c).getD k 0) 0 = ucanCmdOpcodeChannel c cmd.opcode :=
    bytes_join _
  have value : (ucanCmdOpcodeChannel c cmd.opcode).toNat = c * 2 ^ 12 + cmd.opcode.toNat := by
    have ones : (0x3ff : U16).toNat = 2 ^ 10 - 1 := rfl
    unfold ucanCmdOpcodeChannel
    rw [BitVec.toNat_or, BitVec.toNat_ofNat, BitVec.toNat_and, ones, Nat.and_two_pow_sub_one_eq_mod,
      Nat.mod_eq_of_lt (by omega), Nat.mod_eq_of_lt (by omega)]
    exact Masks.or_eq_add (Nat.dvd_mul_left _ _) (by omega)
  have channel : (ucanCmdOpcodeChannel c cmd.opcode >>> 12).toNat = c := by
    rw [BitVec.toNat_ushiftRight, value, Nat.shiftRight_eq_div_pow]
    omega
  have code : ucanCmdOpcodeChannel c cmd.opcode &&& 0x3ff = cmd.opcode := by
    apply BitVec.eq_of_toNat_eq
    have ones : (0x3ff : U16).toNat = 2 ^ 10 - 1 := rfl
    rw [BitVec.toNat_and, value, ones, Nat.and_two_pow_sub_one_eq_mod]
    omega
  have fields : Vector.ofFn (fun i : Fin 6 => (cmd.bytes c).getD (2 + i) 0) = cmd.fields := by
    ext i inside
    rw [Vector.getElem_ofFn]
    simp [UcanCommand.bytes, le16, inside, Nat.add_comm 2 i]
  unfold readCommand
  dsimp only
  rw [word, channel, code, fields]

theorem stream_executed (few : n ≤ 16) (c : Fin n) {sent : List UcanCommand}
    (small : ∀ cmd ∈ sent, cmd.opcode ≤ 0x3ff) (regs : Nat → UcanRegs) :
    ucanExecute regs (sent.flatMap (UcanCommand.bytes c)) =
      Function.update regs (c : Nat) (sent.foldl UcanRegs.exec (regs c)) := by
  have addressed : sent.flatMap (UcanCommand.bytes c) =
      (sent.map fun cmd => ((c : Nat), cmd)).flatMap fun p => p.2.bytes p.1 := by
    rw [List.flatMap_map]
  unfold ucanExecute
  rw [addressed, execute_encoded (by decide) (fun p _ => UcanCommand.bytes_length p.1 p.2) ?_,
    foldl_atUnit]
  intro p member
  obtain ⟨cmd, inside, rfl⟩ := List.mem_map.mp member
  exact readCommand_bytes (Nat.lt_of_lt_of_le c.isLt few) (small cmd inside)

theorem UcanUsb.Sound.update {s : UcanUsb P n} (sound : s.Sound) {c : Fin n} {ch : UcanChannel P}
    {regs : Nat → UcanRegs} (numbered : ch.ucan.nChannel = c) (room : 8 ≤ ch.ucan.cmdSize)
    (mode : (regs c).mode = busMode ch.dev.flags) (apart : ∀ d : Fin n, d ≠ c → regs d = s.regs d) :
    UcanUsb.Sound ⟨Function.update s.channels c ch, regs⟩ := by
  have channel : ∀ d, Function.update s.channels c ch d = if d = c then ch else s.channels d :=
    fun d => Function.update_apply s.channels c ch d
  refine ⟨fun d => ?_, fun d => ?_, fun d => ?_⟩
  all_goals
    dsimp only
    rw [channel]
    by_cases here : d = c
  · rw [if_pos here, here, numbered]
  · rw [if_neg here, sound.numbered]
  · rw [if_pos here]
    exact room
  · rw [if_neg here]
    exact sound.room d
  · rw [if_pos here, here, mode]
  · rw [if_neg here, apart d here]
    exact sound.mode d

theorem step_call (few : n ≤ 16) {s : UcanUsb P n} (sound : s.Sound) (c : Fin n)
    {call : UcanUsbCall} (usable : call.Usable) (bulk : Nat → Int) (fastFwd : Bool) :
    ∃ s' err regs', s.step fastFwd (.call c bulk call) = (s', some err) ∧
      s'.regs = Function.update s.regs (c : Nat) regs' ∧ s'.Sound ∧
      (err = 0 → call.Done fastFwd (s.newCalls s' c) regs') ∧
      ((s.channels c).ucan.isPlugged → (∀ k ∈ s.newCalls s' c, k.err = 0) → err = 0) := by
  obtain ⟨ch', err, calls, regs', performs, called⟩ :=
    call_performed (sound.room c) (s.regs c) usable bulk fastFwd
  obtain ⟨cmds, told, meant⟩ := called.told
  obtain ⟨sent, bytes, small, same⟩ := told.stream
  have added : ch'.ucan.bulks.drop (s.channels c).ucan.bulks.length = calls := by
    obtain ⟨head, cmdLen, frame⟩ := told.frame
    rw [frame]
    exact List.drop_left
  have new : ∀ regs, s.newCalls ⟨Function.update s.channels c ch', regs⟩ c = calls := by
    intro regs
    unfold UcanUsb.newCalls
    dsimp only
    rw [Function.update_self]
    exact added
  have executed : ucanExecute s.regs (transferred calls) = Function.update s.regs (c : Nat) regs' := by
    rw [bytes, sound.numbered, stream_executed few c small, same, meant]
  refine ⟨⟨Function.update s.channels c ch', Function.update s.regs (c : Nat) regs'⟩, err, regs',
    ?_, rfl, sound.update ?_ ?_ ?_ fun d here => ?_, ?_, ?_⟩
  · unfold UcanUsb.step
    dsimp only
    rw [performs]
    dsimp only
    rw [new, executed]
  · rw [told.nChannel, sound.numbered]
  · rw [told.cmdSize]
    exact sound.room c
  · rw [Function.update_self]
    exact called.mode (sound.mode c)
  · exact Function.update_of_ne (fun same => here (Fin.ext same)) _ _
  · rw [new]
    exact called.done
  · rw [new]
    exact called.clean

theorem driven_mode (ch : UcanChannel P) (effect : Pcandev P → Pcandev P) :
    busMode (ch.driven effect).dev.flags = busMode ch.dev.flags := by
  have on : (ch.driven effect).dev.flags &&& pcanDevBusOn = ch.dev.flags &&& pcanDevBusOn :=
    Masks.merged_and _ _ (by decide)
  have listen : (ch.driven effect).dev.flags &&& pcanDevListenOnly =
      ch.dev.flags &&& pcanDevListenOnly := Masks.merged_and _ _ (by decide)
  unfold busMode
  rw [on, listen]

theorem step_sound (few : n ≤ 16) {s : UcanUsb P n} (sound : s.Sound) {e : UcanUsbEvent P n}
    (usable : e.Usable) (fastFwd : Bool) : (s.step fastFwd e).1.Sound := by
  cases e with
  | call c bulk call =>
    obtain ⟨s', err, regs', steps, _, kept, _⟩ := step_call few sound c usable bulk fastFwd
    rw [steps]
    exact kept
  | driver c effect =>
    refine sound.update (sound.numbered c) (sound.room c) ?_ fun _ _ => rfl
    rw [driven_mode]
    exact sound.mode c
  | plugOut => exact ⟨sound.numbered, sound.room, sound.mode⟩

theorem step_regs (few : n ≤ 16) {s : UcanUsb P n} (sound : s.Sound) {e : UcanUsbEvent P n}
    (usable : e.Usable) (fastFwd : Bool) {c : Fin n} (other : ¬e.CallsOn c) :
    (s.step fastFwd e).1.regs c = s.regs c := by
  cases e with
  | call d bulk call =>
    obtain ⟨s', err, regs', steps, regs, _⟩ := step_call few sound d usable bulk fastFwd
    rw [steps]
    dsimp only
    rw [regs, Function.update_of_ne fun same => other (Fin.ext same).symm]
  | driver d effect => rfl
  | plugOut => rfl

/-- Over any run of the calls on the channels of an adapter, whatever transfers fail, each channel
    is on the bus as its flags say, a call fails only with a transfer, and a channel that has been
    opened is configured as asked until the next call on it. -/
theorem ucan_channels_configured (few : n ≤ 16) (fastFwd : Bool) {s : UcanUsb P n} (sound : s.Sound)
    {events : List (UcanUsbEvent P n)} (usable : ∀ e ∈ events, e.Usable) :
    (∀ o ∈ (run (UcanUsb.step fastFwd) s events).2, o.isSome) ∧
    (∀ t ∈ states (UcanUsb.step fastFwd) s events, ∀ c : Fin n,
      (t.regs c).mode = busMode (t.channels c).dev.flags) ∧
    (∀ m ∈ transitions (UcanUsb.step fastFwd) s events, ∀ c bulk call, m.input = .call c bulk call →
      (m.before.channels c).ucan.isPlugged → (∀ k ∈ m.before.newCalls m.after c, k.err = 0) →
        m.output = some 0) ∧
    ∀ before c bulk pfdi after opened, events = before ++ .call c bulk (.openFd pfdi) :: after →
      let closed := (run (UcanUsb.step fastFwd) s before).1
      closed.step fastFwd (.call c bulk (.openFd pfdi)) = (opened, some 0) →
      (∀ e ∈ after, ¬e.CallsOn c) →
      let regs := (run (UcanUsb.step fastFwd) s events).1.regs c
      ∃ used, ucanUsed pfdi = some used ∧
        Configured used fastFwd (closed.newCalls opened c) regs ∧
        regs.mode = if used.flags &&& pcanfdInitListenOnly ≠ 0 then .listenOnly else .normal := by
  have keep : ∀ (t : UcanUsb P n) (e : UcanUsbEvent P n), t.Sound → e.Usable →
      (t.step fastFwd e).1.Sound := fun t e holds allowed => step_sound few holds allowed fastFwd
  have admitted : Admitted (fun _ e => e.Usable) (UcanUsb.step fastFwd) s events :=
    admitted_of_forall s usable
  refine ⟨run_outputs keep (fun t e holds allowed => ?_) sound admitted,
    fun t member c => (states_invariant keep sound admitted t member).mode c,
    transitions_invariant keep (fun t e holds allowed => ?_) sound admitted,
    fun before c bulk pfdi after opened order done others => ?_⟩
  · cases e with
    | call c bulk call =>
      obtain ⟨s', err, regs', steps, _⟩ := step_call few holds c allowed bulk fastFwd
      rw [steps]
      rfl
    | driver c effect => rfl
    | plugOut => rfl
  · rintro c bulk call rfl plugged ok
    obtain ⟨s', err, regs', steps, _, _, _, clean⟩ := step_call few holds c allowed bulk fastFwd
    dsimp only at plugged ok ⊢
    rw [steps] at ok ⊢
    exact congrArg some (clean plugged ok)
  · subst order
    obtain ⟨first, second⟩ := List.forall_mem_append.mp usable
    obtain ⟨allowed, later⟩ := List.forall_mem_cons.mp second
    have began : Admitted (fun _ e => e.Usable) (UcanUsb.step fastFwd) s before :=
      admitted_of_forall s first
    have held := run_invariant keep sound began
    obtain ⟨s', err, regs', steps, regs, holds, result, _⟩ :=
      @step_call P n few _ held c (.openFd pfdi) allowed bulk fastFwd
    rw [steps] at done
    obtain ⟨rfl, zero⟩ := Prod.mk.inj done
    have kept : (run (UcanUsb.step fastFwd) s' after).1.Sound ∧
        (run (UcanUsb.step fastFwd) s' after).1.regs c = regs' := by
      have elsewhere : Admitted (fun _ e => e.Usable ∧ ¬e.CallsOn c) (UcanUsb.step fastFwd) s' after :=
        admitted_of_forall s' fun e member => ⟨later e member, others e member⟩
      have start : s'.Sound ∧ s'.regs c = regs' := ⟨holds, by rw [regs, Function.update_self]⟩
      have stays : ∀ (t : UcanUsb P n) (e : UcanUsbEvent P n), t.Sound ∧ t.regs c = regs' →
          e.Usable ∧ ¬e.CallsOn c →
          (t.step fastFwd e).1.Sound ∧ (t.step fastFwd e).1.regs c = regs' :=
        fun t e both allowed => ⟨step_sound few both.1 allowed.1 fastFwd,
          (step_regs few both.1 allowed.1 fastFwd allowed.2).trans both.2⟩
      exact @run_invariant _ _ _ _ _ (fun t => t.Sound ∧ t.regs c = regs') stays _ _ start elsewhere
    have final : (run (UcanUsb.step fastFwd) s (before ++ .call c bulk (.openFd pfdi) :: after)).1 =
        (run (UcanUsb.step fastFwd) s' after).1 := by
      rw [run_append]
      dsimp only [run]
      rw [steps]
    dsimp only
    rw [final, kept.2]
    exact result (Option.some.inj zero)

def sampleUcanUsb : UcanUsb Unit 2 where
  channels c := ⟨openedChannel () 0 0 0, ⟨c, true, true, fun _ => 0, 512, 0, []⟩⟩
  regs _ := ⟨.reset, ⟨0, 0, 0, 0, 0⟩, ⟨0, 0, 0, 0⟩, 0, 0, 0, 0, fun _ => 0, 0⟩

def listenOnlySettings : PcanfdInit :=
  { (default : PcanfdInit) with flags := pcanfdInitListenOnly, clockHz := 80000000 }

def firstUcan : Fin 2 := ⟨0, Nat.two_pos⟩

def openListenOnly : UcanUsbEvent Unit 2 :=
  .call firstUcan (fun _ => 0) (.openFd listenOnlySettings)

def elsewhereThen : List (UcanUsbEvent Unit 2) :=
  [.call ⟨1, Nat.one_lt_two⟩ (fun _ => -etimedout) (.openFd listenOnlySettings), .plugOut]

theorem ucan_channels_configured_sample :
    let regs := (run (UcanUsb.step false) sampleUcanUsb (openListenOnly :: elsewhereThen)).1.regs
      firstUcan
    regs.mode = .listenOnly ∧ regs.options &&& ucanOptionError ≠ 0 ∧
      regs.stdFilter (BitVec.ofNat 8 63) = 0xffffffff := by
  have off : (openedChannel () 0 0 0).flags &&& pcanDevBusOn = 0 := by decide
  have sound : sampleUcanUsb.Sound :=
    ⟨fun _ => rfl, fun _ => (by decide : 8 ≤ 512), fun _ => (if_pos off).symm⟩
  have uses : ucanUsed listenOnlySettings = some listenOnlySettings := rfl
  have usable : ∀ e ∈ openListenOnly :: elsewhereThen, e.Usable := by
    intro e member
    simp only [elsewhereThen, List.mem_cons, List.not_mem_nil, or_false] at member
    rcases member with rfl | rfl | rfl
    · exact rfl
    · exact rfl
    · trivial
  have opens : (sampleUcanUsb.step false openListenOnly).2 = some 0 := by decide +kernel
  have others : ∀ e ∈ elsewhereThen, ¬e.CallsOn firstUcan := by
    intro e member
    simp only [elsewhereThen, List.mem_cons, List.not_mem_nil, or_false] at member
    rcases member with rfl | rfl
    · exact fun same : (⟨1, Nat.one_lt_two⟩ : Fin 2) = firstUcan =>
        absurd (congrArg Fin.val same) (by decide)
    · exact id
  have opened : sampleUcanUsb.step false openListenOnly =
      ((sampleUcanUsb.step false openListenOnly).1, some 0) := by rw [← opens]
  obtain ⟨used, same, configured, mode⟩ :=
    (ucan_channels_configured (by decide) false sound usable).2.2.2 [] firstUcan
      (fun _ => 0) listenOnlySettings elsewhereThen _ rfl opened others
  obtain rfl := Option.some.inj (uses.symm.trans same)
  have listens : listenOnlySettings.flags &&& pcanfdInitListenOnly ≠ 0 := by decide
  have last := configured.filter 63 (by decide)
  exact ⟨mode.trans (if_pos listens), configured.errors, last⟩

end System

end PcanDriver

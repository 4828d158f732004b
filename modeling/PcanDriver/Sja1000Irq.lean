import PcanDriver.DataLengths
import PcanDriver.Lib.StepSystem

/-!
The interrupt handler of an SJA1000 (`pcan_sja1000.c`). It learns about the error level of
the chip from two interrupts and one status register; the application gets at most one
message about it in each pass of the loop.
-/
namespace PcanDriver
open StepSystem

section Handler

def transmitInterrupt : U8 := 0x02
def receiveInterrupt : U8 := 0x01
def dataOverrunInterrupt : U8 := 0x08
def errorWarnInterrupt : U8 := 0x04
def errorPassivInterrupt : U8 := 0x20
def busErrorInterrupt : U8 := 0x80

def sja1000SrBs : U8 := 0x80
def sja1000SrEs : U8 := 0x40

/-- What one pass of the loop gets from the chip and from the host. `stack` is the
    uninitialised message of `__sja1000_read`. -/
structure Sja1000Irq where
  irqstatus : U8
  chipstatus : U8
  ecc : U8
  rxErrorCounter : U8
  txErrorCounter : U8
  readreg : Nat → Nat → U8
  readHost : Nat → Host
  stack : PcanfdRxmsg
  host : Host

def Sja1000Irq.raised (irq : Sja1000Irq) (bit : U8) : Bool := irq.irqstatus &&& bit ≠ 0

/-- The switch over bus and error status. -/
def sja1000ErrorState (irq : Sja1000Irq) (dev : Sja1000Dev) (ef : PcanfdRxmsg) :
    Sja1000Dev × PcanfdRxmsg :=
  let bits := irq.chipstatus &&& (sja1000SrBs ||| sja1000SrEs)
  if bits = 0 then pcanHandleErrorActive sja1000Write dev ef
  else if bits = sja1000SrEs then
    let passive := irq.raised errorPassivInterrupt
    let handled := pcanHandleErrorStatus dev ef (!passive) passive
    (handled.1, handled.2.1)
  else ((pcanHandleBusoff dev ef).1, (pcanHandleBusoff dev ef).2.1)

/-- The branches about errors, from `DATA_OVERRUN_INTERRUPT` on. -/
def sja1000Errors (irq : Sja1000Irq) (dev : Sja1000Dev) (ef : PcanfdRxmsg) :
    Sja1000Dev × PcanfdRxmsg :=
  let overrun :=
    if irq.raised dataOverrunInterrupt then pcanHandleErrorCtrl dev ef .rxOverflow else (dev, ef)
  let counted := fun (handled : Sja1000Dev × PcanfdRxmsg) =>
    ({ handled.1 with
        rxErrorCounter := irq.rxErrorCounter
        txErrorCounter := irq.txErrorCounter }, handled.2)
  if irq.raised (errorPassivInterrupt ||| errorWarnInterrupt) then
    counted (sja1000ErrorState irq overrun.1 overrun.2)
  else if irq.raised busErrorInterrupt then
    counted (pcanHandleErrorMsg overrun.1 overrun.2 (((irq.ecc &&& 0xc0) >>> 6).setWidth 32)
      (irq.ecc &&& 0x1f) (irq.ecc &&& 0x20 ≠ 0) false)
  else overrun

/-- `ef` is the handler's message: what has not been posted is left for the next pass. -/
structure Sja1000Handled where
  dev : Sja1000Dev
  ef : PcanfdRxmsg
  posts : List PcanfdRxmsg

/-- The frames of the transmit and the receive interrupt. -/
def sja1000Frames (irqmaxrmsg : Nat) (irq : Sja1000Irq) (dev : Sja1000Dev) : Sja1000Reads :=
  let dev := if irq.raised transmitInterrupt then sja1000TransmitInterrupt dev else dev
  if irq.raised receiveInterrupt then
    sja1000Read irq.readHost irq.readreg irqmaxrmsg 0 irq.stack dev
  else ⟨dev, [], 0⟩

def sja1000IrqPass (irqmaxrmsg : Nat) (irq : Sja1000Irq) (dev : Sja1000Dev) (ef : PcanfdRxmsg) :
    Sja1000Handled :=
  let read := sja1000Frames irqmaxrmsg irq dev
  let errors := sja1000Errors irq read.dev ef
  if errors.2.msg.type = .nop then ⟨errors.1, errors.2, read.posts⟩
  else ⟨(pcanChardevRx irq.host errors.1 errors.2).1, .zero, read.posts ++ [errors.2]⟩

/-- The loop with `irqmaxloop` passes left, of which the next is number `j`. -/
def sja1000IrqLoop (irqmaxrmsg : Nat) (irqs : Nat → Sja1000Irq) :
    Nat → Nat → Sja1000Dev → PcanfdRxmsg → Sja1000Handled
  | 0, _, dev, ef => ⟨dev, ef, []⟩
  | irqmaxloop + 1, j, dev, ef =>
    if (irqs j).irqstatus = 0 then ⟨dev, ef, []⟩
    else
      let pass := sja1000IrqPass irqmaxrmsg (irqs j) dev ef
      let rest := sja1000IrqLoop irqmaxrmsg irqs irqmaxloop (j + 1) pass.dev pass.ef
      { rest with posts := pass.posts ++ rest.posts }

/-- `__pcan_sja1000_irqhandler`. -/
def sja1000Irqhandler (irqmaxrmsg irqmaxloop : Nat) (irqs : Nat → Sja1000Irq) (dev : Sja1000Dev) :
    Sja1000Handled :=
  sja1000IrqLoop irqmaxrmsg irqs irqmaxloop 0 dev .zero

end Handler

section State

theorem sja1000WriteNext_busState (dev : Sja1000Dev) :
    (sja1000WriteNext dev).1.busState = dev.busState := by
  unfold sja1000WriteNext
  split <;> rfl

theorem sja1000Write_busState (dev : Sja1000Dev) :
    (sja1000Write dev).1.busState = dev.busState := by
  unfold sja1000Write
  split
  · rfl
  · exact sja1000WriteNext_busState dev

theorem sja1000TransmitInterrupt_busState (dev : Sja1000Dev) :
    (sja1000TransmitInterrupt dev).busState = dev.busState := by
  have written := sja1000WriteNext_busState { dev with port := { dev.port with txBusy := false } }
  unfold sja1000TransmitInterrupt
  simp only
  split
  · exact written
  · split <;> exact written

theorem pcanChardevRx_busState {P : Type} (host : Host) (dev : Pcandev P) (rx : PcanfdRxmsg) :
    (pcanChardevRx host dev rx).1.busState = dev.busState :=
  congrArg TransmitSide.busState (pcanChardevRx_transmit host dev rx)

theorem sja1000Read_busState (host : Nat → Host) (readreg : Nat → Nat → U8) (msgs i : Nat)
    (f : PcanfdRxmsg) (dev : Sja1000Dev) :
    (sja1000Read host readreg msgs i f dev).dev.busState = dev.busState := by
  induction msgs generalizing i f dev with
  | zero => rfl
  | succ msgs ih =>
    unfold sja1000Read
    split
    · rfl
    · exact (ih _ _ _).trans (pcanChardevRx_busState _ _ _)

theorem sja1000Frames_busState (irqmaxrmsg : Nat) (irq : Sja1000Irq) (dev : Sja1000Dev) :
    (sja1000Frames irqmaxrmsg irq dev).dev.busState = dev.busState := by
  have transmitted : (if irq.raised transmitInterrupt then sja1000TransmitInterrupt dev
      else dev).busState = dev.busState := by
    split
    · exact sja1000TransmitInterrupt_busState dev
    · rfl
  unfold sja1000Frames
  simp only
  split
  · exact (sja1000Read_busState _ _ _ _ _ _).trans transmitted
  · exact transmitted

/-- The state that the switch makes of the status register. -/
def sja1000SrState (chipstatus : U8) (passive : Bool) : PcanfdStatus :=
  let bits := chipstatus &&& (sja1000SrBs ||| sja1000SrEs)
  if bits = 0 then .errorActive
  else if bits = sja1000SrEs then if passive then .errorPassive else .errorWarning
  else .errorBusoff

theorem sja1000ErrorState_busState (irq : Sja1000Irq) (dev : Sja1000Dev) (ef : PcanfdRxmsg) :
    (sja1000ErrorState irq dev ef).1.busState =
      sja1000SrState irq.chipstatus (irq.raised errorPassivInterrupt) := by
  unfold sja1000ErrorState sja1000SrState
  simp only
  split
  · exact pcanHandleErrorActive_state sja1000Write_busState dev ef
  · split
    · have status := congrArg TransmitSide.busState (pcanHandleErrorStatus_transmit dev ef
        (!irq.raised errorPassivInterrupt) (irq.raised errorPassivInterrupt))
      refine status.trans ?_
      cases irq.raised errorPassivInterrupt <;> rfl
    · exact congrArg TransmitSide.busState (pcanHandleBusoff_transmit dev ef)

theorem sja1000Errors_busState (irq : Sja1000Irq) (dev : Sja1000Dev) (ef : PcanfdRxmsg) :
    (sja1000Errors irq dev ef).1.busState =
      if irq.raised (errorPassivInterrupt ||| errorWarnInterrupt) then
        sja1000SrState irq.chipstatus (irq.raised errorPassivInterrupt)
      else dev.busState := by
  have overrun : (if irq.raised dataOverrunInterrupt then pcanHandleErrorCtrl dev ef .rxOverflow
      else (dev, ef)).1.busState = dev.busState := by
    split <;> rfl
  unfold sja1000Errors
  simp only
  split
  · exact sja1000ErrorState_busState irq _ _
  · split <;> exact overrun

theorem sja1000IrqPass_busState (irqmaxrmsg : Nat) (irq : Sja1000Irq) (dev : Sja1000Dev)
    (ef : PcanfdRxmsg) : (sja1000IrqPass irqmaxrmsg irq dev ef).dev.busState =
      if irq.raised (errorPassivInterrupt ||| errorWarnInterrupt) then
        sja1000SrState irq.chipstatus (irq.raised errorPassivInterrupt)
      else dev.busState := by
  have errors := sja1000Errors_busState irq (sja1000Frames irqmaxrmsg irq dev).dev ef
  rw [sja1000Frames_busState] at errors
  unfold sja1000IrqPass
  simp only
  split
  · exact errors
  · exact (pcanChardevRx_busState _ _ _).trans errors

/-- A pass of the loop without the two interrupts. -/
def Sja1000Irq.Quiet (irq : Sja1000Irq) : Prop :=
  irq.raised (errorPassivInterrupt ||| errorWarnInterrupt) = false

theorem sja1000IrqLoop_busState (irqmaxrmsg : Nat) {irqs : Nat → Sja1000Irq} {j : Nat}
    (quiet : ∀ k, (irqs (j + k)).Quiet) (irqmaxloop : Nat) (dev : Sja1000Dev) (ef : PcanfdRxmsg) :
    (sja1000IrqLoop irqmaxrmsg irqs irqmaxloop j dev ef).dev.busState = dev.busState := by
  induction irqmaxloop generalizing j dev ef with
  | zero => rfl
  | succ irqmaxloop ih =>
    have later : ∀ k, (irqs (j + 1 + k)).Quiet := by
      intro k
      rw [Nat.add_assoc]
      exact quiet (1 + k)
    have pass := sja1000IrqPass_busState irqmaxrmsg (irqs j) dev ef
    rw [show (irqs j).raised (errorPassivInterrupt ||| errorWarnInterrupt) = false from quiet 0]
      at pass
    unfold sja1000IrqLoop
    split
    · rfl
    · exact (ih later _ _).trans pass

theorem sja1000Irqhandler_busState (irqmaxrmsg irqmaxloop : Nat) {irqs : Nat → Sja1000Irq}
    (quiet : ∀ j, (irqs (j + 1)).Quiet) (dev : Sja1000Dev) :
    (sja1000Irqhandler irqmaxrmsg (irqmaxloop + 1) irqs dev).dev.busState =
      if (irqs 0).raised (errorPassivInterrupt ||| errorWarnInterrupt) then
        sja1000SrState (irqs 0).chipstatus ((irqs 0).raised errorPassivInterrupt)
      else dev.busState := by
  have later : ∀ k, (irqs (0 + 1 + k)).Quiet := by
    intro k
    rw [Nat.zero_add, Nat.add_comm]
    exact quiet k
  unfold sja1000Irqhandler sja1000IrqLoop
  split
  next none_pending =>
    have unraised : (irqs 0).raised (errorPassivInterrupt ||| errorWarnInterrupt) = false := by
      unfold Sja1000Irq.raised
      rw [none_pending]
      decide
    rw [unraised]
    rfl
  next =>
    exact (sja1000IrqLoop_busState irqmaxrmsg later irqmaxloop _ _).trans
      (sja1000IrqPass_busState irqmaxrmsg (irqs 0) dev _)

end State

section Level

/-- The error counters of the chip, and whether it has left the bus. -/
structure ErrorCounters where
  rx : U8
  tx : U8
  busOff : Bool
deriving Repr, DecidableEq

def ErrorCounters.reached (c : ErrorCounters) (limit : U8) : Bool := limit ≤ c.rx || limit ≤ c.tx

def ErrorCounters.level (c : ErrorCounters) : PcanfdStatus :=
  if c.busOff then .errorBusoff
  else if c.reached 128 then .errorPassive
  else if c.reached 96 then .errorWarning
  else .errorActive

/-- What the chip shows of a change of its counters: the error warning interrupt for a
    change of BS or ES, the error passive interrupt for entering or leaving that level. -/
structure Signals (before after : ErrorCounters) (irq : Sja1000Irq) : Prop where
  es : irq.chipstatus &&& sja1000SrEs ≠ 0 ↔ after.reached 96 = true
  bs : irq.chipstatus &&& sja1000SrBs ≠ 0 ↔ after.busOff = true
  warn : irq.raised errorWarnInterrupt = true ↔
    before.busOff ≠ after.busOff ∨ before.reached 96 ≠ after.reached 96
  passiv : irq.raised errorPassivInterrupt = true ↔
    (before.level = .errorPassive ↔ after.level ≠ .errorPassive)

/-- The chip's counters change and the handler is run. The interrupts are read, and by
    that cleared, in its first pass. -/
structure CounterChange where
  after : ErrorCounters
  irqs : Nat → Sja1000Irq

structure TrackedChip where
  dev : Sja1000Dev
  errors : ErrorCounters

/-- The output is the bus state after the handler, and the level it is to be. -/
def trackedStep (irqmaxrmsg irqmaxloop : Nat) (s : TrackedChip) (i : CounterChange) :
    TrackedChip × (PcanfdStatus × PcanfdStatus) :=
  let handled := sja1000Irqhandler irqmaxrmsg irqmaxloop i.irqs s.dev
  (⟨handled.dev, i.after⟩, (handled.dev.busState, i.after.level))

def Signalled (s : TrackedChip) (i : CounterChange) : Prop :=
  Signals s.errors i.after (i.irqs 0) ∧ ∀ j, (i.irqs (j + 1)).Quiet

/-- The chip does not fall back from error passive to the warning level. -/
def NoFallback (s : TrackedChip) (i : CounterChange) : Prop :=
  ¬(s.errors.level = .errorPassive ∧ i.after.level = .errorWarning)

instance decidableNoFallback (s : TrackedChip) (i : CounterChange) :
    Decidable (NoFallback s i) := inferInstanceAs (Decidable (¬(_ ∧ _)))

theorem raised_either (irq : Sja1000Irq) :
    irq.raised (errorPassivInterrupt ||| errorWarnInterrupt) =
      (irq.raised errorPassivInterrupt || irq.raised errorWarnInterrupt) := by
  unfold Sja1000Irq.raised errorPassivInterrupt errorWarnInterrupt
  generalize irq.irqstatus = status
  revert status
  decide

theorem sja1000SrState_eq (chipstatus : U8) (passive : Bool) :
    sja1000SrState chipstatus passive =
      if chipstatus &&& sja1000SrBs ≠ 0 then .errorBusoff
      else if chipstatus &&& sja1000SrEs ≠ 0 then
        if passive then .errorPassive else .errorWarning
      else .errorActive := by
  unfold sja1000SrState sja1000SrBs sja1000SrEs
  revert chipstatus passive
  decide

theorem ErrorCounters.reached_warning {c : ErrorCounters} (passive : c.reached 128 = true) :
    c.reached 96 = true := by
  unfold ErrorCounters.reached at passive ⊢
  have lower : (96 : U8) ≤ 128 := by decide
  rw [Bool.or_eq_true, decide_eq_true_eq, decide_eq_true_eq] at passive ⊢
  exact passive.imp (BitVec.le_trans lower) (BitVec.le_trans lower)

/-- A level is told from the interrupts and the status register unless the chip falls back
    from error passive to the warning level: that change looks like entering it. -/
theorem signalled_level_iff {before after : ErrorCounters} {irq : Sja1000Irq}
    (signals : Signals before after irq) :
    (if irq.raised (errorPassivInterrupt ||| errorWarnInterrupt) then
        sja1000SrState irq.chipstatus (irq.raised errorPassivInterrupt)
      else before.level) = after.level ↔
      ¬(before.level = .errorPassive ∧ after.level = .errorWarning) := by
  obtain ⟨es, bs, warn, passiv⟩ := signals
  have beforeLimits := @before.reached_warning
  have afterLimits := @after.reached_warning
  rw [raised_either, sja1000SrState_eq]
  simp only [bs, es]
  unfold ErrorCounters.level at passiv ⊢
  revert warn passiv beforeLimits afterLimits
  generalize irq.raised errorPassivInterrupt = raisedPassiv
  generalize irq.raised errorWarnInterrupt = raisedWarn
  generalize before.reached 96 = es, before.reached 128 = ep, before.busOff = bs
  generalize after.reached 96 = es', after.reached 128 = ep', after.busOff = bs'
  revert raisedPassiv raisedWarn es ep bs es' ep' bs'
  decide

/-- The bus state follows the level of the error counters exactly as long as the chip never
    falls back from error passive to the warning level. -/
theorem tracked_iff {irqmaxrmsg irqmaxloop : Nat} {dev : Sja1000Dev} {errors : ErrorCounters}
    {changes : List CounterChange} (start : dev.busState = errors.level)
    (chip : Admitted Signalled (trackedStep irqmaxrmsg (irqmaxloop + 1)) ⟨dev, errors⟩ changes) :
    (∀ o ∈ (run (trackedStep irqmaxrmsg (irqmaxloop + 1)) ⟨dev, errors⟩ changes).2, o.1 = o.2) ↔
      Admitted NoFallback (trackedStep irqmaxrmsg (irqmaxloop + 1)) ⟨dev, errors⟩ changes := by
  have each : ∀ (s : TrackedChip) (i : CounterChange), s.dev.busState = s.errors.level →
      Signalled s i → ((trackedStep irqmaxrmsg (irqmaxloop + 1) s i).2.1 =
        (trackedStep irqmaxrmsg (irqmaxloop + 1) s i).2.2 ↔ NoFallback s i) := by
    intro s i level signalled
    have handled := sja1000Irqhandler_busState irqmaxrmsg irqmaxloop signalled.2 s.dev
    rw [level] at handled
    show (sja1000Irqhandler irqmaxrmsg (irqmaxloop + 1) i.irqs s.dev).dev.busState =
      i.after.level ↔ _
    rw [handled]
    exact signalled_level_iff signalled.1
  exact outputs_iff_admitted
    (fun s i level signalled kept => (each s i level signalled).mpr kept) each start chip

end Level

section Samples

/-- What a chip shows of a change when nothing else happens. -/
def shownChange (before after : ErrorCounters) : Sja1000Irq where
  irqstatus :=
    (if before.busOff ≠ after.busOff ∨ before.reached 96 ≠ after.reached 96 then
      errorWarnInterrupt else 0) |||
    (if before.level = .errorPassive ↔ after.level ≠ .errorPassive then
      errorPassivInterrupt else 0)
  chipstatus := (if after.reached 96 then sja1000SrEs else 0) |||
    (if after.busOff then sja1000SrBs else 0)
  ecc := 0
  rxErrorCounter := after.rx
  txErrorCounter := after.tx
  readreg := fun _ _ => 0
  readHost := fun _ => ⟨⟨1, 0⟩, ⟨0, 0⟩⟩
  stack := .zero
  host := ⟨⟨1, 0⟩, ⟨0, 0⟩⟩

theorem shownChange_signals (before after : ErrorCounters) :
    Signals before after (shownChange before after) := by
  constructor
  case es =>
    simp only [shownChange]
    cases after.reached 96 <;> cases after.busOff <;> decide
  case bs =>
    simp only [shownChange]
    cases after.reached 96 <;> cases after.busOff <;> decide
  case warn =>
    unfold Sja1000Irq.raised shownChange
    by_cases warn : before.busOff ≠ after.busOff ∨ before.reached 96 ≠ after.reached 96 <;>
      by_cases passiv : before.level = .errorPassive ↔ after.level ≠ .errorPassive <;>
      simp only [warn, passiv, if_true, if_false] <;> decide
  case passiv =>
    unfold Sja1000Irq.raised shownChange
    by_cases warn : before.busOff ≠ after.busOff ∨ before.reached 96 ≠ after.reached 96 <;>
      by_cases passiv : before.level = .errorPassive ↔ after.level ≠ .errorPassive <;>
      simp only [warn, passiv, if_true, if_false] <;> decide

/-- The chip's counters go through the given values, one handler run for each. -/
def counterChanges : ErrorCounters → List ErrorCounters → List CounterChange
  | _, [] => []
  | before, after :: rest =>
    ⟨after, fun j => if j = 0 then shownChange before after else
      { shownChange before after with irqstatus := 0 }⟩ :: counterChanges after rest

theorem counterChanges_signalled (irqmaxrmsg irqmaxloop : Nat) (dev : Sja1000Dev)
    (errors : ErrorCounters) (values : List ErrorCounters) :
    Admitted Signalled (trackedStep irqmaxrmsg irqmaxloop) ⟨dev, errors⟩
      (counterChanges errors values) := by
  induction values generalizing dev errors with
  | nil => trivial
  | cons after rest ih =>
    refine ⟨⟨shownChange_signals errors after, ?_⟩, ih _ after⟩
    intro j
    unfold Sja1000Irq.Quiet Sja1000Irq.raised
    simp only [Nat.add_one_ne_zero, if_false]
    decide

def activeSja1000 : Sja1000Dev :=
  { openedChannel ⟨false, []⟩ 4 4 0 with busState := .errorActive }

/-- Through all levels and back to active by a bus that was off. -/
theorem tracked_through_all_levels :
    activeSja1000.busState = .errorActive ∧
      ∀ o ∈ (run (trackedStep 8 (5 + 1)) ⟨activeSja1000, ⟨0, 0, false⟩⟩
        (counterChanges ⟨0, 0, false⟩ [⟨0, 100, false⟩, ⟨0, 130, false⟩, ⟨0, 0, true⟩,
          ⟨0, 0, false⟩])).2, o.1 = o.2 :=
  ⟨rfl, (tracked_iff rfl (counterChanges_signalled 8 (5 + 1) _ _ _)).mpr
    ⟨by decide, by decide, by decide, by decide, trivial⟩⟩

/-- The chip leaves error passive for the warning level: the handler takes the interrupt
    for entering it. -/
theorem fallback_stays_passive :
    (run (trackedStep 8 (5 + 1)) ⟨activeSja1000, ⟨0, 0, false⟩⟩ (counterChanges ⟨0, 0, false⟩
      [⟨0, 130, false⟩, ⟨0, 120, false⟩])).2 =
      [(.errorPassive, .errorPassive), (.errorPassive, .errorWarning)] ∧
      Admitted Signalled (trackedStep 8 (5 + 1)) ⟨activeSja1000, ⟨0, 0, false⟩⟩
        (counterChanges ⟨0, 0, false⟩ [⟨0, 130, false⟩, ⟨0, 120, false⟩]) :=
  ⟨by decide, counterChanges_signalled 8 (5 + 1) _ _ _⟩

end Samples

end PcanDriver

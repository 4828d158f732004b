import PcanDriver.Netdev
import Mathlib.Data.List.Destutter

/-!
What the socket layer is told about the state of the bus, over any sequence of messages
that the channel of a network device receives.
-/
namespace PcanDriver
open StepSystem
variable {P : Type}

section BusStates

/-- A message, with the error counters that the channel has when it is handed over. -/
structure NetdevInput where
  host : Host
  alloc : Bool
  pqm : PcanfdRxmsg
  rxErrorCounter : U8
  txErrorCounter : U8

def NetdevInput.counting (i : NetdevInput) (nd : PcanNetdev P) : PcanNetdev P :=
  { nd with pdev := { nd.pdev with
      rxErrorCounter := i.rxErrorCounter
      txErrorCounter := i.txErrorCounter } }

/-- The state of the bus that a message tells. All but ERROR_ACTIVE need a socket buffer. -/
def NetdevInput.told (i : NetdevInput) : Option CanState :=
  if i.pqm.msg.type ≠ .status then none
  else if i.pqm.msg.id = PcanfdStatus.errorActive.code then some .errorActive
  else if !i.alloc then none
  else if i.pqm.msg.id = PcanfdStatus.errorBusoff.code then some .busOff
  else if i.pqm.msg.id = PcanfdStatus.errorPassive.code then some .errorPassive
  else if i.pqm.msg.id = PcanfdStatus.errorWarning.code then some .errorWarning
  else none

/-- The output is the frame, and the state it announces when the message tells one. -/
def netdevRxStep (nd : PcanNetdev P) (i : NetdevInput) :
    PcanNetdev P × Option (CanSkb × Option Timeval) × Option CanState :=
  let done := pcanNetdevRx i.host i.alloc (i.counting nd) i.pqm
  (done.ndev, done.frame, if done.frame.isSome then i.told else none)

/-- What a reader of the socket takes from a frame. -/
def CanSkb.busState (skb : CanSkb) : Option CanState :=
  let crtl := skb.data.get ⟨1, crtl_byte⟩
  if skb.canId &&& canErrFlag = 0 then none
  else if skb.canId &&& canErrBusoffNetdev ≠ 0 then some .busOff
  else if skb.canId &&& canErrCrtl = 0 then none
  else if crtl &&& (canErrCrtlRxPassive ||| canErrCrtlTxPassive) ≠ 0 then some .errorPassive
  else if crtl &&& (canErrCrtlRxWarning ||| canErrCrtlTxWarning) ≠ 0 then some .errorWarning
  else none

/-- Whether the counters bear a state out. A frame that announces one says so by the counters that
    are above its limit. -/
def NetdevInput.counted (i : NetdevInput) : CanState → Bool
  | .busOff => true
  | .errorPassive => decide (i.rxErrorCounter > 127) || decide (i.txErrorCounter > 127)
  | .errorWarning => decide (i.rxErrorCounter > 96) || decide (i.txErrorCounter > 96)
  | .errorActive | .stopped => false

def frameState (frame : Option (CanSkb × Option Timeval)) : Option CanState :=
  frame.bind fun given => given.1.busState

def CanDeviceStats.of (stats : CanDeviceStats) : CanState → Nat
  | .busOff => stats.busOff
  | .errorPassive => stats.errorPassive
  | .errorWarning => stats.errorWarning
  | .errorActive | .stopped => 0

theorem entered_count (nd : PcanNetdev P) (state counted : CanState) :
    (nd.entered state).canStats.of counted = nd.canStats.of counted +
      if state = counted ∧ state ≠ .errorActive ∧ state ≠ .stopped then 1 else 0 := by
  cases state <;> cases counted <;> simp [PcanNetdev.entered, CanDeviceStats.of]

theorem netdevErrFrame_crtl (crtl prot : U8) :
    (netdevErrFrame canErrCrtl crtl prot).busState =
      if crtl &&& (canErrCrtlRxPassive ||| canErrCrtlTxPassive) ≠ 0 then some .errorPassive
      else if crtl &&& (canErrCrtlRxWarning ||| canErrCrtlTxWarning) ≠ 0 then some .errorWarning
      else none := by
  have byte : (netdevErrFrame canErrCrtl crtl prot).data.get ⟨1, crtl_byte⟩ = crtl := by
    exact (Vector.getElem_set_ne prot_byte crtl_byte (by decide)).trans
      (Vector.getElem_set_self crtl_byte)
  have id : (netdevErrFrame canErrCrtl crtl prot).canId = canErrFlag ||| canErrCrtl := rfl
  unfold CanSkb.busState
  rw [byte, id]
  simp only [if_neg (by decide : ¬(canErrFlag ||| canErrCrtl) &&& canErrFlag = 0),
    if_neg (by decide : ¬(canErrFlag ||| canErrCrtl) &&& canErrBusoffNetdev ≠ 0),
    if_neg (by decide : ¬(canErrFlag ||| canErrCrtl) &&& canErrCrtl = 0)]

theorem netdevErrFrame_above (a b : Bool) :
    (netdevErrFrame canErrCrtl
      ((if a then canErrCrtlRxPassive else 0) ||| if b then canErrCrtlTxPassive else 0) 0).busState =
        (if a || b then some .errorPassive else none) ∧
    (netdevErrFrame canErrCrtl
      ((if a then canErrCrtlRxWarning else 0) ||| if b then canErrCrtlTxWarning else 0) 0).busState =
        if a || b then some .errorWarning else none := by
  rw [netdevErrFrame_crtl, netdevErrFrame_crtl]
  revert a b
  decide

theorem netdevErrFrame_others :
    (netdevErrFrame canErrBusoffNetdev 0 0).busState = some .busOff ∧
    (netdevErrFrame canErrProt 0 canErrProtOverload).busState = none ∧
    (netdevErrFrame canErrCrtl canErrCrtlRxOverflow 0).busState = none ∧
    (netdevErrFrame canErrCrtl canErrCrtlTxOverflow 0).busState = none ∧
    (netdevErrFrame 0 0 0).busState = none := by
  decide

theorem netdevRxFrame_busState (fd : Bool) (pf : PcanfdMsg) : (netdevRxFrame fd pf).busState = none := by
  have clear : (netdevRxFrame fd pf).canId &&& canErrFlag = 0 := by
    have flags (rtr ext : Bool) :
        (flagIf rtr canRtrFlag &&& canErrFlag = 0) ∧ flagIf ext canEffFlag &&& canErrFlag = 0 := by
      revert rtr ext
      decide
    have mask : canErrMask &&& canErrFlag = 0 := by decide
    unfold netdevRxFrame
    simp only [BitVec.and_or_distrib_right, BitVec.and_assoc, mask, (flags _ false).1,
      (flags false _).2]
    simp
  unfold CanSkb.busState
  rw [if_pos clear]

theorem netdevCanRx_kept (host : Host) (nd : PcanNetdev P) (fd : Bool) (pqm : PcanfdRxmsg) :
    (netdevCanRx host nd fd pqm).ndev.state = nd.state ∧
      (netdevCanRx host nd fd pqm).ndev.canStats = nd.canStats ∧
      frameState (netdevCanRx host nd fd pqm).frame = none := by
  unfold netdevCanRx
  split <;> exact ⟨rfl, rfl, netdevRxFrame_busState _ _⟩

/-- A state that is told is entered and announced if it is a new one. -/
structure StateStep (nd : PcanNetdev P) (counted : CanState → Bool) (told : Option CanState)
    (done : PcanNetdev P × Option (CanSkb × Option Timeval) × Option CanState) : Prop where
  state : done.1.state = told.getD nd.state
  stats : ∀ counted, done.1.canStats.of counted = nd.canStats.of counted +
    if told = some counted ∧ counted ≠ nd.state ∧ counted ≠ .errorActive ∧ counted ≠ .stopped
      then 1 else 0
  announced : done.2.2 = told.filter fun state =>
    decide (state ≠ nd.state) && decide (state ≠ .errorActive)
  framed : frameState done.2.1 = done.2.2.filter counted

theorem StateStep.of_counting {nd : PcanNetdev P} {i : NetdevInput} {counted : CanState → Bool}
    {told : Option CanState} {done : PcanNetdev P × Option (CanSkb × Option Timeval) × Option CanState}
    (step : StateStep (i.counting nd) counted told done) : StateStep nd counted told done :=
  ⟨step.state, step.stats, step.announced, step.framed⟩

section Cases
variable {counted : CanState → Bool}

theorem StateStep.untold {nd nd' : PcanNetdev P} {frame : Option (CanSkb × Option Timeval)}
    (state : nd'.state = nd.state) (stats : nd'.canStats = nd.canStats)
    (framed : frameState frame = none) :
    StateStep nd counted none (nd', frame, if frame.isSome then none else none) where
  state := state
  stats := by simp [stats]
  announced := by simp
  framed := by simp [framed]

theorem StateStep.same (nd : PcanNetdev P) (state : CanState) (same : nd.state = state) :
    StateStep nd counted (some state) (nd, none, none) where
  state := same
  stats := by
    intro counted
    rw [if_neg]
    · rfl
    · rintro ⟨told, other, _⟩
      exact other ((Option.some.inj told).symm.trans same.symm)
  announced := by simp [same, Option.filter]
  framed := rfl

theorem StateStep.entered {nd : PcanNetdev P} {state : CanState} (new : nd.state ≠ state)
    (active : state ≠ .errorActive) (stopped : state ≠ .stopped) {skb : CanSkb}
    (framed : skb.busState = if counted state then some state else none) :
    let done := (nd.entered state).deliver skb none
    StateStep nd counted (some state) (done.ndev, done.frame, some state) where
  state := rfl
  stats := by
    intro counted
    refine (entered_count nd state counted).trans ?_
    by_cases same : state = counted
    · subst same
      simp [active, stopped, Ne.symm new]
    · simp [same]
  announced := by simp [Ne.symm new, active, Option.filter]
  framed := framed

theorem StateStep.active (nd : PcanNetdev P) :
    StateStep nd counted (some .errorActive)
      ({ nd with state := .errorActive, queueStopped := false }, none, none) where
  state := rfl
  stats := by
    intro counted
    rw [if_neg]
    · rfl
    · rintro ⟨same, _, other, _⟩
      exact other (Option.some.inj same).symm
  announced := by simp [Option.filter]
  framed := rfl

end Cases

theorem netdevStatusRx_states (nd : PcanNetdev P) {i : NetdevInput}
    (rx : nd.pdev.rxErrorCounter = i.rxErrorCounter) (tx : nd.pdev.txErrorCounter = i.txErrorCounter)
    (alloc : i.alloc = true) (status : i.pqm.msg.type = .status)
    (other : i.pqm.msg.id ≠ PcanfdStatus.errorActive.code) :
    let done := netdevStatusRx nd i.pqm.msg
    StateStep nd i.counted i.told (done.ndev, done.frame, if done.frame.isSome then i.told else none) := by
  intro done
  have told : i.told =
      if i.pqm.msg.id = PcanfdStatus.errorBusoff.code then some .busOff
      else if i.pqm.msg.id = PcanfdStatus.errorPassive.code then some .errorPassive
      else if i.pqm.msg.id = PcanfdStatus.errorWarning.code then some .errorWarning
      else none := by
    unfold NetdevInput.told
    rw [if_neg (not_not.mpr status), if_neg other, alloc]
    rfl
  rw [told]
  obtain ⟨busOff, overload, rxOverflow, txOverflow, unknown⟩ := netdevErrFrame_others
  simp only [done, netdevStatusRx, rx, tx]
  by_cases busoff : i.pqm.msg.id = PcanfdStatus.errorBusoff.code
  · simp only [if_pos busoff]
    by_cases same : nd.state = .busOff
    · rw [if_pos same]
      exact StateStep.same nd _ same
    · rw [if_neg same]
      exact StateStep.entered same nofun nofun busOff
  by_cases passive : i.pqm.msg.id = PcanfdStatus.errorPassive.code
  · simp only [if_neg busoff, if_pos passive]
    by_cases same : nd.state = .errorPassive
    · rw [if_pos same]
      exact StateStep.same nd _ same
    · rw [if_neg same]
      refine StateStep.entered same nofun nofun ?_
      have read := (netdevErrFrame_above (decide (i.rxErrorCounter > 127))
        (decide (i.txErrorCounter > 127))).1
      simp only [decide_eq_true_eq] at read
      exact read
  by_cases warning : i.pqm.msg.id = PcanfdStatus.errorWarning.code
  · simp only [if_neg busoff, if_neg passive, if_pos warning]
    by_cases same : nd.state = .errorWarning
    · rw [if_pos same]
      exact StateStep.same nd _ same
    · rw [if_neg same]
      refine StateStep.entered same nofun nofun ?_
      have read := (netdevErrFrame_above (decide (i.rxErrorCounter > 96))
        (decide (i.txErrorCounter > 96))).2
      simp only [decide_eq_true_eq] at read
      exact read
  simp only [if_neg busoff, if_neg passive, if_neg warning]
  split
  · split
    · exact StateStep.untold rfl rfl overload
    · exact StateStep.untold rfl rfl rxOverflow
  · split
    · exact StateStep.untold rfl rfl txOverflow
    · exact StateStep.untold rfl rfl unknown

theorem netdevRxStep_states (nd : PcanNetdev P) (i : NetdevInput) :
    StateStep nd i.counted i.told (netdevRxStep nd i) := by
  have untold : ∀ {nd' : PcanNetdev P} {frame : Option (CanSkb × Option Timeval)},
      i.told = none → nd'.state = nd.state → nd'.canStats = nd.canStats → frameState frame = none →
      StateStep nd i.counted i.told (nd', frame, if frame.isSome then i.told else none) := by
    intro nd' frame nothing state stats framed
    rw [nothing]
    exact StateStep.untold state stats framed
  unfold netdevRxStep pcanNetdevRx
  cases type : i.pqm.msg.type with
  | nop | errorMsg | other =>
    exact untold (if_pos (by rw [type]; exact nofun)) rfl rfl rfl
  | canfdMsg =>
    have no_status : i.pqm.msg.type ≠ .status := by rw [type]; exact nofun
    have kept := netdevCanRx_kept i.host (i.counting nd) true i.pqm
    simp only
    split
    · exact untold (if_pos no_status) rfl rfl rfl
    · split
      · exact untold (if_pos no_status) rfl rfl rfl
      · exact untold (if_pos no_status) kept.1 kept.2.1 kept.2.2
  | can20Msg =>
    have no_status : i.pqm.msg.type ≠ .status := by rw [type]; exact nofun
    have kept := netdevCanRx_kept i.host (i.counting nd) false i.pqm
    simp only
    split
    · exact untold (if_pos no_status) rfl rfl rfl
    · exact untold (if_pos no_status) kept.1 kept.2.1 kept.2.2
  | status =>
    simp only
    by_cases active : i.pqm.msg.id = PcanfdStatus.errorActive.code
    · rw [if_pos active]
      have told : i.told = some .errorActive := by
        unfold NetdevInput.told
        rw [if_neg (not_not.mpr type), if_pos active]
      rw [told]
      exact (StateStep.active (i.counting nd)).of_counting
    · rw [if_neg active]
      split
      next elsewhere =>
        refine untold ?_ rfl rfl rfl
        unfold NetdevInput.told
        rw [if_neg (not_not.mpr type), if_neg active]
        rcases elsewhere with same | same | same <;> rw [same] <;> cases i.alloc <;> rfl
      next =>
        cases alloc : i.alloc with
        | false =>
          refine untold ?_ rfl rfl rfl
          unfold NetdevInput.told
          rw [if_neg (not_not.mpr type), if_neg active, alloc]
          rfl
        | true =>
          exact (netdevStatusRx_states (i.counting nd) rfl rfl alloc type active).of_counting

/-- The states that differ from the one before them, in the order they are told. -/
def stateChanges (nd : PcanNetdev P) (inputs : List NetdevInput) : List CanState :=
  ((inputs.filterMap NetdevInput.told).destutter' (· ≠ ·) nd.state).tail

theorem destutter'_ne_tail {A : Type} [DecidableEq A] (a b : A) (rest : List A) :
    ((b :: rest).destutter' (· ≠ ·) a).tail =
      if a = b then (rest.destutter' (· ≠ ·) a).tail else b :: (rest.destutter' (· ≠ ·) b).tail := by
  have head : ∀ (c : A) (l : List A), ∃ t, l.destutter' (· ≠ ·) c = c :: t := by
    intro c l
    induction l generalizing c with
    | nil => exact ⟨[], rfl⟩
    | cons d l ih =>
      by_cases same : c = d
      · rw [List.destutter'_cons_neg _ (not_not.mpr same)]
        exact ih c
      · rw [List.destutter'_cons_pos _ same]
        exact ⟨_, rfl⟩
  by_cases same : a = b
  · rw [if_pos same, List.destutter'_cons_neg _ (not_not.mpr same)]
  · obtain ⟨t, eq⟩ := head b rest
    rw [if_neg same, List.destutter'_cons_pos _ same, eq]
    rfl

/-- Over any sequence of messages, an error frame announces exactly each change of the bus
    state other than to ERROR_ACTIVE, which can be read from it if the counters bear it out and
    from no other frame, and the statistics count the same changes. -/
theorem bus_states_announced_once (nd : PcanNetdev P) (inputs : List NetdevInput) :
    let done := run netdevRxStep nd inputs
    let changes := stateChanges nd inputs
    done.2.filterMap (·.2) = changes.filter (· ≠ .errorActive) ∧
      List.Forall₂ (fun i given => frameState given.1 = given.2.filter i.counted) inputs done.2 ∧
      done.1.state = changes.getLastD nd.state ∧
      ∀ counted ∈ [CanState.busOff, .errorPassive, .errorWarning],
        done.1.canStats.of counted = nd.canStats.of counted + changes.count counted := by
  induction inputs generalizing nd with
  | nil => exact ⟨rfl, .nil, rfl, fun _ _ => rfl⟩
  | cons i rest ih =>
    obtain ⟨state, stats, announced, framed⟩ := netdevRxStep_states nd i
    obtain ⟨frames, read, last, counts⟩ := ih (netdevRxStep nd i).1
    have counted : ∀ counted ∈ [CanState.busOff, .errorPassive, .errorWarning],
        counted ≠ .errorActive ∧ counted ≠ .stopped := by decide
    simp only [run]
    cases told : i.told with
    | none =>
      rw [told] at state stats announced
      have same : stateChanges nd (i :: rest) = stateChanges (netdevRxStep nd i).1 rest := by
        simp only [stateChanges, List.filterMap_cons, told, state, Option.getD_none]
      rw [same]
      refine ⟨?_, .cons framed read, ?_, fun c member => ?_⟩
      · rw [List.filterMap_cons, announced, frames]
        rfl
      · rw [last, state]
        rfl
      · rw [counts c member, stats c, if_neg fun both => Option.some_ne_none c both.1.symm]
        rfl
    | some st =>
      rw [told] at state stats announced
      have split : stateChanges nd (i :: rest) =
          if nd.state = st then stateChanges (netdevRxStep nd i).1 rest
          else st :: stateChanges (netdevRxStep nd i).1 rest := by
        simp only [stateChanges, List.filterMap_cons, told, state, Option.getD_some]
        rw [destutter'_ne_tail]
        by_cases same : nd.state = st
        · rw [if_pos same, if_pos same, same]
        · rw [if_neg same, if_neg same]
      by_cases same : nd.state = st
      · rw [split, if_pos same]
        refine ⟨?_, .cons framed read, ?_, fun c member => ?_⟩
        · rw [List.filterMap_cons, announced, frames]
          simp [Option.filter, same]
        · rw [last, state, same]
          rfl
        · rw [counts c member, stats c, if_neg]
          · rfl
          · rintro ⟨told, other, _⟩
            exact other ((Option.some.inj told).symm.trans same.symm)
      · rw [split, if_neg same]
        refine ⟨?_, .cons framed read, ?_, fun c member => ?_⟩
        · rw [List.filterMap_cons, announced, frames]
          by_cases active : st = .errorActive
          · simp [Option.filter, active]
          · simp [Option.filter, Ne.symm same, active]
        · rw [last, state]
          exact List.getLastD_cons.symm
        · obtain ⟨notActive, notStopped⟩ := counted c member
          rw [counts c member, stats c, List.count_cons]
          by_cases this_one : st = c
          · subst this_one
            rw [if_pos ⟨rfl, Ne.symm same, notActive, notStopped⟩, if_pos (beq_self_eq_true st)]
            omega
          · rw [if_neg fun both => this_one (Option.some.inj both.1),
              if_neg (by simpa using this_one)]
            omega

end BusStates

end PcanDriver

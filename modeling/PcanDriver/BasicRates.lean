import PcanDriver.BasicRegistry

/-!
Initialisations of PCAN-Basic that meet a channel in use. What the entry of an open channel
says of its bit rate is what the call said that opened it, together with what is left of calls
before; the comparisons that `pcanbasic_initialize` and `pcanbasic_initialize_fd` make with it
are not the same.
-/
namespace PcanDriver
open KeyedList StepSystem

variable {S : Type}

section Statement

/-- A bit rate as it is given to `CAN_Initialize` and to `CAN_InitializeFD`. -/
inductive BitRate where
  | word (btr0btr1 : U16)
  | text (bitratefd : List U8)
deriving Repr, DecidableEq

inductive Request where
  | classic (btr0btr1 : U16) (hwtype : U8) (base : U32) (irq : U16)
  | fd (bitratefd : List U8)

def Request.rate : Request → BitRate
  | .classic btr0btr1 _ _ _ => .word btr0btr1
  | .fd bitratefd => .text bitratefd

def Request.call (channel : U16) : Request → BasicCall S
  | .classic btr0btr1 hwtype base irq => .canInitialize channel btr0btr1 hwtype base irq
  | .fd bitratefd => .canInitializeFd channel (some bitratefd)

def Request.device (sys : System S) (b : Pcanbasic S) (channel : U16) :
    Request → Option Pcaninfo
  | .classic _ hwtype base irq =>
    (deviceOf sys (readied sys b channel) channel (hwtype.setWidth 32) base (irq.setWidth 32)).2
  | .fd _ => (deviceOf sys (readied sys b channel) channel 0 0 0).2

def BasicCall.rate : BasicCall S → Option BitRate
  | .canInitialize _ btr0btr1 _ _ _ => some (.word btr0btr1)
  | .canInitializeFd _ bitratefd => bitratefd.map .text
  | _ => none

/-- The rate in the last call before the handle was open. -/
def ratedAfter (h : U16) (state : Line × Option BitRate) (event : BasicCall S × BasicAnswer) :
    Line × Option BitRate :=
  (state.1.after h event.1 event.2, if state.1.opened then state.2 else event.1.rate)

/-- The rate that an open handle was initialised with. -/
def rateAfter (h : U16) (events : List (BasicCall S × BasicAnswer)) : Option BitRate :=
  (events.foldl (ratedAfter h) (.unused, none)).2

/-- The rule for a channel that the application has initialised with `first`. -/
def againStatus (bitrateAdapting : U8) (differs : Prop) [Decidable differs] : Status :=
  if bitrateAdapting ≠ 0 ∧ differs then pcanErrorCaution else pcanErrorInitialize

variable {R : Type}

/-- How the comparison with the entry comes out right. -/
def ComparesWell (rate : BitRate → R) (pchan : PcanbasicChannel) : BitRate → BitRate → Prop
  | .word first, .word asked => asked = first ∨ rate (.word asked) ≠ rate (.word first)
  | .text first, .word asked =>
    asked = pchan.btr0btr1 ↔ rate (.word asked) = rate (.text first)
  | .word first, .text asked =>
    ∃ left, pchan.bitratefd = some left ∧
      (left = asked ↔ rate (.text asked) ≠ rate (.word first))
  | .text first, .text asked =>
    pchan.bitratefd = some first ∧ asked ≠ first ∧ rate (.text asked) = rate (.text first)

def SameRates (rates : PcanfdInit → U32 × U32) (pinfo : Pcaninfo) : Request → Prop
  | .classic btr0btr1 _ _ _ => pinfo.btr0btr1 = btr0btr1.setWidth 32
  | .fd bitratefd => ∀ pfdi, pcanbasicParseFdInit true (some bitratefd) = some (0, pfdi) →
    (pinfo.nomBitrate, pinfo.dataBitrate) = rates pfdi

def NoChannel (sys : System S) (b : Pcanbasic (S × List Int)) (channel : U16) : Prop :=
  find PcanbasicChannel.channel channel b.channels = none ∧ (sys.allocate b.system.1).2 = false

def NoCopy (sys : System S) (b : Pcanbasic (S × List Int)) (channel : U16) : Prop :=
  (sys.allocate (readied sys.tracking b channel).system.1).2 = false

/-- An initialisation goes on when it calls `pcanfd_open`. -/
def GoesOn (sys : System S) (b : Pcanbasic (S × List Int)) (channel : U16) (request : Request) :
    Prop :=
  ∃ status opening, (basicStep sys b (request.call channel)).2 = some (status, some opening)

def Guarded (sys : System S) (b : Pcanbasic (S × List Int)) (channel : U16)
    (pinfo : Pcaninfo) : Request → Prop
  | .classic _ _ _ _ => True
  | .fd _ => NoChannel sys b channel ∨ NoCopy sys b channel ∨
    (pinfo.nomBitrate ≠ 0 ∧ pinfo.dataBitrate ≠ 0)

end Statement

section Entries
variable {b b₁ b₂ : Pcanbasic S} {made : PcanbasicChannel → Prop}

structure SameEntry (old pchan : PcanbasicChannel) : Prop where
  opened : -1 < old.fd
  channel : old.channel = pchan.channel
  btr0btr1 : old.btr0btr1 = pchan.btr0btr1
  bitratefd : old.bitratefd = pchan.bitratefd

theorem SameEntry.refl {pchan : PcanbasicChannel} (opened : -1 < pchan.fd) :
    SameEntry pchan pchan := ⟨opened, rfl, rfl, rfl⟩

def OpenFrom (b b' : Pcanbasic S) (made : PcanbasicChannel → Prop) : Prop :=
  ∀ pchan ∈ b'.channels, -1 < pchan.fd → made pchan ∨ ∃ old ∈ b.channels, SameEntry old pchan

theorem OpenFrom.kept (channels : b₁.channels = b.channels) : OpenFrom b b₁ made := by
  intro pchan member opened
  rw [channels] at member
  exact .inr ⟨pchan, member, .refl opened⟩

theorem OpenFrom.trans (first : OpenFrom b b₁ fun _ => False) (second : OpenFrom b₁ b₂ made) :
    OpenFrom b b₂ made := by
  intro pchan member opened
  rcases second pchan member opened with new | ⟨middle, present, same⟩
  · exact .inl new
  · rcases first middle present same.opened with none | ⟨old, before, equal⟩
    · exact none.elim
    · exact .inr ⟨old, before, equal.opened, equal.channel.trans same.channel,
        equal.btr0btr1.trans same.btr0btr1, equal.bitratefd.trans same.bitratefd⟩

theorem OpenFrom.weaken {narrow : PcanbasicChannel → Prop} (source : OpenFrom b b₁ narrow)
    (wider : ∀ pchan, narrow pchan → made pchan) : OpenFrom b b₁ made := by
  intro pchan member opened
  exact (source pchan member opened).imp_left (wider pchan)

theorem OpenFrom.remove (channel : U16) (channels : b₁.channels = b.channels) :
    OpenFrom b (b₁.remove channel) made := by
  intro pchan member opened
  have before := mem_of_mem_erase member
  rw [channels] at before
  exact .inr ⟨pchan, before, .refl opened⟩

theorem OpenFrom.insertHead {pchan : PcanbasicChannel} (new : -1 < pchan.fd → made pchan)
    (channels : b₁.channels = b.channels) : OpenFrom b (b₁.insertHead pchan) made := by
  intro entry member opened
  rcases List.mem_cons.mp member with rfl | later
  · exact .inl (new opened)
  · rw [channels] at later
    exact .inr ⟨entry, later, .refl opened⟩

theorem OpenFrom.write {channel : U16} {change : PcanbasicChannel → PcanbasicChannel}
    (changed : ∀ old, find PcanbasicChannel.channel channel b.channels = some old →
      -1 < (change old).fd → made (change old) ∨ SameEntry old (change old))
    (channels : b₁.channels = b.channels) : OpenFrom b (b₁.write channel change) made := by
  intro pchan member opened
  unfold Pcanbasic.write at member
  rw [channels] at member
  rcases mem_modify member with before | ⟨old, found, rfl⟩
  · exact .inr ⟨pchan, before, .refl opened⟩
  · exact (changed old found opened).imp_right fun same => ⟨old, mem_of_find found, same⟩

end Entries

section Calls
variable {b bs : Pcanbasic (S × List Int)} (sys : System S) {pchan : PcanbasicChannel}
  {inserted : Bool}

/-- An entry that keeps the rates of the channel that is initialised. -/
def Carries (pchan entry : PcanbasicChannel) : Prop :=
  entry.channel = pchan.channel ∧ entry.btr0btr1 = pchan.btr0btr1 ∧
    entry.bitratefd = pchan.bitratefd

def HasRate (entry : PcanbasicChannel) : Option BitRate → Prop
  | some (.word btr0btr1) => entry.btr0btr1 = btr0btr1
  | some (.text bitratefd) => entry.bitratefd = some bitratefd ∨ entry.bitratefd = none
  | none => False

theorem giveUp_openFrom {made : PcanbasicChannel → Prop} (channels : bs.channels = b.channels) :
    OpenFrom b (giveUp sys.tracking bs pchan inserted) made := by
  unfold giveUp
  obtain ⟨list, -⟩ := freeChannel_list sys (if inserted = true then bs.remove pchan.channel else bs)
    pchan
  have kept : OpenFrom b (if inserted = true then bs.remove pchan.channel else bs) made := by
    split
    · exact .remove pchan.channel channels
    · exact .kept channels
  intro entry member opened
  rw [list] at member
  exact kept entry member opened

theorem openChannel_openFrom (channels : bs.channels = b.channels) (sts : Status) (fdFlags : U32)
    (args : List U32) :
    OpenFrom b (openChannel sys.tracking bs pchan inserted sts fdFlags args).b (Carries pchan) := by
  unfold openChannel
  dsimp only
  generalize (if pchan.listenOnly = pcanParameterOn then _ else _) = flags
  generalize pcanfdOpen sys.tracking bs.system pchan.pinfo.path flags args = opened
  split
  next =>
    exact @giveUp_openFrom _ b { bs with system := opened.1 } sys _ inserted _ channels
  next =>
    generalize made : (if sts = pcanErrorOk then _ else _) = entry
    have carries : Carries pchan entry := by
      rw [← made]
      split <;> exact ⟨rfl, rfl, rfl⟩
    split
    · exact .write (fun _ _ _ => .inl carries) channels
    · exact .insertHead (fun _ => carries) channels

theorem initializeChannel_openFrom (channels : bs.channels = b.channels) (btr0btr1 : U16)
    (hwtype base irq : U32) :
    OpenFrom b (initializeChannel sys.tracking bs pchan inserted btr0btr1 hwtype base irq).b
      fun entry => entry.channel = pchan.channel ∧ HasRate entry (some (.word btr0btr1)) := by
  have looked : (deviceOf sys.tracking bs pchan.channel hwtype base irq).1.channels =
      b.channels := channels
  unfold initializeChannel
  dsimp only
  split
  next => exact giveUp_openFrom sys looked
  next pinfo found =>
    split
    next => exact giveUp_openFrom sys looked
    next =>
      refine (openChannel_openFrom sys looked _ _ _).weaken fun entry carries => ?_
      exact ⟨carries.1, carries.2.1⟩

theorem nullText_refused {copied : Bool} {err : Int} {pfdi : PcanfdInit}
    (parsed : pcanbasicParseFdInit copied none = some (err, pfdi)) : err ≠ 0 := by
  have null : some (einval, PcanfdInit.zero) = some (err, pfdi) := parsed
  have refused : einval = err := congrArg Prod.fst (Option.some.inj null)
  rw [← refused]
  decide

theorem initializeFdChannel_openFrom (continues : Continues b bs)
    {bitratefd : Option (List U8)} {result : BasicResult (S × List Int)}
    (returned : initializeFdChannel sys.tracking bs pchan inserted bitratefd = some result) :
    OpenFrom b result.b
      fun entry => entry.channel = pchan.channel ∧ HasRate entry (bitratefd.map .text) := by
  have looked := continues.deviceOf sys pchan.channel 0 0 0
  have copied := looked.allocate sys
  have duplicated := copied.allocate sys
  unfold initializeFdChannel at returned
  dsimp only at returned
  split at returned
  next =>
    obtain rfl := Option.some.inj returned
    exact giveUp_openFrom sys looked.channels
  next pinfo found =>
    obtain ⟨⟨err, fdi⟩, parsed, same⟩ := Option.map_eq_some_iff.mp returned
    dsimp only at same
    split at same
    next =>
      obtain rfl := same
      exact giveUp_openFrom sys copied.channels
    next accepted =>
      split at same
      next =>
        obtain rfl := same
        exact giveUp_openFrom sys duplicated.channels
      next =>
        obtain rfl := same
        refine (openChannel_openFrom sys duplicated.channels _ _ _).weaken fun entry carries => ?_
        refine ⟨carries.1, ?_⟩
        cases bitratefd with
        | none =>
          exact absurd (not_not.mp accepted) (nullText_refused parsed)
        | some text =>
          have text_kept := carries.2.2
          dsimp only at text_kept
          split at text_kept
          · exact .inl text_kept
          · exact .inr text_kept

theorem pcanbasicInitialize_openFrom (registered : Registered b) (channel btr0btr1 : U16)
    (hwtype : U8) (base : U32) (irq : U16) :
    OpenFrom b (pcanbasicInitialize sys.tracking b channel btr0btr1 hwtype base irq).b
      fun entry => (lineOf b entry.channel).opened = false ∧
        HasRate entry (some (.word btr0btr1)) := by
  obtain ⟨continues, -⟩ := getChannel_continues sys registered channel false
  have found := getChannel_any sys registered channel
  unfold pcanbasicInitialize
  generalize pcanbasicGetChannel sys.tracking b channel false = got at continues found
  obtain ⟨bs, pchan⟩ := got
  cases pchan with
  | some pchan =>
    dsimp only
    split
    next => exact .kept continues.channels
    next closed =>
      have named := key_of_find found.symm
      have line := lineOf_found found.symm
      refine (initializeChannel_openFrom sys continues.channels _ _ _ _).weaken
        fun entry ⟨same, rated⟩ => ⟨?_, rated⟩
      rw [same, named, line]
      exact decide_eq_false closed
  | none =>
    have line := lineOf_absent found.symm
    unfold pcanbasicCreateChannel
    dsimp only
    cases memory : (sys.tracking.allocate bs.system).2 with
    | false => exact .kept continues.channels
    | true =>
      have allocated := (continues.allocate sys).channels
      refine (initializeChannel_openFrom sys allocated _ _ _ _).weaken
        fun entry ⟨same, rated⟩ => ⟨?_, rated⟩
      rw [same]
      exact congrArg Line.opened line

theorem pcanbasicInitializeFd_openFrom (registered : Registered b) (channel : U16)
    (bitratefd : Option (List U8)) {result : BasicResult (S × List Int)}
    (returned : pcanbasicInitializeFd sys.tracking b channel bitratefd = some result) :
    OpenFrom b result.b fun entry => (lineOf b entry.channel).opened = false ∧
      HasRate entry (bitratefd.map .text) := by
  obtain ⟨continues, -⟩ := getChannel_continues sys registered channel false
  have found := getChannel_any sys registered channel
  unfold pcanbasicInitializeFd at returned
  generalize pcanbasicGetChannel sys.tracking b channel false = got at continues found returned
  obtain ⟨bs, pchan⟩ := got
  cases pchan with
  | some pchan =>
    dsimp only at returned
    split at returned
    next opened =>
      have same : result.b = bs := by
        split at returned
        · split at returned
          · exact (congrArg BasicResult.b (Option.some.inj returned)).symm
          · cases returned
        · exact (congrArg BasicResult.b (Option.some.inj returned)).symm
      rw [same]
      exact .kept continues.channels
    next closed =>
      have named := key_of_find found.symm
      have line := lineOf_found found.symm
      refine (initializeFdChannel_openFrom sys continues returned).weaken
        fun entry ⟨same, rated⟩ => ⟨?_, rated⟩
      rw [same, named, line]
      exact decide_eq_false closed
  | none =>
    have line := lineOf_absent found.symm
    unfold pcanbasicCreateChannel at returned
    dsimp only at returned
    cases memory : (sys.tracking.allocate bs.system).2 with
    | false =>
      rw [memory] at returned
      obtain rfl := Option.some.inj returned
      exact .kept continues.channels
    | true =>
      rw [memory] at returned
      have allocated := continues.allocate sys
      refine (initializeFdChannel_openFrom sys allocated returned).weaken
        fun entry ⟨same, rated⟩ => ⟨?_, rated⟩
      rw [same]
      exact congrArg Line.opened line

theorem pcanbasicUninitialize_openFrom (registered : Registered b) (channel : U16) :
    OpenFrom b ( pcanbasicUninitialize sys.tracking b channel).b fun _ => False := by
  obtain ⟨continues, -⟩ := getChannel_continues sys registered channel false
  unfold pcanbasicUninitialize
  generalize pcanbasicGetChannel sys.tracking b channel false = got at continues
  obtain ⟨bs, pchan⟩ := got
  cases pchan with
  | none => exact .kept continues.channels
  | some pchan =>
    have kept : OpenFrom b (bs.remove channel) fun _ => False :=
      .remove channel continues.channels
    obtain ⟨list, -⟩ := freeChannel_list sys (bs.remove channel) pchan
    intro entry member opened
    rw [list] at member
    exact kept entry member opened

theorem pcanbasicReset_openFrom (registered : Registered b) (channel : U16) :
    OpenFrom b (pcanbasicReset sys.tracking b channel).b fun _ => False := by
  obtain ⟨continues, -⟩ := getChannel_continues sys registered channel true
  obtain ⟨-, -, found⟩ := getChannel_started sys registered channel true
  unfold pcanbasicReset
  generalize pcanbasicGetChannel sys.tracking b channel true = got at continues found
  obtain ⟨bs, pchan⟩ := got
  cases pchan with
  | none => exact .kept continues.channels
  | some pchan =>
    obtain ⟨found, opened⟩ := Option.filter_eq_some_iff.mp found.symm
    have opened : -1 < pchan.fd := of_decide_eq_true opened
    dsimp only
    generalize pcanfdOpen sys.tracking _ _ _ _ = again
    have stays : ∀ old, find PcanbasicChannel.channel channel b.channels = some old →
        SameEntry old { old with fd := again.2 } := by
      intro old same
      obtain rfl := Option.some.inj (found.symm.trans same)
      exact ⟨opened, rfl, rfl, rfl⟩
    have written : OpenFrom b ({ bs with system := again.1 }.write channel
        fun pchan => { pchan with fd := again.2 }) fun _ => False :=
      .write (fun old same _ => .inr (stays old same)) continues.channels
    split
    · exact written
    · exact written

theorem PreInit.set_same (parameter : PreInit) (value : U8) (pchan : PcanbasicChannel)
    (opened : -1 < (parameter.set value pchan).fd) :
    SameEntry pchan (parameter.set value pchan) := by
  cases parameter <;> exact ⟨opened, rfl, rfl, rfl⟩

theorem entryFor_openFrom (registered : Registered b) (channel : U16) :
    OpenFrom b (entryFor sys.tracking b channel).1 fun _ => False := by
  obtain ⟨continues, -⟩ := getChannel_continues sys registered channel false
  unfold entryFor
  generalize pcanbasicGetChannel sys.tracking b channel false = got at continues
  obtain ⟨bs, pchan⟩ := got
  cases pchan with
  | some pchan => exact .kept continues.channels
  | none =>
    have allocated := (continues.allocate sys).channels
    unfold pcanbasicCreateChannel
    dsimp only
    split
    · exact .insertHead (fun opened => absurd opened (Int.lt_irrefl (-1))) allocated
    · exact .kept allocated

theorem pcanbasicSetValue_openFrom (registered : Registered b) (channel : U16)
    (parameter : PreInit) (buffer : Option U8) :
    OpenFrom b (pcanbasicSetValue sys.tracking b channel parameter buffer).b fun _ => False := by
  obtain ⟨made, started, present⟩ := entryFor_follows sys registered channel
  have source := entryFor_openFrom sys registered channel
  cases buffer with
  | none => exact .kept rfl
  | some value =>
    rw [pcanbasicSetValue_entry]
    split
    next => exact .kept rfl
    next =>
      split
      next => exact source
      next pchan found =>
        have written := made.registered.written started (present pchan found) parameter value
        have stored : OpenFrom b ((entryFor sys.tracking b channel).1.write channel
            (parameter.set value)) fun _ => False :=
          source.trans (.write (fun old _ opened => .inr (parameter.set_same value old opened)) rfl)
        dsimp only
        split
        next => exact stored.trans (pcanbasicReset_openFrom sys written.registered channel)
        next => exact stored

theorem basicStep_openFrom (registered : Registered b) (call : BasicCall S) :
    OpenFrom b (basicStep sys b call).1 fun entry =>
      (lineOf b entry.channel).opened = false ∧ HasRate entry call.rate := by
  have never {b' : Pcanbasic (S × List Int)} (kept : OpenFrom b b' fun _ => False) :
      OpenFrom b b' fun entry => (lineOf b entry.channel).opened = false ∧
        HasRate entry call.rate := kept.weaken fun _ => False.elim
  cases call with
  | elapsed system => exact .kept rfl
  | canInitialize channel btr0btr1 hwtype base irq =>
    exact pcanbasicInitialize_openFrom sys registered channel btr0btr1 hwtype base irq
  | canInitializeFd channel bitratefd =>
    unfold basicStep
    dsimp only
    split
    next result returned =>
      exact pcanbasicInitializeFd_openFrom sys registered channel bitratefd returned
    next => exact .kept rfl
  | canUninitialize channel =>
    exact never (pcanbasicUninitialize_openFrom sys registered channel)
  | canReset channel => exact never (pcanbasicReset_openFrom sys registered channel)
  | canSetValue channel parameter buffer =>
    exact never (pcanbasicSetValue_openFrom sys registered channel parameter buffer)

end Calls

section Runs
variable {b : Pcanbasic (S × List Int)} (sys : System S)

theorem HasRate.of_same {old entry : PcanbasicChannel} (same : SameEntry old entry)
    {rate : Option BitRate} (rated : HasRate old rate) : HasRate entry rate := by
  match rate, rated with
  | some (.word _), rated => exact same.btr0btr1.symm.trans rated
  | some (.text _), rated =>
    exact rated.imp same.bitratefd.symm.trans same.bitratefd.symm.trans

theorem member_line (registered : Registered b) {old : PcanbasicChannel}
    (member : old ∈ b.channels) : lineOf b old.channel = old.line :=
  lineOf_found (registered.unique.find_of_mem member)

def Rated (b : Pcanbasic (S × List Int)) (rates : U16 → Option BitRate) : Prop :=
  ∀ pchan ∈ b.channels, -1 < pchan.fd → HasRate pchan (rates pchan.channel)

theorem Rated.step (registered : Registered b) {rates : U16 → Option BitRate}
    (rated : Rated b rates) (call : BasicCall S) :
    Rated (basicStep sys b call).1 fun h =>
      if (lineOf b h).opened then rates h else call.rate := by
  intro pchan member opened
  rcases basicStep_openFrom sys registered call pchan member opened with
    ⟨closed, made⟩ | ⟨old, before, same⟩
  · dsimp only
    rw [closed, if_neg Bool.false_ne_true]
    exact made
  · have line := member_line registered before
    rw [same.channel] at line
    have was : (lineOf b pchan.channel).opened = true := line ▸ decide_eq_true same.opened
    have kept := rated old before same.opened
    rw [same.channel] at kept
    dsimp only
    rw [was, if_pos rfl]
    exact kept.of_same same

theorem run_rated (registered : Registered b) {rates : U16 → Option BitRate}
    (rated : Rated b rates) (calls : List (BasicCall S)) :
    Rated (run (basicStep sys) b calls).1 fun h =>
      ((calls.zip (run (basicStep sys) b calls).2).foldl (ratedAfter h)
        (lineOf b h, rates h)).2 := by
  induction calls generalizing b rates with
  | nil => exact rated
  | cons call calls ih =>
    obtain ⟨kept, lines⟩ := basicStep_follows sys registered call
    have last := ih kept (rated.step sys registered call)
    intro pchan member opened
    have rate := last pchan member opened
    dsimp only at rate
    rw [lines] at rate
    exact rate

end Runs

section Again
variable {b : Pcanbasic (S × List Int)} (sys : System S) {channel : U16}
  {pchan : PcanbasicChannel}

theorem initialize_again (registered : Registered b)
    (found : find PcanbasicChannel.channel channel b.channels = some pchan)
    (opened : -1 < pchan.fd) (btr0btr1 : U16) (hwtype : U8) (base : U32) (irq : U16) :
    (basicStep sys b (.canInitialize channel btr0btr1 hwtype base irq)).2 =
      some (if pchan.btr0btr1 ≠ btr0btr1 ∧ pchan.bitrateAdapting ≠ 0 then pcanErrorCaution
        else pcanErrorInitialize, none) := by
  have got := (getChannel_any sys registered channel).trans found
  unfold basicStep pcanbasicInitialize
  dsimp only
  rw [got]
  dsimp only
  rw [if_pos opened]
  rfl

theorem initializeFd_again (registered : Registered b)
    (found : find PcanbasicChannel.channel channel b.channels = some pchan)
    (opened : -1 < pchan.fd) (bitratefd : List U8) :
    (basicStep sys b (.canInitializeFd channel (some bitratefd))).2 =
      if pchan.bitrateAdapting ≠ 0 then
        pchan.bitratefd.map fun before =>
          (if before = bitratefd then pcanErrorCaution else pcanErrorInitialize, none)
      else some (pcanErrorInitialize, none) := by
  have got := (getChannel_any sys registered channel).trans found
  unfold basicStep pcanbasicInitializeFd
  dsimp only
  rw [got]
  dsimp only
  rw [if_pos opened]
  by_cases adapting : pchan.bitrateAdapting ≠ 0
  · rw [if_pos adapting, if_pos adapting]
    cases pchan.bitratefd <;> rfl
  · rw [if_neg adapting, if_neg adapting]
    rfl

theorem againStatus_off (differs : Prop) [Decidable differs] :
    againStatus 0 differs = pcanErrorInitialize :=
  if_neg fun both => both.1 rfl

theorem cautions_agree {p q : Prop} [Decidable p] [Decidable q] :
    (if p then pcanErrorCaution else pcanErrorInitialize) =
      (if q then pcanErrorCaution else pcanErrorInitialize) ↔ (p ↔ q) := by
  have apart : pcanErrorCaution ≠ pcanErrorInitialize := by decide
  by_cases left : p
  · by_cases right : q
    · simp [left, right]
    · simp [left, right, apart]
  · by_cases right : q
    · simp [left, right, apart.symm]
    · simp [left, right]

theorem word_compares {R : Type} (rate : BitRate → R) {first : BitRate}
    (rated : HasRate pchan (some first)) (asked : U16) :
    (pchan.btr0btr1 = asked ↔ rate (.word asked) = rate first) ↔
      ComparesWell rate pchan first (.word asked) := by
  cases first with
  | word first =>
    obtain rfl : pchan.btr0btr1 = first := rated
    have reflexive (same : pchan.btr0btr1 = asked) :
        rate (.word asked) = rate (.word pchan.btr0btr1) := by rw [same]
    unfold ComparesWell
    constructor
    · intro agrees
      by_cases same : rate (.word asked) = rate (.word pchan.btr0btr1)
      · exact .inl (agrees.mpr same).symm
      · exact .inr same
    · rintro (same | differs)
      · exact iff_of_true same.symm (reflexive same.symm)
      · exact iff_of_false (fun same => differs (reflexive same)) differs
  | text first =>
    unfold ComparesWell
    rw [eq_comm]

theorem text_compares {R : Type} (rate : BitRate → R) {first : BitRate}
    (rated : HasRate pchan (some first)) (asked : List U8) :
    (∃ left, pchan.bitratefd = some left ∧
        (left = asked ↔ rate (.text asked) ≠ rate first)) ↔
      ComparesWell rate pchan first (.text asked) := by
  cases first with
  | word first => exact Iff.rfl
  | text first =>
    unfold ComparesWell
    constructor
    · rintro ⟨left, kept, agrees⟩
      have same : left = first := by
        rcases rated with whole | missing
        · exact Option.some.inj (kept.symm.trans whole)
        · cases kept.symm.trans missing
      obtain rfl := same
      have other : asked ≠ left := fun same => agrees.mp same.symm (same ▸ rfl)
      exact ⟨kept, other, not_not.mp (mt agrees.mpr (Ne.symm other))⟩
    · rintro ⟨kept, other, same⟩
      exact ⟨first, kept, iff_of_false (Ne.symm other) (not_not.mpr same)⟩

theorem again_iff {R : Type} [DecidableEq R] (rate : BitRate → R) (registered : Registered b)
    (found : find PcanbasicChannel.channel channel b.channels = some pchan)
    (opened : -1 < pchan.fd) {first : BitRate} (rated : HasRate pchan (some first))
    (request : Request) :
    (basicStep sys b (request.call channel)).2 =
        some (againStatus pchan.bitrateAdapting (rate request.rate ≠ rate first), none) ↔
      pchan.bitrateAdapting = 0 ∨ ComparesWell rate pchan first request.rate := by
  by_cases adapting : pchan.bitrateAdapting = 0
  · rw [adapting, againStatus_off]
    refine iff_of_true ?_ (.inl rfl)
    cases request with
    | classic btr0btr1 hwtype base irq =>
      have off : ¬(pchan.btr0btr1 ≠ btr0btr1 ∧ pchan.bitrateAdapting ≠ 0) :=
        fun both => both.2 adapting
      rw [Request.call, initialize_again sys registered found opened, if_neg off]
    | fd bitratefd =>
      rw [Request.call, initializeFd_again sys registered found opened,
        if_neg (not_not.mpr adapting)]
  · rw [or_iff_right adapting]
    cases request with
    | classic btr0btr1 hwtype base irq =>
      rw [Request.call, initialize_again sys registered found opened, Option.some.injEq,
        Prod.mk.injEq, and_iff_left rfl, againStatus, cautions_agree, and_iff_left adapting,
        and_iff_right adapting, not_iff_not]
      exact word_compares rate rated btr0btr1
    | fd bitratefd =>
      rw [Request.call, initializeFd_again sys registered found opened, if_pos adapting]
      refine Iff.trans ?_ (text_compares rate rated bitratefd)
      rw [Option.map_eq_some_iff]
      refine exists_congr fun left => and_congr_right fun _ => ?_
      rw [Prod.mk.injEq, and_iff_left rfl, againStatus, cautions_agree, and_iff_right adapting]
      rfl

end Again

section Used
variable {b : Pcanbasic (S × List Int)} (sys : System S) {channel : U16}

def Request.result (sys : System S) (b : Pcanbasic S) (channel : U16) :
    Request → Option (BasicResult S)
  | .classic btr0btr1 hwtype base irq =>
    some (pcanbasicInitialize sys b channel btr0btr1 hwtype base irq)
  | .fd bitratefd => pcanbasicInitializeFd sys b channel (some bitratefd)

/-- What is done with the channel that is taken. -/
def Request.proceed (sys : System S) (b : Pcanbasic S) (pchan : PcanbasicChannel)
    (inserted : Bool) : Request → Option (BasicResult S)
  | .classic btr0btr1 hwtype base irq =>
    some (initializeChannel sys b pchan inserted btr0btr1 (hwtype.setWidth 32) base
      (irq.setWidth 32))
  | .fd bitratefd => initializeFdChannel sys b pchan inserted (some bitratefd)

/-- The call comes to `pcanfd_open`. -/
def Opens (result : Option (BasicResult S)) : Prop :=
  ∃ ended, result = some ended ∧ ended.opening.isSome = true

theorem goesOn_iff (request : Request) :
    GoesOn sys b channel request ↔ Opens (request.result sys.tracking b channel) := by
  have answers (result : Option (BasicResult (S × List Int))) :
      (∃ status opening, result.bind BasicResult.answer = some (status, some opening)) ↔
        Opens result := by
    constructor
    · rintro ⟨status, opening, answer⟩
      obtain ⟨ended, returned, same⟩ := Option.bind_eq_some_iff.mp answer
      obtain ⟨-, called⟩ := Prod.mk.inj (Option.some.inj same)
      exact ⟨ended, returned, called ▸ rfl⟩
    · rintro ⟨ended, rfl, called⟩
      obtain ⟨opening, called⟩ := Option.isSome_iff_exists.mp called
      exact ⟨ended.status, opening, congrArg (fun opening => some (ended.status, opening)) called⟩
  rw [← answers]
  unfold GoesOn
  cases request with
  | classic btr0btr1 hwtype base irq => exact Iff.rfl
  | fd bitratefd =>
    unfold Request.call Request.result basicStep
    dsimp only
    cases pcanbasicInitializeFd sys.tracking b channel (some bitratefd) <;> exact Iff.rfl

/-- How the initialisations of a handle that is not open come to look for the device. -/
inductive Looks (b : Pcanbasic (S × List Int)) (channel : U16) : Prop where
  | unmade (missing : NoChannel sys b channel)
      (ends : ∀ request : Request, ¬Opens (request.result sys.tracking b channel))
  | ready (pchan : PcanbasicChannel) (inserted : Bool) (present : ¬NoChannel sys b channel)
      (named : pchan.channel = channel)
      (adapting : pchan.bitrateAdapting = (lineOf b channel).bitrateAdapting)
      (goes : ∀ request : Request, request.result sys.tracking b channel =
        request.proceed sys.tracking (readied sys.tracking b channel) pchan inserted)

theorem createChannel_unlisted (bs : Pcanbasic (S × List Int)) (channel : U16) :
    pcanbasicCreateChannel sys.tracking bs channel false =
      ({ bs with system := (sys.tracking.allocate bs.system).1 },
        if (sys.tracking.allocate bs.system).2 then some (newChannel channel) else none) := by
  unfold pcanbasicCreateChannel
  dsimp only
  split <;> rfl

theorem looks (registered : Registered b) (closed : (lineOf b channel).opened = false) :
    Looks sys b channel := by
  have system := (getChannel_continues sys registered channel false).2
  have found := getChannel_any sys registered channel
  cases present : find PcanbasicChannel.channel channel b.channels with
  | some pchan =>
    have line := lineOf_found present
    have shut : ¬-1 < pchan.fd := of_decide_eq_false ((congrArg Line.opened line).symm.trans closed)
    refine .ready pchan true ?_ (key_of_find present) (congrArg Line.bitrateAdapting line.symm) ?_
    · intro missing
      cases present.symm.trans missing.1
    · intro request
      have got := found.trans present
      cases request with
      | classic btr0btr1 hwtype base irq =>
        refine congrArg some ?_
        unfold pcanbasicInitialize readied
        generalize pcanbasicGetChannel sys.tracking b channel false = taken at got
        obtain ⟨bs, rfl⟩ : ∃ bs, taken = (bs, some pchan) := ⟨taken.1, Prod.ext rfl got⟩
        exact if_neg shut
      | fd bitratefd =>
        unfold Request.result Request.proceed pcanbasicInitializeFd readied
        generalize pcanbasicGetChannel sys.tracking b channel false = taken at got
        obtain ⟨bs, rfl⟩ : ∃ bs, taken = (bs, some pchan) := ⟨taken.1, Prod.ext rfl got⟩
        exact if_neg shut
  | none =>
    have got := found.trans present
    have line := lineOf_absent present
    have created := createChannel_unlisted sys
      (pcanbasicGetChannel sys.tracking b channel false).1 channel
    rw [system] at created
    cases memory : (sys.allocate b.system.1).2 with
    | false =>
      have refused : (sys.tracking.allocate b.system).2 = false := memory
      rw [refused, if_neg Bool.false_ne_true] at created
      refine .unmade ⟨present, memory⟩ fun request => ?_
      have ends (ended : BasicResult (S × List Int)) (nothing : ended.opening = none) :
          ¬Opens (some ended) := by
        rintro ⟨_, same, called⟩
        obtain rfl := Option.some.inj same
        rw [nothing] at called
        exact absurd called nofun
      cases request with
      | classic btr0btr1 hwtype base irq =>
        refine ends _ ?_
        unfold pcanbasicInitialize
        dsimp only
        rw [got]
        dsimp only
        rw [created]
      | fd bitratefd =>
        unfold Request.result pcanbasicInitializeFd
        dsimp only
        rw [got]
        dsimp only
        rw [created]
        exact ends _ rfl
    | true =>
      have allowed : (sys.tracking.allocate b.system).2 = true := memory
      rw [allowed, if_pos rfl] at created
      refine .ready (newChannel channel) false ?_ rfl (congrArg Line.bitrateAdapting line.symm) ?_
      · intro missing
        exact absurd (missing.2.symm.trans memory) nofun
      · intro request
        unfold readied
        cases request with
        | classic btr0btr1 hwtype base irq =>
          unfold Request.result Request.proceed pcanbasicInitialize
          generalize pcanbasicGetChannel sys.tracking b channel false = taken at got created
          obtain ⟨bs, rfl⟩ : ∃ bs, taken = (bs, none) := ⟨taken.1, Prod.ext rfl got⟩
          dsimp only at created ⊢
          rw [created]
        | fd bitratefd =>
          unfold Request.result Request.proceed pcanbasicInitializeFd
          generalize pcanbasicGetChannel sys.tracking b channel false = taken at got created
          obtain ⟨bs, rfl⟩ : ∃ bs, taken = (bs, none) := ⟨taken.1, Prod.ext rfl got⟩
          dsimp only at created ⊢
          rw [created]

variable {bs : Pcanbasic (S × List Int)} {pchan : PcanbasicChannel} {pinfo : Pcaninfo}

theorem openChannel_opens (at_ : Pcanbasic (S × List Int)) (pchan : PcanbasicChannel)
    (inserted : Bool) (sts : Status) (fdFlags : U32) (args : List U32) :
    (openChannel sys.tracking at_ pchan inserted sts fdFlags args).opening.isSome = true := by
  obtain ⟨answer, opening⟩ := openChannel_opening sys.tracking at_ pchan inserted sts fdFlags args
  rw [opening]
  rfl

theorem initializeChannel_opens (inserted : Bool) {hwtype base irq : U32}
    (device : (deviceOf sys.tracking bs pchan.channel hwtype base irq).2 = some pinfo)
    (used : pinfo.busState ≠ 0) (adapting : pchan.bitrateAdapting = 0) (btr0btr1 : U16) :
    (initializeChannel sys.tracking bs pchan inserted btr0btr1 hwtype base irq).opening.isSome =
        true ↔
      pinfo.btr0btr1 = btr0btr1.setWidth 32 := by
  unfold initializeChannel
  dsimp only
  rw [device]
  dsimp only
  split
  next refused => exact iff_of_false Bool.false_ne_true refused.2.2
  next same =>
    have agrees := not_not.mp fun other => same ⟨used, adapting, other⟩
    exact iff_of_true (openChannel_opens sys _ _ _ _ _ _) agrees

theorem parsed_given {copied : Bool} {bitratefd : List U8} {err : Int} {pfdi : PcanfdInit}
    (parsed : pcanbasicParseFdInit copied (some bitratefd) = some (err, pfdi)) :
    copied = true ∧ err = 0 ∨ copied = false ∧ err ≠ 0 := by
  cases copied with
  | true =>
    obtain ⟨settings, -, same⟩ := Option.map_eq_some_iff.mp parsed
    exact .inl ⟨rfl, (congrArg Prod.fst same).symm⟩
  | false =>
    have same : some (enomem, PcanfdInit.zero) = some (err, pfdi) := parsed
    have refused : enomem = err := congrArg Prod.fst (Option.some.inj same)
    exact .inr ⟨rfl, refused ▸ by decide⟩

theorem initializeFdChannel_opens (inserted : Bool)
    (device : (deviceOf sys.tracking bs pchan.channel 0 0 0).2 = some pinfo)
    (used : pinfo.busState ≠ 0) (adapting : pchan.bitrateAdapting = 0) (bitratefd : List U8) :
    Opens (initializeFdChannel sys.tracking bs pchan inserted (some bitratefd)) ↔
      (sys.allocate bs.system.1).2 = true ∧
        (∃ pfdi, pcanbasicParseFdInit true (some bitratefd) = some (0, pfdi)) ∧
        ¬(pinfo.nomBitrate ≠ 0 ∧ pinfo.dataBitrate ≠ 0) := by
  have copied : (sys.tracking.allocate (deviceOf sys.tracking bs pchan.channel 0 0 0).1.system).2 =
      (sys.allocate bs.system.1).2 := rfl
  unfold initializeFdChannel Opens
  dsimp only
  rw [device]
  dsimp only
  rw [copied]
  cases parsed : pcanbasicParseFdInit (sys.allocate bs.system.1).2 (some bitratefd) with
  | none =>
    refine iff_of_false (fun ⟨_, returned, _⟩ => nomatch returned) ?_
    rintro ⟨memory, ⟨pfdi, accepted⟩, -⟩
    rw [memory] at parsed
    cases parsed.symm.trans accepted
  | some settings =>
    obtain ⟨err, pfdi⟩ := settings
    rw [Option.map_some]
    dsimp only
    rcases parsed_given parsed with ⟨memory, rfl⟩ | ⟨memory, refused⟩
    · have unrated := pcanbasicParseFdInit_unrated parsed
      rw [if_neg (not_not.mpr rfl), unrated.nominal, unrated.data]
      rw [memory] at parsed
      split
      next refused =>
        refine iff_of_false ?_ fun goes => goes.2.2 refused.2.2
        rintro ⟨ended, same, called⟩
        obtain rfl := Option.some.inj same
        exact absurd called Bool.false_ne_true
      next accepted =>
        refine iff_of_true ⟨_, rfl, openChannel_opens sys _ _ _ _ _ _⟩ ⟨memory, ⟨pfdi, parsed⟩, ?_⟩
        exact fun both => accepted ⟨used, adapting, both⟩
    · rw [if_pos refused]
      refine iff_of_false ?_ fun goes => absurd (memory.symm.trans goes.1) nofun
      rintro ⟨ended, same, called⟩
      obtain rfl := Option.some.inj same
      exact absurd called Bool.false_ne_true

theorem used_iff (rates : PcanfdInit → U32 × U32) (registered : Registered b)
    (closed : (lineOf b channel).opened = false) (adapting : (lineOf b channel).bitrateAdapting = 0)
    {request : Request} {pinfo : Pcaninfo}
    (device : request.device sys.tracking b channel = some pinfo) (used : pinfo.busState ≠ 0) :
    (GoesOn sys b channel request → SameRates rates pinfo request) ↔
      SameRates rates pinfo request ∨ Guarded sys b channel pinfo request := by
  rw [goesOn_iff]
  cases looks sys registered closed with
  | unmade missing ends =>
    refine iff_of_true (fun goes => absurd goes (ends request)) (.inr ?_)
    cases request with
    | classic => trivial
    | fd => exact .inl missing
  | ready pchan inserted present named same goes =>
    obtain rfl := named
    rw [goes]
    rw [← same] at adapting
    cases request with
    | classic btr0btr1 hwtype base irq =>
      refine iff_of_true ?_ (.inr trivial)
      rintro ⟨ended, returned, called⟩
      obtain rfl := Option.some.inj returned
      exact (initializeChannel_opens sys inserted device used adapting btr0btr1).mp called
    | fd bitratefd =>
      have opens := initializeFdChannel_opens sys inserted device used adapting bitratefd
      constructor
      · intro keeps
        by_cases guarded : Guarded sys b pchan.channel pinfo (.fd bitratefd)
        · exact .inr guarded
        · refine .inl fun pfdi parsed => keeps (opens.mpr ⟨?_, ⟨pfdi, parsed⟩, ?_⟩) pfdi parsed
          · exact Bool.eq_true_of_not_eq_false fun nothing => guarded (.inr (.inl nothing))
          · exact fun both => guarded (.inr (.inr both))
      · rintro (same | missing | uncopied | both) called
        · exact same
        · exact absurd missing present
        · exact absurd (uncopied.symm.trans (opens.mp called).1) nofun
        · exact absurd both (opens.mp called).2.2

/-- After any calls, an initialisation of an open handle goes by the rule, whatever is meant by
    the rate of a word or a text, exactly when adapting is off or the comparison with the entry
    comes out right; and one of a device in use, with adapting off, goes on only at the rates of
    the device exactly when these are asked for or what is compared is enough for that. -/
theorem used_channel_iff {R : Type} [DecidableEq R] (rate : BitRate → R)
    (rates : PcanfdInit → U32 × U32) (sys : System S) (start : S) (calls : List (BasicCall S))
    (channel : U16) :
    let b := (run (basicStep sys) (unstarted start) calls).1
    let events := calls.zip (run (basicStep sys) (unstarted start) calls).2
    let adapting := (lineAfter channel events).bitrateAdapting
    (∀ pchan, (pcanbasicGetChannel sys.tracking b channel true).2 = some pchan →
      ∃ first, rateAfter channel events = some first ∧ ∀ request : Request,
        ((basicStep sys b (request.call channel)).2 =
            some (againStatus adapting (rate request.rate ≠ rate first), none) ↔
          adapting = 0 ∨ ComparesWell rate pchan first request.rate)) ∧
    ((lineAfter channel events).opened = false → adapting = 0 → ∀ (request : Request) pinfo,
      request.device sys.tracking b channel = some pinfo → pinfo.busState ≠ 0 →
        ((GoesOn sys b channel request → SameRates rates pinfo request) ↔
          SameRates rates pinfo request ∨ Guarded sys b channel pinfo request)) := by
  intro b events adapting
  obtain ⟨registered, lines⟩ := run_follows sys (unstarted_registered start) calls
  have line : lineOf b channel = lineAfter channel events := lines channel
  have nothing : Rated (unstarted start) fun _ => none := fun _ member _ => nomatch member
  have rated := run_rated sys (unstarted_registered start) nothing calls
  refine ⟨fun pchan taken => ?_, fun closed off request pinfo device used => ?_⟩
  · obtain ⟨devices, -, found⟩ := getChannel_started sys registered channel true
    obtain ⟨found, opened⟩ := Option.filter_eq_some_iff.mp (found.symm.trans taken)
    have opened : -1 < pchan.fd := of_decide_eq_true opened
    have has := rated pchan (mem_of_find found) opened
    rw [key_of_find found] at has
    have has : HasRate pchan (rateAfter channel events) := has
    have parameter : adapting = pchan.bitrateAdapting :=
      congrArg Line.bitrateAdapting (line.symm.trans (lineOf_found found))
    cases first : rateAfter channel events with
    | none =>
      rw [first] at has
      exact has.elim
    | some first' =>
      rw [first] at has
      refine ⟨first', rfl, fun request => ?_⟩
      rw [parameter]
      exact again_iff sys rate registered found opened has request
  · have closed : (lineOf b channel).opened = false := line ▸ closed
    have off : (lineOf b channel).bitrateAdapting = 0 := line ▸ off
    exact used_iff sys rates registered closed off device used

end Used

section Samples

/-- A USB device that another application uses at 500 kbit/s, without a data rate. -/
def usedSystem : System Nat :=
  { sampleSystem with
    pcaninfoGet := fun _ =>
      [{ sampleDevice "/dev/pcanusb0" .usb 11 0 0 with busState := 1, nomBitrate := 500000 }] }

/-- 1 Mbit/s and 2 Mbit/s. -/
def fdText : List U8 :=
  ascii "f_clock=80000000,nom_brp=2,nom_tseg1=29,nom_tseg2=10,data_brp=2,data_tseg1=14,data_tseg2=5"

/-- The rates that settings give by their timings. -/
def timedRates (pfdi : PcanfdInit) : U32 × U32 :=
  (pfdi.clockHz / (pfdi.nominal.brp * (1 + pfdi.nominal.tseg1 + pfdi.nominal.tseg2)),
    pfdi.clockHz / (pfdi.data.brp * (1 + pfdi.data.tseg1 + pfdi.data.tseg2)))

def fdCalls : List (BasicCall Nat) :=
  [.canSetValue pcanUsbbus1 .bitrateAdapting (some pcanParameterOn),
    .canInitializeFd pcanUsbbus1 (some fdText)]

/-- The same text again is taken for another rate, and a device that is in use at other rates
    is opened. -/
theorem fd_rates_confused :
    (¬∀ (sys : System Nat) (calls : List (BasicCall Nat)) (channel : U16) (request : Request)
      (pchan : PcanbasicChannel),
      let b := (run (basicStep sys) (unstarted 0) calls).1
      let events := calls.zip (run (basicStep sys) (unstarted 0) calls).2
      (pcanbasicGetChannel sys.tracking b channel true).2 = some pchan →
        ∀ first, rateAfter channel events = some first →
          (basicStep sys b (request.call channel)).2 =
            some (againStatus pchan.bitrateAdapting (request.rate ≠ first), none)) ∧
    ¬∀ (sys : System Nat) (channel : U16) (request : Request) (pinfo : Pcaninfo),
      request.device sys.tracking (unstarted 0) channel = some pinfo → pinfo.busState ≠ 0 →
        GoesOn sys (unstarted 0) channel request → SameRates timedRates pinfo request := by
  constructor
  · intro rule
    have entry : ((pcanbasicGetChannel sampleSystem.tracking
        (run (basicStep sampleSystem) (unstarted 0) fdCalls).1 pcanUsbbus1 true).2.map
          PcanbasicChannel.bitrateAdapting) = some pcanParameterOn := by decide +kernel
    obtain ⟨pchan, found, adapting⟩ := Option.map_eq_some_iff.mp entry
    have again := rule sampleSystem fdCalls pcanUsbbus1 (.fd fdText) pchan found (.text fdText)
      (by decide +kernel)
    rw [adapting] at again
    exact absurd again (by decide +kernel)
  · intro rule
    have device : ((Request.fd fdText).device usedSystem.tracking (unstarted 0) pcanUsbbus1).map
        (fun pinfo => (pinfo.busState, pinfo.nomBitrate)) = some (1, 500000) := by decide +kernel
    obtain ⟨pinfo, found, same⟩ := Option.map_eq_some_iff.mp device
    obtain ⟨used, nominal⟩ := Prod.mk.inj same
    have goes : GoesOn usedSystem (unstarted 0) pcanUsbbus1 (.fd fdText) :=
      ⟨pcanErrorOk, (ofdBitrate ||| ofdDbitrate ||| ofdBrptsegsjw ||| ofdClockhz |||
        ofdNonblocking, 3), by decide +kernel⟩
    have asked : (pcanbasicParseFdInit true (some fdText)).map
        (fun parsed => (parsed.1, timedRates parsed.2)) = some (0, 1000000, 2000000) := by
      decide +kernel
    obtain ⟨⟨err, pfdi⟩, parsed, rates⟩ := Option.map_eq_some_iff.mp asked
    obtain ⟨rfl, rates⟩ := Prod.mk.inj rates
    have rated := rule usedSystem pcanUsbbus1 (.fd fdText) pinfo found (used ▸ by decide) goes pfdi
      parsed
    rw [rates, nominal] at rated
    have other : (500000 : U32) = 1000000 := congrArg Prod.fst rated
    exact absurd other (by decide)

end Samples

end PcanDriver

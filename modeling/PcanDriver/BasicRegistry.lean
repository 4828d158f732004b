import PcanDriver.Lib.StepSystem
import PcanDriver.Lib.Masks
import PcanDriver.BasicChannels

/-!
What the calls of PCAN-Basic make of the list of channels: for each handle one entry at most,
whose parameters are those set since it was made, and open exactly from an initialisation that
succeeds to an uninitialisation or a reset that cannot open the device again. The descriptors
that the library holds are those of the open entries.
-/
namespace PcanDriver
open KeyedList StepSystem

variable {S : Type}

section Statement

/-- A system that keeps a list of the descriptors that are open. -/
def System.tracking (sys : System S) : System (S × List Int) where
  openFile t path mode :=
    let opened := sys.openFile t.1 path mode
    ((opened.1, if opened.2 < 0 then t.2 else opened.2 :: t.2), opened.2)
  closeFile t fd := (sys.closeFile t.1 fd, t.2.erase fd)
  getInit t fd := (((sys.getInit t.1 fd).1, t.2), (sys.getInit t.1 fd).2)
  setInit t fd pfdi := (((sys.setInit t.1 fd pfdi).1, t.2), (sys.setInit t.1 fd pfdi).2)
  delFilters t fd := (sys.delFilters t.1 fd, t.2)
  sendMsg t fd msg := (((sys.sendMsg t.1 fd msg).1, t.2), (sys.sendMsg t.1 fd msg).2)
  recvMsg t fd := (((sys.recvMsg t.1 fd).1, t.2), (sys.recvMsg t.1 fd).2)
  pcaninfoGet t := sys.pcaninfoGet t.1
  pcaninfoUpdate t := sys.pcaninfoUpdate t.1
  outdated t := sys.outdated t.1
  allocate t := (((sys.allocate t.1).1, t.2), (sys.allocate t.1).2)

/-- What an application does, and what happens to the system meanwhile. -/
inductive BasicCall (S : Type) where
  | elapsed (system : S)
  | canInitialize (channel btr0btr1 : U16) (hwtype : U8) (base : U32) (irq : U16)
  | canInitializeFd (channel : U16) (bitratefd : Option (List U8))
  | canUninitialize (channel : U16) (one : channel ≠ pcanNonebus)
  | canReset (channel : U16)
  | canSetValue (channel : U16) (parameter : PreInit) (buffer : Option U8)

/-- Status, flags given to `pcanfd_open` and its answer; nothing if the call does not return. -/
abbrev BasicAnswer := Option (Status × Option (U32 × Int))

def BasicResult.answer (result : BasicResult S) : BasicAnswer :=
  some (result.status, result.opening)

/-- A call that does not return leaves things as they are, for nothing is called after it. -/
def basicStep (sys : System S) (b : Pcanbasic (S × List Int)) :
    BasicCall S → Pcanbasic (S × List Int) × BasicAnswer
  | .elapsed system => ({ b with system := (system, b.system.2) }, none)
  | .canInitialize channel btr0btr1 hwtype base irq =>
    let result := pcanbasicInitialize sys.tracking b channel btr0btr1 hwtype base irq
    (result.b, result.answer)
  | .canInitializeFd channel bitratefd =>
    match pcanbasicInitializeFd sys.tracking b channel bitratefd with
    | some result => (result.b, result.answer)
    | none => (b, none)
  | BasicCall.canUninitialize channel _ =>
    let result := pcanbasicUninitialize sys.tracking b channel
    (result.b, result.answer)
  | .canReset channel =>
    let result := pcanbasicReset sys.tracking b channel
    (result.b, result.answer)
  | .canSetValue channel parameter buffer =>
    let result := pcanbasicSetValue sys.tracking b channel parameter buffer
    (result.b, result.answer)

structure Line where
  opened : Bool
  listenOnly : U8
  rcvStatus : U8
  bitrateAdapting : U8
deriving Repr, DecidableEq

def Line.unused : Line := ⟨false, pcanParameterOff, pcanParameterOn, pcanParameterOff⟩

def Line.set (line : Line) : PreInit → U8 → Line
  | .listenOnly, value => { line with listenOnly := value }
  | .receiveStatus, value => { line with rcvStatus := value }
  | .bitrateAdapting, value => { line with bitrateAdapting := value }

def succeeded (status : Status) : Prop := status = pcanErrorOk ∨ status = pcanErrorCaution

instance (status : Status) : Decidable (succeeded status) := inferInstanceAs (Decidable (_ ∨ _))

/-- An initialisation of a handle that is not open: if it fails, nothing is left of it. -/
def Line.initialized (line : Line) (status : Status) : Line :=
  if line.opened then line
  else if succeeded status then { line with opened := true } else .unused

def Line.reopened (line : Line) : Option (U32 × Int) → Line
  | some (_, fd) => if fd < 0 then { line with opened := false } else line
  | none => line

/-- The parameter is stored unless the value is refused or there is no memory. -/
def Line.stored (line : Line) (parameter : PreInit) (buffer : Option U8) (status : Status) : Line :=
  match buffer with
  | some value =>
    if status = pcanErrorIllparamval ∨ status = pcanErrorUnknown then line
    else line.set parameter value
  | none => line

/-- What a call makes of what stands behind `h`. -/
def Line.after (h : U16) (line : Line) : BasicCall S → BasicAnswer → Line
  | .elapsed _, _ | _, none => line
  | .canInitialize channel .., some (status, _) | .canInitializeFd channel _, some (status, _) =>
    if channel = h then line.initialized status else line
  | BasicCall.canUninitialize channel _, some _ => if channel = h then .unused else line
  | .canReset channel, some (_, opening) => if channel = h then line.reopened opening else line
  | .canSetValue channel parameter buffer, some (status, opening) =>
    if channel = h then (line.stored parameter buffer status).reopened opening else line

def lineAfter (h : U16) (calls : List (BasicCall S × BasicAnswer)) : Line :=
  calls.foldl (fun line event => line.after h event.1 event.2) .unused

def unstarted (start : S) : Pcanbasic (S × List Int) := ⟨false, [], [], (start, [])⟩

/-- An initialisation when it looks for the device. -/
def readied (sys : System S) (b : Pcanbasic S) (channel : U16) : Pcanbasic S :=
  match pcanbasicGetChannel sys b channel false with
  | (b, some _) => b
  | (b, none) => (pcanbasicCreateChannel sys b channel false).1

/-- How an initialisation of a handle ends, and that it uses the parameters in `line`.
    `textRefused` is for a bit rate that is given as text. -/
structure InitialiseSound (b : Pcanbasic (S × List Int)) (channel : U16) (line : Line)
    (device : Option Pcaninfo) (textRefused : Prop) (result : BasicResult (S × List Int)) :
    Prop where
  again : line.opened = true → result.b.channels = b.channels ∧ result.b.system = b.system ∧
    (result.status = pcanErrorCaution ∨ result.status = pcanErrorInitialize)
  failed : line.opened = false → ¬succeeded result.status →
    find PcanbasicChannel.channel channel result.b.channels = none ∧
      result.b.system.2 = b.system.2
  listenOnly : ∀ flags fd, result.opening = some (flags, fd) →
    (flags &&& pcanfdInitListenOnly ≠ 0 ↔ line.listenOnly = pcanParameterOn)
  adapting : line.opened = false → succeeded result.status → ∃ pinfo, device = some pinfo ∧
    (result.status = pcanErrorCaution ↔ pinfo.busState ≠ 0 ∧ line.bitrateAdapting ≠ 0)
  refused : line.opened = false → result.status = pcanErrorInitialize →
    textRefused ∨ ∃ pinfo, device = some pinfo ∧ pinfo.busState ≠ 0 ∧ line.bitrateAdapting = 0

end Statement

section Entries

def openDescriptor (pchan : PcanbasicChannel) : List Int :=
  if -1 < pchan.fd then [pchan.fd] else []

def PcanbasicChannel.line (pchan : PcanbasicChannel) : Line :=
  ⟨decide (-1 < pchan.fd), pchan.listenOnly, pchan.rcvStatus, pchan.bitrateAdapting⟩

def lineOf (b : Pcanbasic S) (h : U16) : Line :=
  ((find PcanbasicChannel.channel h b.channels).map PcanbasicChannel.line).getD .unused

structure Registered (b : Pcanbasic (S × List Int)) : Prop where
  empty : b.initialized = false → b.channels = []
  unique : Unique PcanbasicChannel.channel b.channels
  descriptors : b.system.2.Perm (b.channels.flatMap openDescriptor)

theorem openDescriptor_closed {pchan : PcanbasicChannel} (closed : ¬-1 < pchan.fd) :
    openDescriptor pchan = [] := if_neg closed

theorem newChannel_line (channel : U16) : (newChannel channel).line = .unused := rfl

variable {b : Pcanbasic (S × List Int)} (sys : System S)

theorem getChannel_started (registered : Registered b) (channel : U16) (opened : Bool) :
    ∃ devices, (pcanbasicGetChannel sys.tracking b channel opened).1 =
        { b with initialized := true, devices } ∧
      (pcanbasicGetChannel sys.tracking b channel opened).2 =
        (find PcanbasicChannel.channel channel b.channels).filter
          fun pchan => !opened || decide (-1 < pchan.fd) := by
  unfold pcanbasicGetChannel
  by_cases started : b.initialized = true
  · rw [if_pos started]
    refine ⟨b.devices, ?_, rfl⟩
    rw [← started]
  · have absent := registered.empty (by simpa using started)
    rw [if_neg started]
    refine ⟨sys.tracking.pcaninfoGet b.system, ?_, ?_⟩
    · unfold pcanbasicInit pcanbasicRefreshHw
      rw [absent]
    · rw [absent]
      rfl

theorem pcanfdOpen_descriptors (t : S × List Int) (path : String) (flags : U32)
    (args : List U32) :
    (pcanfdOpen sys.tracking t path flags args).1.2 =
      if (pcanfdOpen sys.tracking t path flags args).2 < 0 then t.2
      else (pcanfdOpen sys.tracking t path flags args).2 :: t.2 := by
  obtain ⟨mode, init, ways⟩ := pcanfdOpen_cases sys.tracking t path flags args
  have added (opened : ¬(sys.tracking.openFile t path mode).2 < 0) :
      (sys.tracking.openFile t path mode).1.2 =
        (sys.tracking.openFile t path mode).2 :: t.2 := if_neg opened
  rcases ways with ⟨refused, same⟩ | ⟨opened, failed, same⟩ | ⟨opened, -, same⟩
  · rw [same, if_pos refused]
    exact if_pos refused
  · rw [same, if_pos failed]
    have erased := congrArg (List.erase · (sys.tracking.openFile t path mode).2)
      (added (Int.not_lt.mpr opened))
    exact erased.trans (List.erase_cons_head _ _)
  · rw [same, if_neg (Int.not_lt.mpr opened)]
    exact added (Int.not_lt.mpr opened)

structure Changed (b b' : Pcanbasic (S × List Int)) (channel : U16)
    (entry : Option PcanbasicChannel) : Prop where
  registered : Registered b'
  found : ∀ h, find PcanbasicChannel.channel h b'.channels =
    if h = channel then entry else find PcanbasicChannel.channel h b.channels

theorem Changed.line {b b' : Pcanbasic (S × List Int)} {channel : U16}
    {entry : Option PcanbasicChannel} (changed : Changed b b' channel entry) (h : U16) :
    lineOf b' h = if h = channel then (entry.map PcanbasicChannel.line).getD .unused
      else lineOf b h := by
  unfold lineOf
  rw [changed.found]
  split <;> rfl

theorem closed_erase_perm {channels : List PcanbasicChannel} {channel : U16}
    (closed : ∀ old, find PcanbasicChannel.channel channel channels = some old → ¬-1 < old.fd) :
    (channels.flatMap openDescriptor).Perm
      ((erase PcanbasicChannel.channel channel channels).flatMap openDescriptor) := by
  cases present : find PcanbasicChannel.channel channel channels with
  | none => rw [erase_absent present]
  | some old =>
    have split := perm_erase openDescriptor present
    rwa [openDescriptor_closed (closed old present)] at split

variable {b' : Pcanbasic (S × List Int)} {channel : U16}

theorem Registered.removed (registered : Registered b)
    (closed : ∀ old, find PcanbasicChannel.channel channel b.channels = some old → ¬-1 < old.fd)
    (started : b'.initialized = true)
    (channels : b'.channels = erase PcanbasicChannel.channel channel b.channels)
    (descriptors : b'.system.2 = b.system.2) : Changed b b' channel none where
  registered := {
    empty := fun unstarted => absurd (started.symm.trans unstarted) nofun
    unique := channels ▸ registered.unique.erase channel
    descriptors := by
      rw [descriptors, channels]
      exact registered.descriptors.trans (closed_erase_perm closed) }
  found h := by
    rw [channels]
    exact find_erase registered.unique channel h

theorem Registered.placed (registered : Registered b) {entry : PcanbasicChannel}
    (named : entry.channel = channel) (started : b'.initialized = true)
    (place : (∃ old, find PcanbasicChannel.channel channel b.channels = some old ∧ ¬-1 < old.fd ∧
        b'.channels = modify PcanbasicChannel.channel channel (fun _ => entry) b.channels) ∨
      (find PcanbasicChannel.channel channel b.channels = none ∧
        b'.channels = entry :: b.channels))
    (descriptors : b'.system.2 = openDescriptor entry ++ b.system.2) :
    Changed b b' channel (some entry) := by
  rcases place with ⟨old, present, closed, channels⟩ | ⟨absent, channels⟩
  · have keeps : ∀ item : PcanbasicChannel, item.channel = channel → entry.channel = channel :=
      fun _ _ => named
    refine ⟨⟨fun unstarted => absurd (started.symm.trans unstarted) nofun, ?_, ?_⟩, ?_⟩
    · rw [channels]
      exact registered.unique.modify keeps
    · have others := @closed_erase_perm b.channels channel
        fun other found => Option.some.inj (present.symm.trans found) ▸ closed
      rw [descriptors, channels]
      have before := registered.descriptors.trans others
      exact (List.Perm.append_left _ before).trans
        (perm_modify openDescriptor (fun _ => entry) present).symm
    · intro h
      rw [channels, find_modify keeps, present]
      rfl
  · refine ⟨⟨fun unstarted => absurd (started.symm.trans unstarted) nofun, ?_, ?_⟩, ?_⟩
    · rw [channels]
      exact registered.unique.cons (named ▸ absent)
    · rw [descriptors, channels, List.flatMap_cons]
      exact List.Perm.append_left _ registered.descriptors
    · intro h
      rw [channels, find_cons, named]
      by_cases same : h = channel
      · rw [if_pos same.symm, if_pos same]
      · rw [if_neg (Ne.symm same), if_neg same]

end Entries

section Initialisation
variable {b bs : Pcanbasic (S × List Int)} {channel : U16} {pchan : PcanbasicChannel}
  {inserted : Bool}

structure Continues (b bs : Pcanbasic (S × List Int)) : Prop where
  started : bs.initialized = true
  channels : bs.channels = b.channels
  descriptors : bs.system.2 = b.system.2

structure Candidate (b : Pcanbasic (S × List Int)) (channel : U16) (pchan : PcanbasicChannel)
    (inserted : Bool) : Prop where
  named : pchan.channel = channel
  closed : ¬-1 < pchan.fd
  entry : if inserted then
      ∃ old, find PcanbasicChannel.channel channel b.channels = some old ∧ ¬-1 < old.fd
    else find PcanbasicChannel.channel channel b.channels = none

theorem Candidate.found_closed (candidate : Candidate b channel pchan inserted) (old : PcanbasicChannel)
    (found : find PcanbasicChannel.channel channel b.channels = some old) : ¬-1 < old.fd := by
  have entry := candidate.entry
  cases inserted with
  | true =>
    obtain ⟨other, same, closed⟩ := entry
    exact Option.some.inj (same.symm.trans found) ▸ closed
  | false => cases entry.symm.trans found

theorem giveUp_changed (sys : System S) (registered : Registered b) (continues : Continues b bs)
    (candidate : Candidate b channel pchan inserted) :
    Changed b (giveUp sys.tracking bs pchan inserted) channel none ∧
      (giveUp sys.tracking bs pchan inserted).system.2 = b.system.2 := by
  have free (at_ : Pcanbasic (S × List Int)) : pcanbasicFreeChannel sys.tracking at_ pchan = at_ :=
    if_neg candidate.closed
  unfold giveUp
  rw [free]
  have channels : (if inserted = true then bs.remove pchan.channel else bs).channels =
      erase PcanbasicChannel.channel channel b.channels := by
    have entry := candidate.entry
    cases inserted with
    | true =>
      rw [if_pos rfl, Pcanbasic.remove, candidate.named, continues.channels]
    | false =>
      rw [if_neg Bool.false_ne_true, continues.channels]
      exact (erase_absent entry).symm
  have system : (if inserted = true then bs.remove pchan.channel else bs).system = bs.system := by
    split <;> rfl
  have started : (if inserted = true then bs.remove pchan.channel else bs).initialized = true := by
    split <;> exact continues.started
  have descriptors := (congrArg Prod.snd system).trans continues.descriptors
  exact ⟨registered.removed candidate.found_closed started channels descriptors, descriptors⟩

/-- How a call ends that has taken a channel to initialise it. -/
inductive Ends (b : Pcanbasic (S × List Int)) (channel : U16) (line : Line) (sts : Status)
    (result : BasicResult (S × List Int)) : Prop where
  | failed (changed : Changed b result.b channel none)
      (descriptors : result.b.system.2 = b.system.2) (failed : ¬succeeded result.status)
  | opened (entry : PcanbasicChannel) (changed : Changed b result.b channel (some entry))
      (parameters : entry.line = { line with opened := true }) (status : result.status = sts)

theorem openChannel_ends (sys : System S) (registered : Registered b) (continues : Continues b bs)
    (candidate : Candidate b channel pchan inserted) (sts : Status) (fdFlags : U32) (args : List U32) :
    Ends b channel pchan.line sts
      (openChannel sys.tracking bs pchan inserted sts fdFlags args) := by
  unfold openChannel
  dsimp only
  generalize (if pchan.listenOnly = pcanParameterOn then fdFlags ||| pcanfdInitListenOnly
    else fdFlags) = flags
  have descriptors := pcanfdOpen_descriptors sys bs.system pchan.pinfo.path flags args
  generalize pcanfdOpen sys.tracking bs.system pchan.pinfo.path flags args = opened at descriptors
  split
  next refused =>
    rw [if_pos refused] at descriptors
    have ended := @giveUp_changed _ b { bs with system := opened.1 } channel
      { pchan with fdFlags := flags, fd := opened.2 } inserted sys registered
      ⟨continues.started, continues.channels, descriptors.trans continues.descriptors⟩
      ⟨candidate.named, by dsimp only; omega, candidate.entry⟩
    have fails : ¬succeeded pcanErrorIlloperation := by decide
    exact .failed ended.1 ended.2 fails
  next opens =>
    rw [if_neg opens, continues.descriptors] at descriptors
    have positive : -1 < opened.2 := by omega
    generalize made : (if sts = pcanErrorOk then _ else _) = entry
    have named : entry.channel = channel := by
      rw [← made, ← candidate.named]
      split <;> rfl
    have descriptor : entry.fd = opened.2 := by
      rw [← made]
      split <;> rfl
    have parameters : entry.line = { pchan.line with opened := true } := by
      rw [← made]
      split <;> exact congrArg (Line.mk · _ _ _) (decide_eq_true positive)
    refine .opened entry (registered.placed named ?_ ?_ ?_) parameters rfl
    · cases inserted <;> exact continues.started
    · have found := candidate.entry
      cases inserted with
      | true =>
        obtain ⟨old, present, closed⟩ := found
        refine .inl ⟨old, present, closed, ?_⟩
        rw [if_pos rfl, Pcanbasic.write, named, continues.channels]
      | false =>
        refine .inr ⟨found, ?_⟩
        rw [if_neg Bool.false_ne_true, Pcanbasic.insertHead, continues.channels]
    · rw [openDescriptor, descriptor, if_pos positive]
      cases inserted <;> exact descriptors

theorem listenOnly_flag {fdFlags : U32} (clear : fdFlags &&& pcanfdInitListenOnly = 0)
    (listenOnly : U8) :
    (if listenOnly = pcanParameterOn then fdFlags ||| pcanfdInitListenOnly else fdFlags) &&&
        pcanfdInitListenOnly ≠ 0 ↔ listenOnly = pcanParameterOn := by
  split
  next on =>
    rw [Masks.or_and_self]
    exact ⟨fun _ => on, fun _ => by decide⟩
  next off => exact ⟨fun set => absurd clear set, fun on => absurd on off⟩

def startStatus (pinfo : Pcaninfo) (bitrateAdapting : U8) : Status :=
  if pinfo.busState ≠ 0 ∧ bitrateAdapting ≠ 0 then pcanErrorCaution else pcanErrorOk

theorem startStatus_caution (pinfo : Pcaninfo) (bitrateAdapting : U8) :
    startStatus pinfo bitrateAdapting = pcanErrorCaution ↔
      pinfo.busState ≠ 0 ∧ bitrateAdapting ≠ 0 := by
  unfold startStatus
  split
  next used => exact ⟨fun _ => used, fun _ => rfl⟩
  next unused => exact ⟨fun same => absurd same (by decide), fun used => absurd used unused⟩

theorem startStatus_succeeded (pinfo : Pcaninfo) (bitrateAdapting : U8) :
    succeeded (startStatus pinfo bitrateAdapting) := by
  unfold startStatus
  split
  · exact .inr rfl
  · exact .inl rfl

theorem startStatus_not_refused (pinfo : Pcaninfo) (bitrateAdapting : U8) :
    startStatus pinfo bitrateAdapting ≠ pcanErrorInitialize := by
  unfold startStatus
  split <;> decide

structure Starts (b : Pcanbasic (S × List Int)) (channel : U16) (line : Line)
    (device : Option Pcaninfo) (textRefused : Prop) (result : BasicResult (S × List Int)) :
    Prop where
  ends : ∃ sts, succeeded sts ∧ Ends b channel line sts result
  sound : InitialiseSound b channel line device textRefused result

variable {line : Line} {device : Option Pcaninfo} {textRefused : Prop}

theorem Starts.refuse (sys : System S) (registered : Registered b) (continues : Continues b bs)
    (candidate : Candidate b channel pchan inserted) (closed : line.opened = false) {status : Status}
    (fails : ¬succeeded status) (reason : status = pcanErrorInitialize →
      textRefused ∨ ∃ pinfo, device = some pinfo ∧ pinfo.busState ≠ 0 ∧ line.bitrateAdapting = 0) :
    Starts b channel line device textRefused
      ⟨giveUp sys.tracking bs pchan inserted, status, none⟩ := by
  obtain ⟨changed, descriptors⟩ := giveUp_changed sys registered continues candidate
  refine ⟨⟨pcanErrorOk, .inl rfl, .failed changed descriptors fails⟩, ?_, ?_, ?_, ?_,
    fun _ => reason⟩
  · intro opened
    exact absurd (closed.symm.trans opened) nofun
  · intro _ _
    exact ⟨by rw [changed.found, if_pos rfl], descriptors⟩
  · intro flags fd called
    cases called
  · intro _ well
    exact absurd well fails

theorem Starts.openChannel (sys : System S) (registered : Registered b)
    (continues : Continues b bs) (candidate : Candidate b channel pchan inserted) {pinfo : Pcaninfo}
    (found : device = some pinfo) {fdFlags : U32}
    (clear : fdFlags &&& pcanfdInitListenOnly = 0) (args : List U32) :
    Starts b channel pchan.line device textRefused
      (openChannel sys.tracking bs pchan inserted (startStatus pinfo pchan.bitrateAdapting)
        fdFlags args) := by
  have ends := openChannel_ends sys registered continues candidate
    (startStatus pinfo pchan.bitrateAdapting) fdFlags args
  have closed : pchan.line.opened = false := decide_eq_false candidate.closed
  have flags : ∀ flags fd, (PcanDriver.openChannel sys.tracking bs pchan inserted
      (startStatus pinfo pchan.bitrateAdapting) fdFlags args).opening = some (flags, fd) →
      (flags &&& pcanfdInitListenOnly ≠ 0 ↔ pchan.listenOnly = pcanParameterOn) := by
    intro flags fd called
    obtain ⟨answer, given⟩ := openChannel_opening sys.tracking bs pchan inserted
      (startStatus pinfo pchan.bitrateAdapting) fdFlags args
    obtain ⟨rfl, -⟩ := Prod.mk.inj (Option.some.inj (called.symm.trans given))
    exact listenOnly_flag clear pchan.listenOnly
  refine ⟨⟨_, startStatus_succeeded pinfo _, ends⟩, ?_, ?_, flags, ?_, ?_⟩
  · intro opened
    exact absurd (closed.symm.trans opened) nofun
  · intro _ fails
    cases ends with
    | failed changed descriptors _ => exact ⟨by rw [changed.found, if_pos rfl], descriptors⟩
    | opened entry changed parameters status =>
      rw [status] at fails
      exact absurd (startStatus_succeeded pinfo _) fails
  · intro _ well
    refine ⟨pinfo, found, ?_⟩
    cases ends with
    | failed changed descriptors fails => exact absurd well fails
    | opened entry changed parameters status =>
      rw [status]
      exact startStatus_caution pinfo pchan.bitrateAdapting
  · intro _ refused
    rcases openChannel_status sys.tracking bs pchan inserted
      (startStatus pinfo pchan.bitrateAdapting) fdFlags args with failed | started
    · exact absurd (failed.symm.trans refused) (by decide)
    · exact absurd (started.symm.trans refused) (startStatus_not_refused pinfo _)

theorem Continues.deviceOf (sys : System S) (continues : Continues b bs) (channel : U16)
    (hwtype base irq : U32) : Continues b (deviceOf sys.tracking bs channel hwtype base irq).1 :=
  ⟨continues.started, continues.channels, continues.descriptors⟩

theorem Continues.allocate (sys : System S) (continues : Continues b bs) :
    Continues b { bs with system := (sys.tracking.allocate bs.system).1 } :=
  ⟨continues.started, continues.channels, continues.descriptors⟩

theorem nodriver_fails : ¬succeeded pcanErrorNodriver := by decide

theorem initialize_fails : ¬succeeded pcanErrorInitialize := by decide

theorem initializeChannel_starts (sys : System S) (registered : Registered b)
    (continues : Continues b bs) (candidate : Candidate b channel pchan inserted) (btr0btr1 : U16)
    (hwtype base irq : U32) :
    Starts b channel pchan.line (deviceOf sys.tracking bs channel hwtype base irq).2 False
      (initializeChannel sys.tracking bs pchan inserted btr0btr1 hwtype base irq) := by
  obtain rfl := candidate.named
  have closed : pchan.line.opened = false := decide_eq_false candidate.closed
  have looked := continues.deviceOf sys pchan.channel hwtype base irq
  unfold initializeChannel
  dsimp only
  split
  next missing =>
    exact .refuse sys registered looked candidate closed nodriver_fails
      fun same => absurd same (by decide)
  next pinfo found =>
    have retaken : Candidate b pchan.channel { pchan with btr0btr1, pinfo } inserted :=
      ⟨rfl, candidate.closed, candidate.entry⟩
    split
    next refused =>
      exact .refuse sys registered looked retaken closed initialize_fails
        fun _ => .inr ⟨pinfo, found, refused.1, refused.2.1⟩
    next =>
      have clear : (ofdBitrate ||| ofdBtr0btr1 ||| ofdNonblocking) &&& pcanfdInitListenOnly = 0 :=
        by decide
      exact Starts.openChannel sys registered looked retaken found clear _

theorem initializeFdChannel_starts (sys : System S) (registered : Registered b)
    (continues : Continues b bs) (candidate : Candidate b channel pchan inserted)
    {bitratefd : Option (List U8)} {result : BasicResult (S × List Int)}
    (returned : initializeFdChannel sys.tracking bs pchan inserted bitratefd = some result) :
    Starts b channel pchan.line (deviceOf sys.tracking bs channel 0 0 0).2
      (∃ copied err pfdi, pcanbasicParseFdInit copied bitratefd = some (err, pfdi) ∧ err ≠ 0)
      result := by
  obtain rfl := candidate.named
  have closed : pchan.line.opened = false := decide_eq_false candidate.closed
  have looked := continues.deviceOf sys pchan.channel 0 0 0
  unfold initializeFdChannel at returned
  dsimp only at returned
  split at returned
  next missing =>
    obtain rfl := Option.some.inj returned
    exact .refuse sys registered looked candidate closed nodriver_fails
      fun same => absurd same (by decide)
  next pinfo found =>
    obtain ⟨⟨err, fdi⟩, parsed, same⟩ := Option.map_eq_some_iff.mp returned
    dsimp only at same
    have copied := looked.allocate sys
    split at same
    next refused =>
      obtain rfl := same
      exact .refuse sys registered copied candidate closed initialize_fails
        fun _ => .inl ⟨_, err, fdi, parsed, refused⟩
    next =>
      have duplicated := copied.allocate sys
      have retaken (text : Option (List U8)) :
          Candidate b pchan.channel { pchan with bitratefd := text, pinfo } inserted :=
        ⟨rfl, candidate.closed, candidate.entry⟩
      split at same
      next refused =>
        obtain rfl := same
        exact .refuse sys registered duplicated (retaken _) closed initialize_fails
          fun _ => .inr ⟨pinfo, found, refused.1, refused.2.1⟩
      next =>
        obtain rfl := same
        have clear : (ofdBitrate ||| ofdDbitrate ||| ofdBrptsegsjw ||| ofdClockhz |||
            ofdNonblocking) &&& pcanfdInitListenOnly = 0 := by decide
        exact Starts.openChannel sys registered duplicated (retaken _) found clear _

/-- What stands behind the handles after a call that changes one of them. -/
structure Leaves (b b' : Pcanbasic (S × List Int)) (channel : U16) (line : Line) : Prop where
  registered : Registered b'
  lines : ∀ h, lineOf b' h = if channel = h then line else lineOf b h

theorem Changed.follows {b' : Pcanbasic (S × List Int)} {entry : Option PcanbasicChannel}
    (changed : Changed b b' channel entry)
    (same : (entry.map PcanbasicChannel.line).getD .unused = line) :
    Leaves b b' channel line := by
  refine ⟨changed.registered, fun h => ?_⟩
  rw [changed.line, same]
  exact if_congr eq_comm rfl rfl

theorem Starts.follows {result : BasicResult (S × List Int)}
    (starts : Starts b channel line device textRefused result) (closed : line.opened = false) :
    Leaves b result.b channel (line.initialized result.status) := by
  obtain ⟨sts, well, ends⟩ := starts.ends
  unfold Line.initialized
  rw [closed, if_neg Bool.false_ne_true]
  cases ends with
  | failed changed descriptors fails =>
    rw [if_neg fails]
    exact changed.follows rfl
  | opened entry changed parameters status =>
    rw [if_pos (status ▸ well)]
    exact changed.follows parameters

theorem Continues.follows (registered : Registered b) (continues : Continues b bs)
    (same : lineOf b channel = line) : Leaves b bs channel line := by
  refine ⟨⟨?_, ?_, ?_⟩, fun h => ?_⟩
  · intro unstarted
    exact absurd (continues.started.symm.trans unstarted) nofun
  · exact continues.channels ▸ registered.unique
  · rw [continues.descriptors, continues.channels]
    exact registered.descriptors
  · have lines : lineOf bs h = lineOf b h := by
      unfold lineOf
      rw [continues.channels]
    split
    next here => rw [lines, ← here, same]
    next => exact lines

theorem initialized_open (opened : line.opened = true) (status : Status) :
    line.initialized status = line := if_pos opened

theorem again_sound (registered : Registered b) (continues : Continues b bs)
    (system : bs.system = b.system) (opened : (lineOf b channel).opened = true) {status : Status}
    (known : status = pcanErrorCaution ∨ status = pcanErrorInitialize) :
    Leaves b bs channel ((lineOf b channel).initialized status) ∧
      InitialiseSound b channel (lineOf b channel) device textRefused ⟨bs, status, none⟩ := by
  refine ⟨?_, fun _ => ⟨continues.channels, system, known⟩, ?_, ?_, ?_, ?_⟩
  · rw [initialized_open opened]
    exact continues.follows registered rfl
  · intro closed
    exact absurd (closed.symm.trans opened) nofun
  · intro flags fd called
    cases called
  · intro closed
    exact absurd (closed.symm.trans opened) nofun
  · intro closed
    exact absurd (closed.symm.trans opened) nofun

theorem unmade_sound (registered : Registered b) (continues : Continues b bs)
    (absent : find PcanbasicChannel.channel channel b.channels = none) :
    Leaves b bs channel ((lineOf b channel).initialized pcanErrorUnknown) ∧
      InitialiseSound b channel (lineOf b channel) device textRefused
        ⟨bs, pcanErrorUnknown, none⟩ := by
  have unused : lineOf b channel = .unused := by
    unfold lineOf
    rw [absent]
    rfl
  have fails : ¬succeeded pcanErrorUnknown := by decide
  rw [unused]
  refine ⟨continues.follows registered unused, ?_, ?_, ?_, ?_, ?_⟩
  · intro opened
    exact absurd opened nofun
  · intro _ _
    exact ⟨by rw [continues.channels, absent], continues.descriptors⟩
  · intro flags fd called
    cases called
  · intro _ well
    exact absurd well fails
  · intro _ refused
    have other : pcanErrorUnknown ≠ pcanErrorInitialize := by decide
    exact absurd refused other

end Initialisation

section Calls
variable {b : Pcanbasic (S × List Int)} (sys : System S)

theorem getChannel_continues (registered : Registered b) (channel : U16) (opened : Bool) :
    Continues b (pcanbasicGetChannel sys.tracking b channel opened).1 ∧
      (pcanbasicGetChannel sys.tracking b channel opened).1.system = b.system := by
  obtain ⟨devices, started, -⟩ := getChannel_started sys registered channel opened
  rw [started]
  exact ⟨⟨rfl, rfl, rfl⟩, rfl⟩

theorem getChannel_any (registered : Registered b) (channel : U16) :
    (pcanbasicGetChannel sys.tracking b channel false).2 =
      find PcanbasicChannel.channel channel b.channels := by
  obtain ⟨devices, -, found⟩ := getChannel_started sys registered channel false
  rw [found]
  cases find PcanbasicChannel.channel channel b.channels <;> rfl

theorem lineOf_found {channel : U16} {pchan : PcanbasicChannel}
    (found : find PcanbasicChannel.channel channel b.channels = some pchan) :
    lineOf b channel = pchan.line := by
  unfold lineOf
  rw [found]
  rfl

theorem lineOf_absent {channel : U16}
    (absent : find PcanbasicChannel.channel channel b.channels = none) :
    lineOf b channel = .unused := by
  unfold lineOf
  rw [absent]
  rfl

theorem candidate_entry {channel : U16} {pchan : PcanbasicChannel}
    (found : find PcanbasicChannel.channel channel b.channels = some pchan)
    (closed : ¬-1 < pchan.fd) : Candidate b channel pchan true where
  named := key_of_find found
  closed := closed
  entry := by
    rw [if_pos rfl]
    exact ⟨pchan, found, closed⟩

theorem candidate_new {channel : U16}
    (absent : find PcanbasicChannel.channel channel b.channels = none) :
    Candidate b channel (newChannel channel) false where
  named := rfl
  closed := fun opened => absurd opened (Int.lt_irrefl (-1))
  entry := by rwa [if_neg Bool.false_ne_true]

theorem pcanbasicInitialize_sound (registered : Registered b) (channel btr0btr1 : U16)
    (hwtype : U8) (base : U32) (irq : U16) :
    Leaves b (pcanbasicInitialize sys.tracking b channel btr0btr1 hwtype base irq).b channel
        ((lineOf b channel).initialized
          (pcanbasicInitialize sys.tracking b channel btr0btr1 hwtype base irq).status) ∧
      InitialiseSound b channel (lineOf b channel)
        (deviceOf sys.tracking (readied sys.tracking b channel) channel (hwtype.setWidth 32) base
          (irq.setWidth 32)).2 False
        (pcanbasicInitialize sys.tracking b channel btr0btr1 hwtype base irq) := by
  obtain ⟨continues, system⟩ := getChannel_continues sys registered channel false
  have found := getChannel_any sys registered channel
  unfold pcanbasicInitialize readied
  generalize pcanbasicGetChannel sys.tracking b channel false = got at continues system found
  obtain ⟨bs, pchan⟩ := got
  cases pchan with
  | some pchan =>
    have line := lineOf_found found.symm
    dsimp only
    split
    next opened =>
      have opened : (lineOf b channel).opened = true := line ▸ decide_eq_true opened
      refine again_sound registered continues system opened ?_
      split
      · exact .inl rfl
      · exact .inr rfl
    next closed =>
      rw [line]
      have starts := initializeChannel_starts sys registered continues
        (candidate_entry found.symm closed) btr0btr1 (hwtype.setWidth 32) base (irq.setWidth 32)
      exact ⟨starts.follows (decide_eq_false closed), starts.sound⟩
  | none =>
    have line := lineOf_absent found.symm
    have allocated := continues.allocate sys
    unfold pcanbasicCreateChannel
    dsimp only
    cases memory : (sys.tracking.allocate bs.system).2 with
    | false => exact unmade_sound registered allocated found.symm
    | true =>
      rw [line]
      have starts := initializeChannel_starts sys registered allocated
        (candidate_new found.symm) btr0btr1 (hwtype.setWidth 32) base (irq.setWidth 32)
      exact ⟨starts.follows rfl, starts.sound⟩

theorem pcanbasicInitializeFd_sound (registered : Registered b) (channel : U16)
    (bitratefd : Option (List U8)) {result : BasicResult (S × List Int)}
    (returned : pcanbasicInitializeFd sys.tracking b channel bitratefd = some result) :
    Leaves b result.b channel ((lineOf b channel).initialized result.status) ∧
      InitialiseSound b channel (lineOf b channel)
        (deviceOf sys.tracking (readied sys.tracking b channel) channel 0 0 0).2
        (∃ copied err pfdi, pcanbasicParseFdInit copied bitratefd = some (err, pfdi) ∧ err ≠ 0)
        result := by
  obtain ⟨continues, system⟩ := getChannel_continues sys registered channel false
  have found := getChannel_any sys registered channel
  unfold pcanbasicInitializeFd at returned
  unfold readied
  generalize pcanbasicGetChannel sys.tracking b channel false = got
    at continues system found returned
  obtain ⟨bs, pchan⟩ := got
  cases pchan with
  | some pchan =>
    have line := lineOf_found found.symm
    dsimp only at returned ⊢
    split at returned
    next opened =>
      have opened : (lineOf b channel).opened = true := line ▸ decide_eq_true opened
      split at returned
      · split at returned
        next =>
          obtain rfl := Option.some.inj returned
          refine again_sound registered continues system opened ?_
          split
          · exact .inl rfl
          · exact .inr rfl
        next => cases returned
      · obtain rfl := Option.some.inj returned
        exact again_sound registered continues system opened (.inr rfl)
    next closed =>
      rw [line]
      have starts := initializeFdChannel_starts sys registered continues
        (candidate_entry found.symm closed) returned
      exact ⟨starts.follows (decide_eq_false closed), starts.sound⟩
  | none =>
    have line := lineOf_absent found.symm
    have allocated := continues.allocate sys
    unfold pcanbasicCreateChannel at returned ⊢
    dsimp only at returned ⊢
    cases memory : (sys.tracking.allocate bs.system).2 with
    | false =>
      rw [memory] at returned
      obtain rfl := Option.some.inj returned
      exact unmade_sound registered allocated found.symm
    | true =>
      rw [memory] at returned
      rw [line]
      have starts := initializeFdChannel_starts sys registered allocated (candidate_new found.symm)
        returned
      exact ⟨starts.follows rfl, starts.sound⟩

theorem freed_perm (registered : Registered b) {channel : U16} {pchan : PcanbasicChannel}
    (found : find PcanbasicChannel.channel channel b.channels = some pchan) :
    (if -1 < pchan.fd then b.system.2.erase pchan.fd else b.system.2).Perm
      ((erase PcanbasicChannel.channel channel b.channels).flatMap openDescriptor) := by
  have split := registered.descriptors.trans (perm_erase openDescriptor found)
  unfold openDescriptor at split
  by_cases opened : -1 < pchan.fd
  · rw [if_pos opened] at split ⊢
    have erased := split.erase pchan.fd
    rwa [List.singleton_append, List.erase_cons_head] at erased
  · rw [if_neg opened] at split ⊢
    exact split

theorem freeChannel_descriptors (bs : Pcanbasic (S × List Int)) (pchan : PcanbasicChannel) :
    (pcanbasicFreeChannel sys.tracking bs pchan).system.2 =
      if -1 < pchan.fd then bs.system.2.erase pchan.fd else bs.system.2 := by
  unfold pcanbasicFreeChannel
  split <;> rfl

theorem freeChannel_list (bs : Pcanbasic (S × List Int)) (pchan : PcanbasicChannel) :
    (pcanbasicFreeChannel sys.tracking bs pchan).channels = bs.channels ∧
      (pcanbasicFreeChannel sys.tracking bs pchan).initialized = bs.initialized := by
  unfold pcanbasicFreeChannel
  split <;> exact ⟨rfl, rfl⟩

theorem pcanbasicUninitialize_follows (registered : Registered b) (channel : U16) :
    Leaves b ( pcanbasicUninitialize sys.tracking b channel).b channel .unused := by
  obtain ⟨continues, system⟩ := getChannel_continues sys registered channel false
  have found := getChannel_any sys registered channel
  unfold pcanbasicUninitialize
  generalize pcanbasicGetChannel sys.tracking b channel false = got at continues system found
  obtain ⟨bs, pchan⟩ := got
  cases pchan with
  | none => exact continues.follows registered (lineOf_absent found.symm)
  | some pchan =>
    dsimp only
    obtain ⟨list, started⟩ := freeChannel_list sys (bs.remove channel) pchan
    have channels := list.trans (congrArg (erase PcanbasicChannel.channel channel)
      continues.channels)
    have same : (bs.remove channel).system.2 = b.system.2 := continues.descriptors
    have changed : Changed b (pcanbasicFreeChannel sys.tracking (bs.remove channel) pchan) channel
        none := by
      refine ⟨⟨?_, ?_, ?_⟩, ?_⟩
      · intro unstarted
        exact absurd ((started.trans continues.started).symm.trans unstarted) nofun
      · exact channels ▸ registered.unique.erase channel
      · rw [freeChannel_descriptors, channels, same]
        exact freed_perm registered found.symm
      · intro h
        rw [channels]
        exact find_erase registered.unique channel h
    exact changed.follows rfl

theorem Registered.reopened {b' : Pcanbasic (S × List Int)} (registered : Registered b)
    {channel : U16} {pchan : PcanbasicChannel} (fd : Int)
    (found : find PcanbasicChannel.channel channel b.channels = some pchan)
    (opened : -1 < pchan.fd) (started : b'.initialized = true)
    (channels : b'.channels =
      modify PcanbasicChannel.channel channel (fun pchan => { pchan with fd }) b.channels)
    (descriptors : b'.system.2 = if fd < 0 then b.system.2.erase pchan.fd
      else fd :: b.system.2.erase pchan.fd) (flags : U32) :
    Leaves b b' channel ((lineOf b channel).reopened (some (flags, fd))) := by
  have keeps : ∀ item : PcanbasicChannel, item.channel = channel →
      ({ item with fd } : PcanbasicChannel).channel = channel := fun _ named => named
  have freed := freed_perm registered found
  rw [if_pos opened] at freed
  have changed : Changed b b' channel (some { pchan with fd }) := by
    refine ⟨⟨?_, ?_, ?_⟩, ?_⟩
    · intro unstarted
      exact absurd (started.symm.trans unstarted) nofun
    · rw [channels]
      exact registered.unique.modify keeps
    · rw [descriptors, channels]
      refine List.Perm.trans ?_ (perm_modify openDescriptor _ found).symm
      unfold openDescriptor at freed ⊢
      dsimp only
      by_cases refused : fd < 0
      · have closed : ¬-1 < fd := by omega
        rw [if_pos refused, if_neg closed]
        exact freed
      · have accepted : -1 < fd := by omega
        rw [if_neg refused, if_pos accepted]
        exact freed.cons fd
    · intro h
      rw [channels, find_modify keeps, found]
      rfl
  refine changed.follows ?_
  rw [lineOf_found found]
  unfold Line.reopened
  dsimp only
  split
  next refused =>
    have closed : ¬-1 < fd := by omega
    exact congrArg (Line.mk · _ _ _) (decide_eq_false closed)
  next accepted =>
    have same : decide (-1 < fd) = decide (-1 < pchan.fd) := by simp only [decide_eq_decide]; omega
    exact congrArg (Line.mk · _ _ _) same

theorem pcanbasicReset_follows (registered : Registered b) (channel : U16) :
    Leaves b (pcanbasicReset sys.tracking b channel).b channel
      ((lineOf b channel).reopened (pcanbasicReset sys.tracking b channel).opening) := by
  obtain ⟨continues, -⟩ := getChannel_continues sys registered channel true
  obtain ⟨-, -, found⟩ := getChannel_started sys registered channel true
  unfold pcanbasicReset
  generalize pcanbasicGetChannel sys.tracking b channel true = got at continues found
  obtain ⟨bs, pchan⟩ := got
  cases pchan with
  | none => exact continues.follows registered rfl
  | some pchan =>
    obtain ⟨found, opened⟩ := Option.filter_eq_some_iff.mp found.symm
    have opened : -1 < pchan.fd := of_decide_eq_true opened
    dsimp only
    have descriptors := pcanfdOpen_descriptors sys
      (sys.tracking.closeFile (sys.tracking.getInit bs.system pchan.fd).1 pchan.fd)
      pchan.pinfo.path ofdNonblocking []
    have erased : (sys.tracking.closeFile (sys.tracking.getInit bs.system pchan.fd).1
        pchan.fd).2 = b.system.2.erase pchan.fd :=
      congrArg (List.erase · pchan.fd) continues.descriptors
    rw [erased] at descriptors
    generalize pcanfdOpen sys.tracking _ _ _ _ = again at descriptors
    have channels := congrArg (modify PcanbasicChannel.channel channel fun pchan =>
      { pchan with fd := again.2 }) continues.channels
    split
    · refine registered.reopened again.2 found opened ?_ ?_ ?_ _
      · exact continues.started
      · exact channels
      · exact descriptors
    · refine registered.reopened again.2 found opened ?_ ?_ ?_ _
      · exact continues.started
      · exact channels
      · exact descriptors

theorem pcanbasicReset_status (b : Pcanbasic (S × List Int)) (channel : U16) :
    (pcanbasicReset sys.tracking b channel).status = pcanErrorInitialize ∨
      (pcanbasicReset sys.tracking b channel).status = pcanErrorIlloperation ∨
      (pcanbasicReset sys.tracking b channel).status = pcanErrorOk := by
  unfold pcanbasicReset
  dsimp only
  split
  · exact .inl rfl
  · split
    · exact .inr (.inl rfl)
    · dsimp only
      generalize pcanfdSetInit sys.tracking _ _ _ = done
      split
      · exact .inr (.inl rfl)
      · exact .inr (.inr rfl)

theorem stored_reset (line : Line) (parameter : PreInit) (value : U8)
    (b : Pcanbasic (S × List Int)) (channel : U16) :
    line.stored parameter (some value) (pcanbasicReset sys.tracking b channel).status =
      line.set parameter value := by
  rcases pcanbasicReset_status sys b channel with same | same | same <;> rw [same] <;> rfl

theorem Registered.same (registered : Registered b) (channel : U16) :
    Leaves b b channel (lineOf b channel) := by
  refine ⟨registered, fun h => ?_⟩
  split
  next here => rw [here]
  next => rfl

theorem Leaves.trans {b₁ b₂ b₃ : Pcanbasic (S × List Int)} {channel : U16} {line line' : Line}
    (first : Leaves b₁ b₂ channel line) (second : Leaves b₂ b₃ channel line') :
    Leaves b₁ b₃ channel line' := by
  refine ⟨second.registered, fun h => ?_⟩
  rw [second.lines, first.lines]
  split <;> rfl

theorem Leaves.line {b' : Pcanbasic (S × List Int)} {channel : U16} {line : Line}
    (follows : Leaves b b' channel line) : lineOf b' channel = line := by
  rw [follows.lines, if_pos rfl]

theorem PreInit.set_line (parameter : PreInit) (value : U8) (pchan : PcanbasicChannel) :
    (parameter.set value pchan).line = pchan.line.set parameter value := by
  cases parameter <;> rfl

theorem PreInit.set_descriptor (parameter : PreInit) (value : U8) (pchan : PcanbasicChannel) :
    openDescriptor (parameter.set value pchan) = openDescriptor pchan := by
  cases parameter <;> rfl

theorem PreInit.set_channel (parameter : PreInit) (value : U8) (pchan : PcanbasicChannel) :
    (parameter.set value pchan).channel = pchan.channel := by
  cases parameter <;> rfl

theorem Registered.written (registered : Registered b) (started : b.initialized = true)
    {channel : U16} {pchan : PcanbasicChannel}
    (found : find PcanbasicChannel.channel channel b.channels = some pchan)
    (parameter : PreInit) (value : U8) :
    Leaves b (b.write channel (parameter.set value)) channel
      ((lineOf b channel).set parameter value) := by
  have keeps : ∀ item : PcanbasicChannel, item.channel = channel →
      (parameter.set value item).channel = channel :=
    fun item named => (parameter.set_channel value item).trans named
  have changed : Changed b (b.write channel (parameter.set value)) channel
      (some (parameter.set value pchan)) := by
    refine ⟨⟨?_, ?_, ?_⟩, ?_⟩
    · intro unstarted
      exact absurd (started.symm.trans unstarted) nofun
    · exact registered.unique.modify keeps
    · have kept := perm_modify openDescriptor (parameter.set value) found
      rw [parameter.set_descriptor] at kept
      exact registered.descriptors.trans ((perm_erase openDescriptor found).trans kept.symm)
    · intro h
      rw [Pcanbasic.write, find_modify keeps, found]
      rfl
  refine changed.follows ?_
  rw [lineOf_found found]
  exact parameter.set_line value pchan

theorem Registered.created (registered : Registered b) {bs : Pcanbasic (S × List Int)}
    (continues : Continues b bs) {channel : U16}
    (absent : find PcanbasicChannel.channel channel b.channels = none) :
    Leaves b (bs.insertHead (newChannel channel)) channel (lineOf b channel) := by
  have place : (bs.insertHead (newChannel channel)).channels = newChannel channel :: b.channels :=
    congrArg (newChannel channel :: ·) continues.channels
  have changed : Changed b (bs.insertHead (newChannel channel)) channel (newChannel channel) :=
    registered.placed rfl continues.started (.inr ⟨absent, place⟩) continues.descriptors
  exact changed.follows ((newChannel_line channel).trans (lineOf_absent absent).symm)

/-- The entry that a parameter is stored in: that of the channel, or a new one. -/
def entryFor (sys : System S) (b : Pcanbasic S) (channel : U16) :
    Pcanbasic S × Option PcanbasicChannel :=
  let got := pcanbasicGetChannel sys b channel false
  match got.2 with
  | some pchan => (got.1, some pchan)
  | none => pcanbasicCreateChannel sys got.1 channel true

theorem pcanbasicSetValue_entry (sys : System S) (b : Pcanbasic S) (channel : U16)
    (parameter : PreInit) (value : U8) :
    pcanbasicSetValue sys b channel parameter (some value) =
      if value ≠ pcanParameterOn ∧ value ≠ pcanParameterOff then ⟨b, pcanErrorIllparamval, none⟩
      else match (entryFor sys b channel).2 with
        | none => ⟨(entryFor sys b channel).1, pcanErrorUnknown, none⟩
        | some pchan =>
          let b := (entryFor sys b channel).1.write channel (parameter.set value)
          if parameter = .listenOnly ∧ -1 < pchan.fd then pcanbasicReset sys b channel
          else ⟨b, pcanErrorOk, none⟩ := rfl

theorem entryFor_follows (registered : Registered b) (channel : U16) :
    Leaves b (entryFor sys.tracking b channel).1 channel (lineOf b channel) ∧
      (entryFor sys.tracking b channel).1.initialized = true ∧
      ∀ pchan, (entryFor sys.tracking b channel).2 = some pchan →
        find PcanbasicChannel.channel channel (entryFor sys.tracking b channel).1.channels =
          some pchan := by
  obtain ⟨continues, -⟩ := getChannel_continues sys registered channel false
  have found := getChannel_any sys registered channel
  unfold entryFor
  generalize pcanbasicGetChannel sys.tracking b channel false = got at continues found
  obtain ⟨bs, pchan⟩ := got
  cases pchan with
  | some pchan =>
    refine ⟨continues.follows registered rfl, continues.started, fun other same => ?_⟩
    obtain rfl := Option.some.inj same
    exact (congrArg (find PcanbasicChannel.channel channel) continues.channels).trans found.symm
  | none =>
    have allocated := continues.allocate sys
    unfold pcanbasicCreateChannel
    dsimp only
    cases memory : (sys.tracking.allocate bs.system).2 with
    | false =>
      exact ⟨allocated.follows registered rfl, allocated.started, fun _ none => nomatch none⟩
    | true =>
      refine ⟨registered.created allocated found.symm, allocated.started, fun other same => ?_⟩
      obtain rfl := Option.some.inj same
      exact (find_cons channel (newChannel channel) bs.channels).trans (if_pos rfl)

theorem pcanbasicSetValue_follows (registered : Registered b) (channel : U16)
    (parameter : PreInit) (buffer : Option U8) :
    Leaves b (pcanbasicSetValue sys.tracking b channel parameter buffer).b channel
      (((lineOf b channel).stored parameter buffer
        (pcanbasicSetValue sys.tracking b channel parameter buffer).status).reopened
          (pcanbasicSetValue sys.tracking b channel parameter buffer).opening) := by
  obtain ⟨made, started, present⟩ := entryFor_follows sys registered channel
  cases buffer with
  | none => exact registered.same channel
  | some value =>
    rw [pcanbasicSetValue_entry]
    have refused (line : Line) :
        line.stored parameter (some value) pcanErrorIllparamval = line := rfl
    have unmade (line : Line) : line.stored parameter (some value) pcanErrorUnknown = line := rfl
    have stores (line : Line) : line.stored parameter (some value) pcanErrorOk =
        line.set parameter value := rfl
    split
    next =>
      rw [refused]
      exact registered.same channel
    next =>
      split
      next missing =>
        rw [unmade]
        exact made
      next pchan entry =>
        have written := made.registered.written started (present pchan entry) parameter value
        rw [made.line] at written
        have both := made.trans written
        dsimp only
        split
        next =>
          have reset := pcanbasicReset_follows sys both.registered channel
          rw [both.line] at reset
          rw [stored_reset]
          exact both.trans reset
        next =>
          rw [stores]
          exact both

end Calls

section Runs
variable {b : Pcanbasic (S × List Int)} (sys : System S)

theorem unstarted_registered (start : S) : Registered (unstarted start) where
  empty := fun _ => rfl
  unique := List.nodup_nil
  descriptors := .nil

theorem elapsed_registered (registered : Registered b) (system : S) :
    Registered { b with system := (system, b.system.2) } where
  empty := registered.empty
  unique := registered.unique
  descriptors := registered.descriptors

theorem basicStep_follows (registered : Registered b) (call : BasicCall S) :
    Registered (basicStep sys b call).1 ∧
      ∀ h, lineOf (basicStep sys b call).1 h =
        (lineOf b h).after h call (basicStep sys b call).2 := by
  have spread {b' : Pcanbasic (S × List Int)} {channel : U16} (line : U16 → Line)
      (follows : Leaves b b' channel (line channel)) :
      Registered b' ∧ ∀ h, lineOf b' h = if channel = h then line h else lineOf b h := by
    refine ⟨follows.registered, fun h => ?_⟩
    rw [follows.lines]
    split
    next here => rw [here]
    next => rfl
  cases call with
  | elapsed system => exact ⟨elapsed_registered registered system, fun _ => rfl⟩
  | canInitialize channel btr0btr1 hwtype base irq =>
    exact spread (fun h => (lineOf b h).initialized _)
      (pcanbasicInitialize_sound sys registered channel btr0btr1 hwtype base irq).1
  | canInitializeFd channel bitratefd =>
    unfold basicStep
    dsimp only
    split
    next result returned =>
      exact spread (fun h => (lineOf b h).initialized result.status)
        (pcanbasicInitializeFd_sound sys registered channel bitratefd returned).1
    next => exact ⟨registered, fun _ => rfl⟩
  | canUninitialize channel =>
    exact spread (fun _ => .unused) (pcanbasicUninitialize_follows sys registered channel)
  | canReset channel =>
    exact spread (fun h => (lineOf b h).reopened _)
      (pcanbasicReset_follows sys registered channel)
  | canSetValue channel parameter buffer =>
    exact spread (fun h => ((lineOf b h).stored parameter buffer _).reopened _)
      (pcanbasicSetValue_follows sys registered channel parameter buffer)

theorem run_follows (registered : Registered b) (calls : List (BasicCall S)) :
    Registered (run (basicStep sys) b calls).1 ∧
      ∀ h, lineOf (run (basicStep sys) b calls).1 h =
        (calls.zip (run (basicStep sys) b calls).2).foldl
          (fun line event => line.after h event.1 event.2) (lineOf b h) := by
  induction calls generalizing b with
  | nil => exact ⟨registered, fun _ => rfl⟩
  | cons call calls ih =>
    obtain ⟨kept, line⟩ := basicStep_follows sys registered call
    obtain ⟨last, lines⟩ := ih kept
    refine ⟨last, fun h => ?_⟩
    unfold run
    rw [List.zip_cons_cons, List.foldl_cons, lines, line]

theorem found_iff_opened (registered : Registered b) (h : U16) :
    (pcanbasicGetChannel sys.tracking b h true).2.isSome = (lineOf b h).opened := by
  obtain ⟨devices, -, found⟩ := getChannel_started sys registered h true
  rw [found]
  unfold lineOf
  cases find PcanbasicChannel.channel h b.channels with
  | none => rfl
  | some pchan =>
    by_cases opened : -1 < pchan.fd
    · simp [PcanbasicChannel.line, Option.filter, opened]
    · simp [PcanbasicChannel.line, Option.filter, opened]

/-- After any calls a handle has one entry at most, whose parameters are those set since the
    entry was made; the descriptors held are those of the open entries; and the next
    initialisation uses these parameters and leaves nothing behind if it fails. -/
theorem channel_registry (sys : System S) (start : S) (calls : List (BasicCall S)) :
    let b := (run (basicStep sys) (unstarted start) calls).1
    let events := calls.zip (run (basicStep sys) (unstarted start) calls).2
    Unique PcanbasicChannel.channel b.channels ∧
      b.system.2.Perm (b.channels.flatMap openDescriptor) ∧
      (∀ h, (pcanbasicGetChannel sys.tracking b h true).2.isSome = (lineAfter h events).opened) ∧
      (∀ h pchan, (pcanbasicGetChannel sys.tracking b h false).2 = some pchan →
        pchan.line = lineAfter h events) ∧
      (∀ channel btr0btr1 hwtype base irq,
        InitialiseSound b channel (lineAfter channel events)
          (deviceOf sys.tracking (readied sys.tracking b channel) channel (hwtype.setWidth 32) base
            (irq.setWidth 32)).2 False
          (pcanbasicInitialize sys.tracking b channel btr0btr1 hwtype base irq)) ∧
      ∀ channel bitratefd result,
        pcanbasicInitializeFd sys.tracking b channel bitratefd = some result →
        InitialiseSound b channel (lineAfter channel events)
          (deviceOf sys.tracking (readied sys.tracking b channel) channel 0 0 0).2
          (∃ copied err pfdi, pcanbasicParseFdInit copied bitratefd = some (err, pfdi) ∧ err ≠ 0)
          result := by
  intro b events
  obtain ⟨registered, lines⟩ := run_follows sys (unstarted_registered start) calls
  have lines (h : U16) : lineOf b h = lineAfter h events := lines h
  refine ⟨registered.unique, registered.descriptors, ?_, ?_, ?_, ?_⟩
  · intro h
    rw [← lines, found_iff_opened sys registered]
  · intro h pchan present
    rw [getChannel_any sys registered] at present
    rw [← lines, lineOf_found present]
  · intro channel btr0btr1 hwtype base irq
    rw [← lines]
    exact (pcanbasicInitialize_sound sys registered channel btr0btr1 hwtype base irq).2
  · intro channel bitratefd result returned
    rw [← lines]
    exact (pcanbasicInitializeFd_sound sys registered channel bitratefd returned).2

end Runs

section Samples

/-- One USB device, whose third settings are refused. -/
def sampleSystem : System Nat where
  openFile n _ _ := (n, 3)
  closeFile n _ := n
  getInit n _ := (n, default)
  setInit n _ _ := (n + 1, if n = 2 then 22 else 0)
  delFilters n _ := n
  sendMsg n _ _ := (n, 0)
  recvMsg n _ := (n, .error 11)
  pcaninfoGet _ := [sampleDevice "/dev/pcanusb0" .usb 11 0 0]
  pcaninfoUpdate _ pinfo := pinfo
  outdated _ := false
  allocate n := (n, true)

def sampleInitialize : BasicCall Nat := .canInitialize pcanUsbbus1 0x001c 0 0 0

/-- The entry of a handle that is initialised stays if it is initialised again, and a reset
    that fails at the settings leaves the device open. -/
theorem entries_after_failures :
    (¬∀ (sys : System Nat) (start : Nat) (calls : List (BasicCall Nat)) (channel btr0btr1 : U16),
      let b := (run (basicStep sys) (unstarted start) calls).1
      let result := pcanbasicInitialize sys.tracking b channel btr0btr1 0 0 0
      ¬succeeded result.status →
        (pcanbasicGetChannel sys.tracking result.b channel true).2 = none) ∧
    ¬∀ (sys : System Nat) (start : Nat) (calls : List (BasicCall Nat)) (channel : U16),
      let b := (run (basicStep sys) (unstarted start) calls).1
      let result := pcanbasicReset sys.tracking b channel
      result.status ≠ pcanErrorOk →
        (pcanbasicGetChannel sys.tracking result.b channel true).2 = none := by
  constructor
  · intro leaves
    have gone := leaves sampleSystem 0 [sampleInitialize] pcanUsbbus1 0x001c (by decide +kernel)
    exact absurd gone (by decide +kernel)
  · intro leaves
    have gone := leaves sampleSystem 0 [sampleInitialize] pcanUsbbus1 (by decide +kernel)
    exact absurd gone (by decide +kernel)

end Samples

end PcanDriver

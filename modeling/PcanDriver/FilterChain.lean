import PcanDriver.Device
import PcanDriver.Lib.FirstAdditions
import PcanDriver.Lib.StepSystem

/-!
The message filters of a channel (`pcan_filter.c`). The handle of a chain is `none`
before it is created; filters are ranges of ids with flags, all of the chain's calls
are made under its lock.
-/
namespace PcanDriver

def pcanMaxFilterPerChain : Nat := 8

/-- No message is blocked before the first filter is added. -/
def pcanCreateFilterChain : FilterChain := ⟨[], -1⟩

/-- `__pcan_add_filter`, when memory for the element is found. -/
def addFilter (chain : FilterChain) (filter : FilterElement) : FilterChain × Int :=
  if filter ∈ chain.anchor then (chain, 0)
  else if chain.count ≥ pcanMaxFilterPerChain then (chain, -enomem)
  else
    (⟨chain.anchor ++ [filter], if chain.count < 0 then 1 else chain.count + 1⟩, 0)

def pcanAddFilter (handle : Option FilterChain) (filter : FilterElement) :
    Option FilterChain × Int :=
  match handle with
  | none => (none, 0)
  | some chain => (some (addFilter chain filter).1, (addFilter chain filter).2)

/-- The loop of `pcan_add_filters`; the first failure ends it. -/
def addFilters (chain : FilterChain) : List FilterElement → FilterChain
  | [] => chain
  | filter :: rest =>
    let added := addFilter chain filter
    if added.2 ≠ 0 then added.1 else addFilters added.1 rest

/-- The loop's `err` is a variable of its own, so that the function always succeeds. -/
def pcanAddFilters (handle : Option FilterChain) (pf : List FilterElement) :
    Option FilterChain × Int :=
  match handle with
  | none => (none, 0)
  | some chain => (some (addFilters chain pf), 0)

def pcanDeleteFilterAll (handle : Option FilterChain) : Option FilterChain :=
  handle.map fun _ => ⟨[], 0⟩

def pcanGetFiltersCount (chain : FilterChain) : Int := if chain.count < 0 then 0 else chain.count

/-- The loop of `pcan_get_filters`: `i` filters have been copied. -/
def getFilters (count : Int) : List FilterElement → Nat → List FilterElement × Nat
  | [], i => ([], i)
  | filter :: rest, i =>
    if ((i + 1 : Nat) : Int) ≥ count then ([filter], i + 1)
    else
      let more := getFilters count rest (i + 1)
      (filter :: more.1, more.2)

/-- What is copied to the caller's table, and the number of filters copied. -/
def pcanGetFilters (chain : FilterChain) (count : Int) : List FilterElement × Nat :=
  getFilters count chain.anchor 0

/-- A filter lets through the ids of its range; a filter for RTR frames only these, and
    one without the EXT flag only standard frames. -/
def FilterElement.Accepts (filter : FilterElement) (msg : PcanfdMsg) : Prop :=
  filter.fromID ≤ msg.id ∧ msg.id ≤ filter.toID ∧
    (filter.flags &&& pcanfdMsgRtr ≠ 0 → msg.flags &&& pcanfdMsgRtr ≠ 0) ∧
    (msg.flags &&& pcanfdMsgExt ≠ 0 → filter.flags &&& pcanfdMsgExt ≠ 0)

theorem FilterElement.passes_iff (filter : FilterElement) (msg : PcanfdMsg) :
    filter.passes msg = true ↔ filter.Accepts msg := by
  simp only [FilterElement.passes, FilterElement.Accepts, Bool.and_eq_true, Bool.not_eq_true',
    Bool.or_eq_false_iff, Bool.and_eq_false_iff, Bool.not_eq_false', decide_eq_true_eq,
    decide_eq_false_iff_not, ne_eq, not_not]
  tauto

structure FilterChain.Holds (chain : FilterChain) (filters : List FilterElement) : Prop where
  elements : chain.anchor = filters
  count : chain.count = filters.length ∨ filters = [] ∧ chain.count = -1

section Operations
variable {chain : FilterChain} {filters : List FilterElement}

theorem pcanCreateFilterChain_holds : pcanCreateFilterChain.Holds [] :=
  ⟨rfl, .inr ⟨rfl, rfl⟩⟩

theorem addFilter_holds (holds : chain.Holds filters) (filter : FilterElement) :
    (addFilter chain filter).1.Holds (FirstAdditions.add pcanMaxFilterPerChain filters filter) := by
  obtain ⟨rfl, count⟩ := holds
  unfold addFilter FirstAdditions.add
  by_cases held : filter ∈ chain.anchor
  · rw [if_pos held, if_pos held]
    exact ⟨rfl, count⟩
  · rw [if_neg held, if_neg held]
    have same : chain.count ≥ pcanMaxFilterPerChain ↔ pcanMaxFilterPerChain ≤ chain.anchor.length := by
      rcases count with length | ⟨empty, start⟩
      · rw [length]
        omega
      · rw [empty, start]
        decide
    by_cases full : pcanMaxFilterPerChain ≤ chain.anchor.length
    · rw [if_pos (same.mpr full), if_pos full]
      exact ⟨rfl, count⟩
    · rw [if_neg (mt same.mp full), if_neg full]
      refine ⟨rfl, .inl ?_⟩
      rcases count with length | ⟨empty, start⟩
      · simp [length]
      · simp [empty, start]

/-- A filter is refused only by a chain that is full, which then refuses or knows all
    of the others. -/
theorem addFilter_refused (holds : chain.Holds filters) {filter : FilterElement}
    (refused : (addFilter chain filter).2 ≠ 0) :
    filter ∉ filters ∧ pcanMaxFilterPerChain ≤ filters.length := by
  obtain ⟨rfl, count⟩ := holds
  unfold addFilter at refused
  by_cases held : filter ∈ chain.anchor
  · rw [if_pos held] at refused
    exact absurd rfl refused
  · refine ⟨held, ?_⟩
    rw [if_neg held] at refused
    by_cases full : chain.count ≥ pcanMaxFilterPerChain
    · rcases count with length | ⟨_, start⟩
      · omega
      · rw [start] at full
        exact absurd full (by decide)
    · rw [if_neg full] at refused
      exact absurd rfl refused

theorem add_full {room : Nat} {held : List FilterElement} (full : room ≤ held.length)
    (xs : List FilterElement) : xs.foldl (FirstAdditions.add room) held = held := by
  induction xs with
  | nil => rfl
  | cons x xs ih =>
    have kept : FirstAdditions.add room held x = held := by
      rw [FirstAdditions.add, if_pos full, ite_self]
    rw [List.foldl_cons, kept]
    exact ih

theorem addFilters_holds (pf : List FilterElement) (holds : chain.Holds filters) :
    (addFilters chain pf).Holds (pf.foldl (FirstAdditions.add pcanMaxFilterPerChain) filters) := by
  induction pf generalizing chain filters with
  | nil => exact holds
  | cons filter rest ih =>
    have added := addFilter_holds holds filter
    rw [List.foldl_cons, addFilters]
    by_cases refused : (addFilter chain filter).2 ≠ 0
    · rw [if_pos refused]
      obtain ⟨absent, full⟩ := addFilter_refused holds refused
      have kept : FirstAdditions.add pcanMaxFilterPerChain filters filter = filters := by
        rw [FirstAdditions.add, if_neg absent, if_pos full]
      rw [kept] at added ⊢
      rw [add_full full]
      exact added
    · rw [if_neg refused]
      exact ih added

theorem pcanGetFiltersCount_holds (holds : chain.Holds filters) :
    pcanGetFiltersCount chain = filters.length := by
  unfold pcanGetFiltersCount
  rcases holds.count with length | ⟨empty, start⟩
  · rw [length, if_neg (by omega)]
  · rw [empty, start]
    rfl

theorem getFilters_take (count : Int) (elements : List FilterElement) (i : Nat) (more : i < count) :
    (getFilters count elements i).1 = elements.take (count.toNat - i) ∧
      (getFilters count elements i).2 = i + min (count.toNat - i) elements.length := by
  induction elements generalizing i with
  | nil => simp [getFilters]
  | cons filter rest ih =>
    unfold getFilters
    by_cases last : ((i + 1 : Nat) : Int) ≥ count
    · have one : count.toNat - i = 1 := by omega
      rw [if_pos last, one]
      constructor
      · rfl
      · rw [List.length_cons]
        omega
    · obtain ⟨copied, number⟩ := ih (i + 1) (by omega)
      have next : count.toNat - i = count.toNat - (i + 1) + 1 := by omega
      rw [if_neg last]
      simp only [copied, number, next, List.take_succ_cons, List.length_cons, true_and]
      omega

theorem pcanDoFilter_scan (chain : FilterChain) {pe : PcanfdRxmsg} (can : pe.msg.type.isCan) :
    pcanDoFilter (some chain) pe =
      if chain.count ≤ 0 ∨ chain.anchor.any (·.passes pe.msg) then 0 else 1 := by
  have nested : pcanDoFilter (some chain) pe =
      if chain.count ≤ 0 then 0 else if chain.anchor.any (·.passes pe.msg) then 0 else 1 := by
    unfold pcanDoFilter
    cases type : pe.msg.type <;> rw [type] at can <;> first | rfl | cases can
  rw [nested]
  by_cases none_added : chain.count ≤ 0
  · rw [if_pos none_added, if_pos (.inl none_added)]
  · simp only [none_added, if_false, false_or]

theorem pcanDoFilter_holds (holds : chain.Holds filters) {pe : PcanfdRxmsg}
    (can : pe.msg.type.isCan) :
    pcanDoFilter (some chain) pe = 0 ↔ filters = [] ∨ ∃ f ∈ filters, f.Accepts pe.msg := by
  obtain ⟨rfl, count⟩ := holds
  have blocks : chain.count ≤ 0 ↔ chain.anchor = [] := by
    rcases count with length | ⟨empty, start⟩
    · rw [length, ← List.length_eq_zero_iff]
      omega
    · simp [empty, start]
  have some_passes : chain.anchor.any (·.passes pe.msg) = true ↔
      ∃ f ∈ chain.anchor, f.Accepts pe.msg := by
    simp only [List.any_eq_true, FilterElement.passes_iff]
  rw [pcanDoFilter_scan chain can, ← blocks, ← some_passes]
  split <;> simp_all

end Operations

section Runs

inductive FilterCall where
  | createFilterChain
  | addFilter (filter : FilterElement)
  | addFilters (pf : List FilterElement)
  | deleteFilterAll
deriving Repr, DecidableEq

def filterStep (handle : Option FilterChain) : FilterCall → Option FilterChain × Int
  | .createFilterChain => (some pcanCreateFilterChain, 0)
  | .addFilter filter => pcanAddFilter handle filter
  | .addFilters pf => pcanAddFilters handle pf
  | .deleteFilterAll => (pcanDeleteFilterAll handle, 0)

/-- What a chain has been asked for since it was empty; there is none before the first
    creation. -/
def requested (asked : Option (List FilterElement)) : FilterCall → Option (List FilterElement)
  | .createFilterChain => some []
  | .addFilter filter => asked.map (· ++ [filter])
  | .addFilters pf => asked.map (· ++ pf)
  | .deleteFilterAll => asked.map fun _ => []

def requests (calls : List FilterCall) : Option (List FilterElement) :=
  calls.foldl requested none

/-- The chain of a handle holds the first distinct filters it was asked for. -/
def ChainOf (asked : Option (List FilterElement)) (handle : Option FilterChain) : Prop :=
  match asked, handle with
  | none, none => True
  | some xs, some chain =>
    chain.Holds ((FirstAdditions.firsts xs).take pcanMaxFilterPerChain)
  | _, _ => False

theorem filterStep_chain {asked : Option (List FilterElement)} {handle : Option FilterChain}
    (chain : ChainOf asked handle) (call : FilterCall) :
    ChainOf (requested asked call) (filterStep handle call).1 := by
  cases call with
  | createFilterChain => exact pcanCreateFilterChain_holds
  | addFilter filter =>
    match asked, handle, chain with
    | none, none, _ => trivial
    | some xs, some _, holds =>
      have added := addFilter_holds holds filter
      rw [FirstAdditions.add_firsts] at added
      exact added
  | addFilters pf =>
    match asked, handle, chain with
    | none, none, _ => trivial
    | some xs, some _, holds =>
      have added := addFilters_holds pf holds
      rw [FirstAdditions.foldl_add] at added
      exact added
  | deleteFilterAll =>
    match asked, handle, chain with
    | none, none, _ => trivial
    | some _, some _, _ => exact ⟨rfl, .inl rfl⟩

theorem run_chain (calls : List FilterCall) {asked : Option (List FilterElement)}
    {handle : Option FilterChain} (chain : ChainOf asked handle) :
    ChainOf (calls.foldl requested asked) (StepSystem.run filterStep handle calls).1 := by
  induction calls generalizing asked handle with
  | nil => exact chain
  | cons call rest ih => exact ih (filterStep_chain chain call)

theorem reached_chain {calls : List FilterCall} {chain : FilterChain}
    (reached : (StepSystem.run filterStep none calls).1 = some chain) :
    ∃ xs, requests calls = some xs ∧
      chain.Holds ((FirstAdditions.firsts xs).take pcanMaxFilterPerChain) := by
  have ended := run_chain calls (show ChainOf none none from trivial)
  rw [reached] at ended
  cases asked : requests calls with
  | none =>
    rw [requests] at asked
    rw [asked] at ended
    exact ended.elim
  | some xs =>
    rw [requests] at asked
    rw [asked] at ended
    exact ⟨xs, rfl, ended⟩

/-- The result is 0 or 1, so that it is known from when it is 0. -/
theorem pcanDoFilter_same {a b : FilterChain} {pe : PcanfdRxmsg} (can : pe.msg.type.isCan)
    (same : pcanDoFilter (some a) pe = 0 ↔ pcanDoFilter (some b) pe = 0) :
    pcanDoFilter (some a) pe = pcanDoFilter (some b) pe := by
  have two : ∀ chain, pcanDoFilter (some chain) pe = 0 ∨ pcanDoFilter (some chain) pe = 1 := by
    intro chain
    rw [pcanDoFilter_scan chain can]
    exact ite_eq_or_eq _ _ _
  rcases two a with zero | one
  · rw [zero, same.mp zero]
  · have other : pcanDoFilter (some b) pe ≠ 0 := by
      intro zero
      rw [same.mpr zero] at one
      cases one
    rw [one, (two b).resolve_left other]

theorem pcanDoFilter_order {a b : FilterChain} {xs ys : List FilterElement} (left : a.Holds xs)
    (right : b.Holds ys) (same : ∀ f, f ∈ xs ↔ f ∈ ys) {pe : PcanfdRxmsg}
    (can : pe.msg.type.isCan) : pcanDoFilter (some a) pe = pcanDoFilter (some b) pe := by
  apply pcanDoFilter_same can
  have empty : xs = [] ↔ ys = [] := by
    simp only [List.eq_nil_iff_forall_not_mem, same]
  rw [pcanDoFilter_holds left can, pcanDoFilter_holds right can, empty]
  simp only [same]

/-- The chain after any calls holds the first eight distinct filters that it was asked
    for since it was empty, in that order, and answers for them. Two chains with the
    same filters, whatever the order, let the same frames through; and they have the
    same filters when they were asked for the same ones and none was refused. -/
theorem filter_chain_after_calls {calls : List FilterCall} {chain : FilterChain}
    (reached : (StepSystem.run filterStep none calls).1 = some chain) :
    (∃ xs, requests calls = some xs ∧
      chain.anchor = (FirstAdditions.firsts xs).take pcanMaxFilterPerChain) ∧
    chain.anchor.Nodup ∧ chain.anchor.length ≤ pcanMaxFilterPerChain ∧
    pcanGetFiltersCount chain = chain.anchor.length ∧
    (∀ count : Int, 1 ≤ count → pcanGetFilters chain count =
      (chain.anchor.take count.toNat, min count.toNat chain.anchor.length)) ∧
    (∀ pe : PcanfdRxmsg, pe.msg.type.isCan → (pcanDoFilter (some chain) pe = 0 ↔
      chain.anchor = [] ∨ ∃ f ∈ chain.anchor, f.Accepts pe.msg)) ∧
    ∀ (calls' : List FilterCall) (chain' : FilterChain),
      (StepSystem.run filterStep none calls').1 = some chain' →
      ((∀ f, f ∈ chain.anchor ↔ f ∈ chain'.anchor) ∨
        ∃ xs ys, requests calls = some xs ∧ requests calls' = some ys ∧
          (∀ f, f ∈ xs ↔ f ∈ ys) ∧ (FirstAdditions.firsts xs).length ≤ pcanMaxFilterPerChain ∧
          (FirstAdditions.firsts ys).length ≤ pcanMaxFilterPerChain) →
      ∀ pe : PcanfdRxmsg, pe.msg.type.isCan →
        pcanDoFilter (some chain) pe = pcanDoFilter (some chain') pe := by
  obtain ⟨xs, asked, holds⟩ := reached_chain reached
  have elements := holds.elements
  refine ⟨⟨xs, asked, elements⟩, ?_, ?_, ?_, ?_, ?_, ?_⟩
  · rw [elements]
    exact FirstAdditions.take_firsts_nodup _ _
  · rw [elements]
    exact List.length_take_le _ _
  · rw [elements]
    exact pcanGetFiltersCount_holds holds
  · intro count positive
    obtain ⟨copied, number⟩ := getFilters_take count chain.anchor 0 (by omega)
    rw [Nat.sub_zero] at copied number
    rw [Nat.zero_add] at number
    exact Prod.ext copied number
  · intro pe can
    rw [elements]
    exact pcanDoFilter_holds holds can
  · intro calls' chain' reached' same pe can
    obtain ⟨ys, asked', holds'⟩ := reached_chain reached'
    apply pcanDoFilter_order holds holds' _ can
    rcases same with same | ⟨xs', ys', asked_xs, asked_ys, same, fits_xs, fits_ys⟩
    · rw [elements, holds'.elements] at same
      exact same
    · obtain rfl : xs = xs' := Option.some.inj (asked.symm.trans asked_xs)
      obtain rfl : ys = ys' := Option.some.inj (asked'.symm.trans asked_ys)
      intro f
      rw [FirstAdditions.mem_take_firsts fits_xs, FirstAdditions.mem_take_firsts fits_ys]
      exact same f

theorem filter_chain_after_two_calls :
    let low : FilterElement := ⟨0, 0x100, 0⟩
    let ext : FilterElement := ⟨0x200, 0x300, pcanfdMsgExt⟩
    let calls : List FilterCall := [.createFilterChain, .addFilter ⟨5, 6, 0⟩, .deleteFilterAll,
      .addFilters [low, ext, low]]
    let chain : FilterChain := ⟨[low, ext], 2⟩
    (StepSystem.run filterStep none calls).1 = some chain ∧ chain.anchor.Nodup ∧
      pcanGetFilters chain 1 = ([low], 1) := by
  intro low ext calls chain
  have reached : (StepSystem.run filterStep none calls).1 = some chain := by decide
  obtain ⟨_, distinct, _, _, copied, _⟩ := filter_chain_after_calls reached
  exact ⟨reached, distinct, copied 1 (by decide)⟩

end Runs

end PcanDriver

import PcanDriver.Acceptance
import PcanDriver.FilterChain

/-!
What PCAN-Basic says about the filters of a channel (`pcanbasic_get_filter`, `pcbcore.c`), and
which frames they let through (`pcan_filter.c`). The library looks at each filter by itself.
-/
namespace PcanDriver

section Source

def pcanFilterClose : U8 := 0x00
def pcanFilterOpen : U8 := 0x01
def pcanFilterCustom : U8 := 0x02

/-- The loop over the filters that have been read, and what is behind it. -/
def scanFilters : Bool → List FilterElement → U8
  | bclosed, [] => if bclosed then pcanFilterClose else pcanFilterCustom
  | bclosed, f :: rest =>
    if f.fromID = 0 ∧ (if f.flags &&& pcanfdMsgExt ≠ 0 then f.toID = canMaxExtendedId
        else f.toID = canMaxStandardId) then pcanFilterOpen
    else scanFilters (if f.fromID ≤ f.toID then false else bclosed) rest

/-- `stateRead` and `filtersRead` say whether the two ioctls succeed. -/
def pcanbasicGetFilter (stateRead filtersRead : Bool) (chain : FilterChain) : U8 :=
  let filtersCounter := if stateRead then pcanGetFiltersCount chain else 0
  if filtersCounter > 0 then
    if filtersRead then scanFilters true (pcanGetFilters chain filtersCounter).1
    else pcanFilterClose
  else pcanFilterOpen

def pcanModeExtended : U8 := 0x02

/-- `pcanbasic_filter` with the call that it makes. -/
def pcanbasicFilter (fromID toID : U32) (mode : U8) : FilterCall :=
  .addFilter ⟨fromID, toID, if mode = pcanModeExtended then 0x02 else 0x00⟩

/-- `PCAN_MESSAGE_FILTER` of `pcanbasic_set_value`: a filter without ids closes everything. -/
def setMessageFilter (value : U8) : List FilterCall :=
  .deleteFilterAll :: if value = pcanFilterClose then [.addFilter ⟨1, 0, 0⟩] else []

end Source

section Statement

def FilterElement.ext (f : FilterElement) : Bool := f.flags &&& pcanfdMsgExt ≠ 0
def FilterElement.rtr (f : FilterElement) : Bool := f.flags &&& pcanfdMsgRtr ≠ 0

def FilterElement.maxID (f : FilterElement) : U32 :=
  if f.ext then canMaxExtendedId else canMaxStandardId

structure IsCanFrame (pe : PcanfdRxmsg) : Prop where
  can : pe.msg.type.isCan = true
  id : pe.msg.id ≤ if pe.msg.flags &&& pcanfdMsgExt ≠ 0 then canMaxExtendedId else canMaxStandardId

def PassesAll (chain : FilterChain) : Prop := ∀ pe, IsCanFrame pe → pcanDoFilter (some chain) pe = 0

def PassesNone (chain : FilterChain) : Prop :=
  ∀ pe, IsCanFrame pe → pcanDoFilter (some chain) pe ≠ 0

structure FilterTold (chain : FilterChain) (value : U8) : Prop where
  opened : value = pcanFilterOpen ↔ PassesAll chain
  closed : value = pcanFilterClose ↔ PassesNone chain
  custom : value = pcanFilterCustom ↔ ¬PassesAll chain ∧ ¬PassesNone chain

def FilterElement.Full (f : FilterElement) : Prop := f.fromID = 0 ∧ f.toID = f.maxID

/-- The filters for extended frames that are not for RTR frames only have every id in one of
    their ranges. -/
def CoverExtended (filters : List FilterElement) : Prop :=
  ∀ id ≤ canMaxExtendedId, ∃ f ∈ filters,
    f.ext = true ∧ f.rtr = false ∧ f.fromID ≤ id ∧ id ≤ f.toID

/-- One filter for all ids of its format is there just if all of them cover those of extended
    frames, and a range that has ids has some of its format unless no other filter has. -/
structure Telling (filters : List FilterElement) : Prop where
  full : (∃ f ∈ filters, f.Full) ↔ CoverExtended filters
  inside : (∃ f ∈ filters, f.fromID ≤ f.toID) → ∃ f ∈ filters, f.fromID ≤ f.toID ∧ f.fromID ≤ f.maxID

end Statement

section Frames

def frameFlags (ext rtr : Bool) : U32 :=
  (if ext then pcanfdMsgExt else 0) ||| (if rtr then pcanfdMsgRtr else 0)

theorem frameFlags_bits : ∀ ext rtr : Bool,
    (frameFlags ext rtr &&& pcanfdMsgExt ≠ 0 ↔ ext = true) ∧
      (frameFlags ext rtr &&& pcanfdMsgRtr ≠ 0 ↔ rtr = true) := by
  decide

def frameWith (id : U32) (ext rtr : Bool) : PcanfdRxmsg :=
  { PcanfdRxmsg.zero with
    msg := { PcanfdMsg.zero with type := .can20Msg, id := id, flags := frameFlags ext rtr } }

theorem frameWith_isCan {id : U32} {ext : Bool} (rtr : Bool)
    (small : id ≤ if ext then canMaxExtendedId else canMaxStandardId) :
    IsCanFrame (frameWith id ext rtr) := by
  refine ⟨rfl, ?_⟩
  simp only [frameWith, frameFlags_bits]
  exact small

theorem FilterElement.accepts_frame (f : FilterElement) (id : U32) (ext rtr : Bool) :
    f.Accepts (frameWith id ext rtr).msg ↔ f.fromID ≤ id ∧ id ≤ f.toID ∧
      (f.rtr = true → rtr = true) ∧ (ext = true → f.ext = true) := by
  unfold FilterElement.Accepts FilterElement.rtr FilterElement.ext
  simp only [frameWith, frameFlags_bits, decide_eq_true_eq]

end Frames

section Passing
variable {chain : FilterChain} {filters : List FilterElement}

theorem noFilter_passes (holds : chain.Holds filters) (empty : filters = []) : PassesAll chain :=
  fun _ frame => (pcanDoFilter_holds holds frame.can).mpr (.inl empty)

theorem passes_iff_accepted (holds : chain.Holds filters) (some_ : filters ≠ [])
    {pe : PcanfdRxmsg} (frame : IsCanFrame pe) :
    pcanDoFilter (some chain) pe = 0 ↔ ∃ f ∈ filters, f.Accepts pe.msg :=
  (pcanDoFilter_holds holds frame.can).trans (or_iff_right some_)

theorem passesAll_iff (holds : chain.Holds filters) (some_ : filters ≠ []) :
    PassesAll chain ↔ CoverExtended filters := by
  constructor
  · intro passes id small
    have frame : IsCanFrame (frameWith id true false) := frameWith_isCan false small
    obtain ⟨f, member, accepts⟩ :=
      (passes_iff_accepted holds some_ frame).mp (passes _ frame)
    obtain ⟨low, high, data, ext⟩ := (f.accepts_frame id true false).mp accepts
    refine ⟨f, member, ext rfl, ?_, low, high⟩
    cases rtr : f.rtr with
    | false => rfl
    | true => exact absurd (data rtr) Bool.false_ne_true
  · intro cover pe frame
    have small : pe.msg.id ≤ canMaxExtendedId := by
      have id := frame.id
      split at id
      · exact id
      · exact BitVec.le_trans id (by decide)
    obtain ⟨f, member, ext, rtr, low, high⟩ := cover pe.msg.id small
    refine (passes_iff_accepted holds some_ frame).mpr ⟨f, member, low, high, ?_, ?_⟩
    · intro only
      exact absurd (decide_eq_true only) (Bool.eq_false_iff.mp rtr)
    · exact fun _ => of_decide_eq_true ext

theorem passesNone_iff (holds : chain.Holds filters) (some_ : filters ≠ []) :
    PassesNone chain ↔ ∀ f ∈ filters, ¬(f.fromID ≤ f.toID ∧ f.fromID ≤ f.maxID) := by
  constructor
  · rintro refused f member ⟨filled, inside⟩
    have frame : IsCanFrame (frameWith f.fromID f.ext f.rtr) := frameWith_isCan _ inside
    exact refused _ frame ((passes_iff_accepted holds some_ frame).mpr ⟨f, member,
      (f.accepts_frame _ _ _).mpr ⟨BitVec.le_refl _, filled, id, id⟩⟩)
  · intro empty pe frame passes
    obtain ⟨f, member, low, high, _, ext⟩ := (passes_iff_accepted holds some_ frame).mp passes
    refine empty f member ⟨BitVec.le_trans low high, BitVec.le_trans low ?_⟩
    have id := frame.id
    unfold FilterElement.maxID FilterElement.ext
    by_cases format : pe.msg.flags &&& pcanfdMsgExt ≠ 0
    · rw [if_pos format] at id
      rw [if_pos (decide_eq_true (ext format))]
      exact id
    · rw [if_neg format] at id
      split
      · exact BitVec.le_trans id (by decide)
      · exact id

end Passing

section Scan

theorem FilterElement.full_iff (f : FilterElement) : f.Full ↔
    f.fromID = 0 ∧ (if f.flags &&& pcanfdMsgExt ≠ 0 then f.toID = canMaxExtendedId
      else f.toID = canMaxStandardId) := by
  unfold FilterElement.Full FilterElement.maxID FilterElement.ext
  simp only [decide_eq_true_eq]
  split <;> rfl

theorem scanFilters_full {f : FilterElement} (full : f.Full) (bclosed : Bool)
    (rest : List FilterElement) : scanFilters bclosed (f :: rest) = pcanFilterOpen :=
  if_pos (f.full_iff.mp full)

theorem scanFilters_other {f : FilterElement} (other : ¬f.Full) (bclosed : Bool)
    (rest : List FilterElement) : scanFilters bclosed (f :: rest) =
      scanFilters (if f.fromID ≤ f.toID then false else bclosed) rest :=
  if_neg fun full => other (f.full_iff.mpr full)

theorem scanFilters_open (bclosed : Bool) (filters : List FilterElement) :
    scanFilters bclosed filters = pcanFilterOpen ↔ ∃ f ∈ filters, f.Full := by
  induction filters generalizing bclosed with
  | nil =>
    constructor
    · intro opened
      cases bclosed <;> exact absurd opened (by decide)
    · rintro ⟨f, member, _⟩
      cases member
  | cons f rest ih =>
    by_cases full : f.Full
    · rw [scanFilters_full full]
      exact ⟨fun _ => ⟨f, List.mem_cons_self, full⟩, fun _ => rfl⟩
    · rw [scanFilters_other full, ih]
      simp only [List.mem_cons, exists_eq_or_imp, or_iff_right full]

theorem FilterElement.Full.filled {f : FilterElement} (full : f.Full) : f.fromID ≤ f.toID := by
  rw [full.1, BitVec.le_def]
  exact Nat.zero_le _

theorem scanFilters_close (bclosed : Bool) (filters : List FilterElement) :
    scanFilters bclosed filters = pcanFilterClose ↔
      bclosed = true ∧ ∀ f ∈ filters, ¬f.fromID ≤ f.toID := by
  induction filters generalizing bclosed with
  | nil =>
    cases bclosed with
    | false => exact ⟨fun closed => absurd closed (by decide), fun both => absurd both.1 (by decide)⟩
    | true => exact ⟨fun _ => ⟨rfl, fun f member => by cases member⟩, fun _ => rfl⟩
  | cons f rest ih =>
    by_cases full : f.Full
    · rw [scanFilters_full full]
      constructor
      · intro closed
        exact absurd closed (by decide)
      · intro empty
        exact absurd full.filled (empty.2 f List.mem_cons_self)
    · rw [scanFilters_other full, ih, List.forall_mem_cons]
      by_cases filled : f.fromID ≤ f.toID
      · rw [if_pos filled]
        constructor
        · intro closed
          cases closed.1
        · intro empty
          exact absurd filled empty.2.1
      · rw [if_neg filled]
        exact ⟨fun closed => ⟨closed.1, filled, closed.2⟩, fun empty => ⟨empty.1, empty.2.2⟩⟩

theorem scanFilters_values (bclosed : Bool) (filters : List FilterElement) :
    scanFilters bclosed filters = pcanFilterOpen ∨ scanFilters bclosed filters = pcanFilterClose ∨
      scanFilters bclosed filters = pcanFilterCustom := by
  induction filters generalizing bclosed with
  | nil =>
    cases bclosed with
    | false => exact .inr (.inr rfl)
    | true => exact .inr (.inl rfl)
  | cons f rest ih =>
    by_cases full : f.Full
    · exact .inl (scanFilters_full full _ _)
    · rw [scanFilters_other full]
      exact ih _

theorem pcanbasicGetFilter_holds {chain : FilterChain} {filters : List FilterElement}
    (holds : chain.Holds filters) : pcanbasicGetFilter true true chain =
      if filters = [] then pcanFilterOpen else scanFilters true filters := by
  have count := pcanGetFiltersCount_holds holds
  unfold pcanbasicGetFilter
  simp only [if_true, count]
  by_cases empty : filters = []
  · rw [if_pos empty, empty]
    rfl
  · have positive : 0 < filters.length := List.length_pos_iff.mpr empty
    obtain ⟨copied, _⟩ := getFilters_take filters.length chain.anchor 0 (by omega)
    rw [Nat.sub_zero, Int.toNat_natCast, holds.elements, List.take_length] at copied
    rw [if_neg empty, if_pos (by omega), pcanGetFilters, holds.elements, copied]

end Scan

section Told
variable {chain : FilterChain} {filters : List FilterElement}

theorem FilterTold.of_values {value : U8} (opened : value = pcanFilterOpen ↔ PassesAll chain)
    (closed : value = pcanFilterClose ↔ PassesNone chain)
    (values : value = pcanFilterOpen ∨ value = pcanFilterClose ∨ value = pcanFilterCustom) :
    FilterTold chain value := by
  refine ⟨opened, closed, ?_⟩
  rw [← opened, ← closed]
  rcases values with rfl | rfl | rfl <;> decide

theorem filterTold_iff (holds : chain.Holds filters) :
    FilterTold chain (pcanbasicGetFilter true true chain) ↔ filters = [] ∨ Telling filters := by
  rw [pcanbasicGetFilter_holds holds]
  by_cases empty : filters = []
  · have all := noFilter_passes holds empty
    have some_frame : IsCanFrame (frameWith 0 false false) := frameWith_isCan false (by decide)
    rw [if_pos empty]
    refine ⟨fun _ => .inl empty, fun _ => .of_values ⟨fun _ => all, fun _ => rfl⟩ ?_ (.inl rfl)⟩
    exact ⟨fun same => absurd same (by decide), fun none_ => absurd (all _ some_frame) (none_ _ some_frame)⟩
  · have opened := scanFilters_open true filters
    have closed := scanFilters_close true filters
    rw [if_neg empty, or_iff_right empty]
    constructor
    · intro told
      refine ⟨?_, ?_⟩
      · rw [← opened, told.opened]
        exact passesAll_iff holds empty
      · intro filled
        by_contra outside
        have none_ : PassesNone chain := (passesNone_iff holds empty).mpr fun f member both =>
          outside ⟨f, member, both⟩
        obtain ⟨f, member, range⟩ := filled
        exact (closed.mp (told.closed.mpr none_)).2 f member range
    · intro telling
      refine .of_values ?_ ?_ (scanFilters_values true filters)
      · rw [opened, telling.full]
        exact (passesAll_iff holds empty).symm
      · rw [closed, passesNone_iff holds empty]
        constructor
        · exact fun ranges f member both => ranges.2 f member both.1
        · intro refused
          refine ⟨rfl, fun f member filled => ?_⟩
          obtain ⟨g, there, both⟩ := telling.inside ⟨f, member, filled⟩
          exact refused g there both

/-- What PCAN-Basic says of a chain that any calls have left is what the driver does just where
    the chain has no filter or its filters are telling. -/
theorem message_filter_iff (calls : List FilterCall) (chain : FilterChain)
    (reached : (StepSystem.run filterStep none calls).1 = some chain) :
    FilterTold chain (pcanbasicGetFilter true true chain) ↔
      chain.anchor = [] ∨ Telling chain.anchor := by
  obtain ⟨xs, _, holds⟩ := reached_chain reached
  have anchored : chain.Holds chain.anchor := holds.elements ▸ holds
  exact filterTold_iff anchored

end Told

section Samples

theorem closed_filter_told :
    (StepSystem.run filterStep none (.createFilterChain :: setMessageFilter pcanFilterClose)).1 =
        some ⟨[⟨1, 0, 0⟩], 1⟩ ∧
      FilterTold ⟨[⟨1, 0, 0⟩], 1⟩ (pcanbasicGetFilter true true ⟨[⟨1, 0, 0⟩], 1⟩) := by
  refine ⟨by decide, (message_filter_iff
    (.createFilterChain :: setMessageFilter pcanFilterClose) ⟨[⟨1, 0, 0⟩], 1⟩ (by decide)).mpr
    (.inr ⟨⟨?_, ?_⟩, ?_⟩)⟩
  · rintro ⟨f, member, full⟩
    rw [List.mem_singleton.mp member] at full
    exact absurd full.1 (by decide)
  · intro cover
    obtain ⟨f, member, ext, _⟩ := cover 0 (by decide)
    rw [List.mem_singleton.mp member] at ext
    exact absurd ext (by decide)
  · rintro ⟨f, member, filled⟩
    rw [List.mem_singleton.mp member] at filled
    exact absurd filled (by decide)

theorem standard_called_open : ¬∀ (calls : List FilterCall) (chain : FilterChain),
    (StepSystem.run filterStep none calls).1 = some chain →
    FilterTold chain (pcanbasicGetFilter true true chain) := by
  intro every
  have told := every [.createFilterChain, pcanbasicFilter 0 0x7ff 0]
    ⟨[⟨0, 0x7ff, 0⟩], 1⟩ (by decide)
  have all := told.opened.mp (by decide)
  exact absurd (all (frameWith 0 true false) (frameWith_isCan false (by decide))) (by decide)

end Samples

end PcanDriver

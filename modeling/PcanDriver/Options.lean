import PcanDriver.Types

/-!
The option ioctls: `handle_pcanfd_get_option` and `handle_pcanfd_set_option`
(`pcan_fops.c`), and the handlers of 32-bit callers (`pcan_fops_linux.c`). The device is
any type: what a get or set function does to it, and to the user's buffer, is its own
affair.
-/
namespace PcanDriver
variable {D : Type}

abbrev U64 := BitVec 64

def pcanfdOptMax : Int := 18

/-- `struct pcanfd_option`; `size` and `name` are the values of an `int`. -/
structure PcanfdOption where
  size : Int
  name : Int
  value : U64
deriving Repr, DecidableEq

structure PcanfdOption32 where
  size : Int
  name : Int
  value : U32
deriving Repr, DecidableEq

def compatPtr (value : U32) : U64 := value.setWidth 64

structure OptionAnswer (D : Type) where
  dev : D
  size : Int
  err : Int

abbrev OptionCallback (D : Type) := D → PcanfdOption → OptionAnswer D

structure PcanfdOptions (D : Type) where
  reqSize : Int
  get : Option (OptionCallback D)
  set : Option (OptionCallback D)

/-- What is found behind `dev->option` at an index; the table itself is that of the indices
    from 0 to `PCANFD_OPT_MAX`. -/
abbrev OptionTable (D : Type) := Int → PcanfdOptions D

/-- The option in the user's memory, and whether it can be copied from there and its size
    written back. -/
structure UserOption (A : Type) where
  opt : A
  readable : Bool
  writable : Bool

/-- What a handler leaves: `size` is that in the user's memory, `consulted` are the indices
    of the table that it read. -/
structure OptionResult (D : Type) where
  dev : D
  err : Int
  size : Int
  consulted : List Int
  called : Bool

/-- The copy of the option and the check of its name, with which every handler begins. -/
def copyOption (readable : Bool) (name : Int) (left : OptionResult D)
    (next : OptionResult D → OptionResult D) : OptionResult D :=
  if readable = false then { left with err := -efault }
  else if pcanfdOptMax ≤ name then { left with err := -einval }
  else next { left with consulted := [name] }

def lblCpySize (writable : Bool) (left : OptionResult D) (size : Int) : OptionResult D :=
  if writable then { left with size } else { left with err := -efault }

def OptionResult.answered (left : OptionResult D) (answer : OptionAnswer D) : OptionResult D :=
  { left with dev := answer.dev, err := answer.err, called := true }

/-- What the two get handlers do with the option; `size` and `name` are the same in both of
    its forms. -/
def getOption (table : OptionTable D) (opt : PcanfdOption) (writable : Bool)
    (left : OptionResult D) : OptionResult D :=
  match (table opt.name).get with
  | none => { left with err := -eopnotsupp }
  | some get =>
    if 0 < (table opt.name).reqSize ∧ opt.size < (table opt.name).reqSize then
      lblCpySize writable { left with err := -enospc } (table opt.name).reqSize
    else
      let answer := get left.dev opt
      if answer.err ≠ 0 ∧ answer.err ≠ -enospc then left.answered answer
      else lblCpySize writable (left.answered answer) answer.size

def handlePcanfdGetOption (table : OptionTable D) (up : UserOption PcanfdOption) (dev : D) :
    OptionResult D :=
  copyOption up.readable up.opt.name ⟨dev, 0, up.opt.size, [], false⟩
    (getOption table up.opt up.writable)

def setOption (table : OptionTable D) (opt : PcanfdOption) (writable : Bool)
    (left : OptionResult D) : OptionResult D :=
  match (table opt.name).set with
  | none => { left with err := -eopnotsupp }
  | some set =>
    if 0 < (table opt.name).reqSize ∧ opt.size < (table opt.name).reqSize then
      lblCpySize writable { left with err := -enospc } (table opt.name).reqSize
    else left.answered (set left.dev opt)

def handlePcanfdSetOption (table : OptionTable D) (up : UserOption PcanfdOption) (dev : D) :
    OptionResult D :=
  copyOption up.readable up.opt.name ⟨dev, 0, up.opt.size, [], false⟩
    (setOption table up.opt up.writable)

def PcanfdOption32.native (opt32 : PcanfdOption32) : PcanfdOption :=
  ⟨opt32.size, opt32.name, compatPtr opt32.value⟩

def handlePcanfdGetOption32 (table : OptionTable D) (up : UserOption PcanfdOption32) (dev : D) :
    OptionResult D :=
  copyOption up.readable up.opt.name ⟨dev, 0, up.opt.size, [], false⟩
    (getOption table up.opt.native up.writable)

/-- The size is not looked at. -/
def setOption32 (table : OptionTable D) (opt : PcanfdOption) (left : OptionResult D) :
    OptionResult D :=
  match (table opt.name).set with
  | none => { left with err := -eopnotsupp }
  | some set => left.answered (set left.dev opt)

def handlePcanfdSetOption32 (table : OptionTable D) (up : UserOption PcanfdOption32) (dev : D) :
    OptionResult D :=
  copyOption up.readable up.opt.name ⟨dev, 0, up.opt.size, [], false⟩
    (setOption32 table up.opt.native)

/-- The integers of a request; its value is the only part that callers write differently. -/
structure OptionRequest where
  size : Int
  name : Int
  readable : Bool
  writable : Bool
deriving Repr, DecidableEq

def OptionRequest.native (r : OptionRequest) (value : U64) : UserOption PcanfdOption :=
  ⟨⟨r.size, r.name, value⟩, r.readable, r.writable⟩

def OptionRequest.compat (r : OptionRequest) (value : U32) : UserOption PcanfdOption32 :=
  ⟨⟨r.size, r.name, value⟩, r.readable, r.writable⟩

/-- The table is read inside its bounds and the function called only for a buffer of the
    requested size; other callers learn that size. -/
structure HandlerSound (select : PcanfdOptions D → Option (OptionCallback D)) (table : OptionTable D)
    (r : OptionRequest) (dev : D) (result : OptionResult D) : Prop where
  indices : ∀ i ∈ result.consulted, 0 ≤ i ∧ i < pcanfdOptMax
  sized : result.called = true → (table r.name).reqSize ≤ r.size
  refused : r.readable = true → r.name < pcanfdOptMax → select (table r.name) ≠ none →
    r.size < (table r.name).reqSize →
      result.dev = dev ∧ (r.writable = true →
        result.err = -enospc ∧ result.size = (table r.name).reqSize)

structure SameAnswer (result result32 : OptionResult D) : Prop where
  err : result32.err = result.err
  dev : result32.dev = result.dev
  size : result32.size = result.size

structure OptionsSound (table : OptionTable D) (r : OptionRequest) (dev : D) : Prop where
  get : ∀ value, HandlerSound (·.get) table r dev (handlePcanfdGetOption table (r.native value) dev)
  set : ∀ value, HandlerSound (·.set) table r dev (handlePcanfdSetOption table (r.native value) dev)
  get32 : ∀ value,
    HandlerSound (·.get) table r dev (handlePcanfdGetOption32 table (r.compat value) dev)
  set32 : ∀ value,
    HandlerSound (·.set) table r dev (handlePcanfdSetOption32 table (r.compat value) dev)
  sameGet : ∀ value, SameAnswer (handlePcanfdGetOption table (r.native (compatPtr value)) dev)
    (handlePcanfdGetOption32 table (r.compat value) dev)
  sameSet : ∀ value, SameAnswer (handlePcanfdSetOption table (r.native (compatPtr value)) dev)
    (handlePcanfdSetOption32 table (r.compat value) dev)

/-- The requests that the checks of the handlers are enough for. -/
def OptionChecked (table : OptionTable D) (r : OptionRequest) : Prop :=
  r.readable = true → r.name < pcanfdOptMax → 0 ≤ r.name ∧
    ((table r.name).get ≠ none → 0 < (table r.name).reqSize ∨ (table r.name).reqSize ≤ r.size) ∧
    ((table r.name).set ≠ none → (table r.name).reqSize ≤ r.size)

section Handlers
variable {select : PcanfdOptions D → Option (OptionCallback D)} {table : OptionTable D}
  {r : OptionRequest} {dev : D}

/-- The result of a handler before it has looked at the table. -/
def OptionRequest.untouched (r : OptionRequest) (dev : D) : OptionResult D :=
  ⟨dev, 0, r.size, [], false⟩

def OptionRequest.found (r : OptionRequest) (dev : D) : OptionResult D :=
  { r.untouched dev with consulted := [r.name] }

theorem copyOption_sound {next : OptionResult D → OptionResult D}
    (inside : r.readable = true → r.name < pcanfdOptMax →
      HandlerSound select table r dev (next (r.found dev))) :
    HandlerSound select table r dev (copyOption r.readable r.name (r.untouched dev) next) := by
  unfold copyOption
  cases readable : r.readable with
  | false =>
    refine ⟨?_, ?_, ?_⟩
    · intro i mem
      cases mem
    · intro called
      cases called
    · intro read
      exact absurd (readable.symm.trans read) Bool.false_ne_true
  | true =>
    simp only [Bool.true_eq_false, if_false]
    split
    · refine ⟨?_, ?_, ?_⟩
      · intro i mem
        cases mem
      · intro called
        cases called
      · intro _ named
        omega
    · exact inside readable (by omega)

theorem lblCpySize_frame (writable : Bool) (left : OptionResult D) (size : Int) :
    (lblCpySize writable left size).dev = left.dev ∧
      (lblCpySize writable left size).consulted = left.consulted ∧
      (lblCpySize writable left size).called = left.called := by
  cases writable <;> exact ⟨rfl, rfl, rfl⟩

/-- A handler that only consults the entry of the name. -/
theorem found_indices (nonneg : 0 ≤ r.name) (named : r.name < pcanfdOptMax) {consulted : List Int}
    (same : consulted = [r.name]) : ∀ i ∈ consulted, 0 ≤ i ∧ i < pcanfdOptMax := by
  intro i mem
  rw [same, List.mem_singleton] at mem
  rw [mem]
  exact ⟨nonneg, named⟩

theorem refused_sound (nonneg : 0 ≤ r.name) (named : r.name < pcanfdOptMax) :
    HandlerSound select table r dev
      (lblCpySize r.writable { r.found dev with err := -enospc } (table r.name).reqSize) := by
  obtain ⟨sameDev, consulted, called⟩ := lblCpySize_frame r.writable
    { r.found dev with err := -enospc } (table r.name).reqSize
  refine ⟨found_indices nonneg named consulted, ?_, ?_⟩
  · intro called'
    exact absurd (called.symm.trans called') Bool.false_ne_true
  · intro _ _ _ _
    refine ⟨sameDev, ?_⟩
    intro writable
    rw [writable]
    exact ⟨rfl, rfl⟩

theorem called_sound {result : OptionResult D} (nonneg : 0 ≤ r.name) (named : r.name < pcanfdOptMax)
    (consulted : result.consulted = [r.name]) (enough : (table r.name).reqSize ≤ r.size) :
    HandlerSound select table r dev result := by
  refine ⟨found_indices nonneg named consulted, fun _ => enough, ?_⟩
  intro _ _ _ small
  omega

theorem missing_sound {result : OptionResult D} (nonneg : 0 ≤ r.name) (named : r.name < pcanfdOptMax)
    (consulted : result.consulted = [r.name]) (called : result.called = false)
    (missing : select (table r.name) = none) : HandlerSound select table r dev result := by
  refine ⟨found_indices nonneg named consulted, ?_, ?_⟩
  · intro called'
    exact absurd (called.symm.trans called') Bool.false_ne_true
  · intro _ _ present
    exact absurd missing present

theorem getOption_sound (nonneg : 0 ≤ r.name) (named : r.name < pcanfdOptMax)
    (checked : (table r.name).get ≠ none → 0 < (table r.name).reqSize ∨ (table r.name).reqSize ≤ r.size)
    (value : U64) :
    HandlerSound (·.get) table r dev
      (getOption table ⟨r.size, r.name, value⟩ r.writable (r.found dev)) := by
  unfold getOption
  simp only
  cases get : (table r.name).get with
  | none => exact missing_sound nonneg named rfl rfl get
  | some callback =>
    simp only
    split
    · exact refused_sound nonneg named
    · have enough : (table r.name).reqSize ≤ r.size := by
        have either := checked (by simp [get])
        omega
      apply called_sound nonneg named _ enough
      split
      · rfl
      · exact (lblCpySize_frame _ _ _).2.1

theorem getOption_consulted (opt : PcanfdOption) (writable : Bool) (left : OptionResult D) :
    (getOption table opt writable left).consulted = left.consulted := by
  unfold getOption
  cases (table opt.name).get with
  | none => rfl
  | some callback =>
    simp only
    split
    · exact (lblCpySize_frame _ _ _).2.1
    · split
      · rfl
      · exact (lblCpySize_frame _ _ _).2.1

theorem getOption_called {opt : PcanfdOption} (writable : Bool) (left : OptionResult D)
    (get : (table opt.name).get ≠ none) (unsized : ¬0 < (table opt.name).reqSize) :
    (getOption table opt writable left).called = true := by
  obtain ⟨callback, found⟩ := Option.ne_none_iff_exists'.mp get
  simp only [getOption, found]
  rw [if_neg fun both => unsized both.1]
  split
  · rfl
  · exact (lblCpySize_frame _ _ _).2.2

theorem setOption32_called {opt : PcanfdOption} (left : OptionResult D)
    (set : (table opt.name).set ≠ none) : (setOption32 table opt left).called = true := by
  obtain ⟨callback, found⟩ := Option.ne_none_iff_exists'.mp set
  simp only [setOption32, found]
  rfl

theorem copyOption_passes {next : OptionResult D → OptionResult D} (readable : r.readable = true)
    (named : r.name < pcanfdOptMax) :
    copyOption r.readable r.name (r.untouched dev) next = next (r.found dev) := by
  unfold copyOption
  rw [readable, if_neg (by decide), if_neg (by omega)]
  rfl

theorem setOption_sound (nonneg : 0 ≤ r.name) (named : r.name < pcanfdOptMax)
    (checked : (table r.name).set ≠ none → (table r.name).reqSize ≤ r.size) (value : U64) :
    HandlerSound (·.set) table r dev
      (setOption table ⟨r.size, r.name, value⟩ r.writable (r.found dev)) := by
  unfold setOption
  simp only
  cases set : (table r.name).set with
  | none => exact missing_sound nonneg named rfl rfl set
  | some callback =>
    simp only
    split
    · exact refused_sound nonneg named
    · exact called_sound nonneg named rfl (checked (by simp [set]))

theorem setOption32_sound (nonneg : 0 ≤ r.name) (named : r.name < pcanfdOptMax)
    (checked : (table r.name).set ≠ none → (table r.name).reqSize ≤ r.size) (value : U64) :
    HandlerSound (·.set) table r dev (setOption32 table ⟨r.size, r.name, value⟩ (r.found dev)) := by
  unfold setOption32
  simp only
  cases set : (table r.name).set with
  | none => exact missing_sound nonneg named rfl rfl set
  | some callback => exact called_sound nonneg named rfl (checked (by simp [set]))

theorem setOption_same (opt : PcanfdOption) (writable : Bool) (left : OptionResult D)
    (checked : (table opt.name).set ≠ none → (table opt.name).reqSize ≤ opt.size) :
    setOption32 table opt left = setOption table opt writable left := by
  unfold setOption32 setOption
  cases set : (table opt.name).set with
  | none => rfl
  | some callback =>
    have enough := checked (by simp [set])
    simp only
    rw [if_neg (by omega)]

theorem copyOption_congr {next next32 : OptionResult D → OptionResult D}
    (same : r.readable = true → r.name < pcanfdOptMax → next32 (r.found dev) = next (r.found dev)) :
    copyOption r.readable r.name (r.untouched dev) next32 =
      copyOption r.readable r.name (r.untouched dev) next := by
  unfold copyOption
  cases readable : r.readable with
  | false => rfl
  | true =>
    by_cases named : pcanfdOptMax ≤ r.name
    · simp only [Bool.true_eq_false, if_false, if_pos named]
    · simp only [Bool.true_eq_false, if_false, if_neg named]
      exact same readable (by omega)

end Handlers

theorem checked_of_sound {table : OptionTable D} {r : OptionRequest} {dev : D}
    (sound : OptionsSound table r dev) : OptionChecked table r := by
  intro readable named
  have get := sound.get 0
  have passes : handlePcanfdGetOption table (r.native 0) dev =
      getOption table (r.native 0).opt r.writable (r.found dev) := copyOption_passes readable named
  rw [passes] at get
  refine ⟨?_, ?_, ?_⟩
  · apply (get.indices r.name _).1
    rw [getOption_consulted]
    exact List.mem_singleton_self r.name
  · intro present
    by_cases positive : 0 < (table r.name).reqSize
    · exact .inl positive
    · exact .inr (get.sized (getOption_called r.writable (r.found dev) present positive))
  · intro present
    have passes32 : handlePcanfdSetOption32 table (r.compat 0) dev =
        setOption32 table (r.compat 0).opt.native (r.found dev) := copyOption_passes readable named
    apply (sound.set32 0).sized
    rw [passes32]
    exact setOption32_called (r.found dev) present

/-- The option ioctls keep to the table and to the size of the user's buffer, and serve
    32-bit callers like the others, exactly for the requests that are checked. -/
theorem options_sound_iff (table : OptionTable D) (r : OptionRequest) (dev : D) :
    OptionsSound table r dev ↔ OptionChecked table r := by
  constructor
  · exact checked_of_sound
  · intro checked
    constructor
    case get =>
      intro value
      apply copyOption_sound
      intro readable named
      obtain ⟨nonneg, get, _⟩ := checked readable named
      exact getOption_sound nonneg named get value
    case get32 =>
      intro value
      apply copyOption_sound
      intro readable named
      obtain ⟨nonneg, get, _⟩ := checked readable named
      exact getOption_sound nonneg named get (compatPtr value)
    case set =>
      intro value
      apply copyOption_sound
      intro readable named
      obtain ⟨nonneg, _, set⟩ := checked readable named
      exact setOption_sound nonneg named set value
    case set32 =>
      intro value
      apply copyOption_sound
      intro readable named
      obtain ⟨nonneg, _, set⟩ := checked readable named
      exact setOption32_sound nonneg named set (compatPtr value)
    case sameGet => exact fun _ => ⟨rfl, rfl, rfl⟩
    case sameSet =>
      intro value
      have same : handlePcanfdSetOption32 table (r.compat value) dev =
          handlePcanfdSetOption table (r.native (compatPtr value)) dev := by
        apply copyOption_congr
        intro readable named
        exact setOption_same _ _ _ (checked readable named).2.2
      rw [same]
      exact ⟨rfl, rfl, rfl⟩

section Samples

def pcanfdOptAllowedMsgs : Int := 5

/-- Options of four bytes, on a device that only counts how often one of them is set. -/
def countedOptions : OptionTable Nat := fun _ =>
  { reqSize := 4
    get := some fun dev opt => ⟨dev, opt.size, 0⟩
    set := some fun dev opt => ⟨dev + 1, opt.size, 0⟩ }

def emptyBuffer : OptionRequest := ⟨0, pcanfdOptAllowedMsgs, true, true⟩

def negativeName : OptionRequest := ⟨4, -1, true, true⟩

/-- A 32-bit caller sets an option from a buffer of no bytes, which is refused to the
    others, and every caller reads the table at a negative index. -/
theorem undersized_set32_reaches_setter :
    (handlePcanfdSetOption countedOptions (emptyBuffer.native 0) 0).err = -enospc ∧
      (handlePcanfdSetOption countedOptions (emptyBuffer.native 0) 0).size = 4 ∧
      (handlePcanfdSetOption32 countedOptions (emptyBuffer.compat 0) 0).err = 0 ∧
      (handlePcanfdSetOption32 countedOptions (emptyBuffer.compat 0) 0).dev = 1 ∧
      (handlePcanfdGetOption countedOptions (negativeName.native 0) 0).consulted = [-1] ∧
      ¬OptionsSound countedOptions emptyBuffer 0 ∧ ¬OptionsSound countedOptions negativeName 0 := by
  refine ⟨by decide +kernel, by decide +kernel, by decide +kernel, by decide +kernel,
    by decide +kernel, ?_, ?_⟩
  · intro sound
    exact absurd ((sound.set32 0).sized (by decide +kernel)) (by decide +kernel)
  · intro sound
    have inside := (sound.get 0).indices (-1) (by decide +kernel)
    exact absurd inside.1 (by decide)

end Samples

end PcanDriver

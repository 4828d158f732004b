import PcanDriver.FilterChain

/-!
A list of filters that is added to a chain where there may be no memory for an element
(`pcan_add_filters`, `pcan_filter.c`), and what its result says about the chain.
-/
namespace PcanDriver
open FirstAdditions

section Source

/-- `__pcan_add_filter`; `memory` says whether there is memory for the element. -/
def addFilterIn (memory : Bool) (chain : FilterChain) (filter : FilterElement) :
    FilterChain × Int :=
  if filter ∈ chain.anchor then (chain, 0)
  else if chain.count ≥ pcanMaxFilterPerChain then (chain, -enomem)
  else if !memory then (chain, -enomem)
  else
    (⟨chain.anchor ++ [filter], if chain.count < 0 then 1 else chain.count + 1⟩, 0)

/-- The loop of `pcan_add_filters` from the `i`-th filter on. -/
def addFiltersIn (memory : Nat → Bool) (chain : FilterChain) :
    Nat → List FilterElement → FilterChain
  | _, [] => chain
  | i, filter :: rest =>
    let added := addFilterIn (memory i) chain filter
    if added.2 ≠ 0 then added.1 else addFiltersIn memory added.1 (i + 1) rest

/-- The `err` of the loop is a variable of its own. -/
def pcanAddFiltersIn (memory : Nat → Bool) (chain : FilterChain) (pf : List FilterElement) :
    FilterChain × Int :=
  (addFiltersIn memory chain 0 pf, 0)

end Source

section Statement

/-- The filters of a list that a chain does not hold yet, each of them once. -/
def newFilters (chain : FilterChain) (pf : List FilterElement) : List FilterElement :=
  firsts (pf.filter (· ∉ chain.anchor))

/-- Each filter that the chain does not hold when its turn comes finds room and memory. -/
def FiltersFit (memory : Nat → Bool) (chain : FilterChain) (i : Nat) (pf : List FilterElement) :
    Prop :=
  ∀ k filter, pf[k]? = some filter → filter ∉ chain.anchor → filter ∉ pf.take k →
    memory (i + k) = true ∧
      max chain.count 0 + (newFilters chain (pf.take k)).length < pcanMaxFilterPerChain

/-- What the result is to say: no error when all filters are in the chain, otherwise that of the
    first one that is refused, behind those that have been added. -/
structure AdditionsTold (memory : Nat → Bool) (chain : FilterChain) (pf : List FilterElement)
    (result : FilterChain × Int) : Prop where
  success : result.2 = 0 ↔ ∀ filter ∈ pf, filter ∈ result.1.anchor
  failure : result.2 ≠ 0 → ∃ k filter, pf[k]? = some filter ∧ filter ∉ result.1.anchor ∧
    result.1.anchor = chain.anchor ++ newFilters chain (pf.take k) ∧
    result.2 = (addFilterIn (memory k) result.1 filter).2

end Statement

/-- With memory for every element, the loop is the one of a chain that never lacks it. -/
theorem addFiltersIn_memory (chain : FilterChain) (i : Nat) (pf : List FilterElement) :
    addFiltersIn (fun _ => true) chain i pf = addFilters chain pf := by
  induction pf generalizing chain i with
  | nil => rfl
  | cons filter rest ih =>
    rw [addFiltersIn, addFilters]
    simp only [ih]
    rfl

section Steps
variable {memory : Nat → Bool} {chain : FilterChain} {filter : FilterElement} {i : Nat}
  {rest : List FilterElement}

def withFilter (chain : FilterChain) (filter : FilterElement) : FilterChain :=
  ⟨chain.anchor ++ [filter], if chain.count < 0 then 1 else chain.count + 1⟩

theorem addFiltersIn_held (held : filter ∈ chain.anchor) :
    addFiltersIn memory chain i (filter :: rest) = addFiltersIn memory chain (i + 1) rest := by
  simp only [addFiltersIn, addFilterIn, if_pos held, ne_eq, not_true_eq_false, ↓reduceIte]

theorem addFilterIn_room (absent : filter ∉ chain.anchor)
    (room : chain.count < pcanMaxFilterPerChain) :
    addFilterIn true chain filter = (withFilter chain filter, 0) := by
  unfold addFilterIn
  rw [if_neg absent, if_neg (Int.not_le.mpr room)]
  rfl

theorem addFiltersIn_new (absent : filter ∉ chain.anchor)
    (room : chain.count < pcanMaxFilterPerChain) (found : memory i = true) :
    addFiltersIn memory chain i (filter :: rest) =
      addFiltersIn memory (withFilter chain filter) (i + 1) rest := by
  rw [addFiltersIn, found, addFilterIn_room absent room]
  rfl

theorem addFiltersIn_refused (absent : filter ∉ chain.anchor)
    (short : ¬(chain.count < pcanMaxFilterPerChain ∧ memory i = true)) :
    addFiltersIn memory chain i (filter :: rest) = chain ∧
      addFilterIn (memory i) chain filter = (chain, -enomem) := by
  have refused : addFilterIn (memory i) chain filter = (chain, -enomem) := by
    unfold addFilterIn
    rw [if_neg absent]
    by_cases full : chain.count ≥ pcanMaxFilterPerChain
    · rw [if_pos full]
    · have missing : memory i = false :=
        Bool.eq_false_iff.mpr fun found => short ⟨Int.not_le.mp full, found⟩
      rw [if_neg full, missing]
      rfl
  refine ⟨?_, refused⟩
  rw [addFiltersIn, refused]
  rfl

theorem newFilters_held (held : filter ∈ chain.anchor) :
    newFilters chain (filter :: rest) = newFilters chain rest := by
  unfold newFilters
  rw [List.filter_cons_of_neg (by simp [held])]

theorem newFilters_new (absent : filter ∉ chain.anchor) : newFilters chain (filter :: rest) =
    filter :: newFilters (withFilter chain filter) rest := by
  have more : (fun f => decide (f ∉ (withFilter chain filter).anchor)) =
      fun f => decide (f ≠ filter) && decide (f ∉ chain.anchor) := by
    funext f
    simp [withFilter, and_comm]
  have kept : decide (filter ∉ chain.anchor) = true := decide_eq_true absent
  unfold newFilters
  rw [more, ← List.filter_filter, firsts_filter fun f => decide (f ≠ filter), List.filter_cons,
    if_pos kept, firsts]

theorem withFilter_count (chain : FilterChain) (filter : FilterElement) :
    max (withFilter chain filter).count 0 = max chain.count 0 + 1 := by
  unfold withFilter
  dsimp only
  split <;> omega

end Steps

section Loop
variable {memory : Nat → Bool} {chain : FilterChain} {i : Nat} {pf : List FilterElement}
  {filter : FilterElement} {rest : List FilterElement}

theorem fits_held (held : filter ∈ chain.anchor) : FiltersFit memory chain i (filter :: rest) ↔
    FiltersFit memory chain (i + 1) rest := by
  constructor
  · intro fits k f found absent fresh
    have other : f ∉ (filter :: rest).take (k + 1) := by
      rw [List.take_succ_cons, List.mem_cons]
      rintro (same | before)
      · exact absent (same ▸ held)
      · exact fresh before
    have room := fits (k + 1) f found absent other
    rw [List.take_succ_cons, newFilters_held held, Nat.add_comm k, ← Nat.add_assoc] at room
    exact room
  · intro fits k f found absent fresh
    cases k with
    | zero => exact absurd held (Option.some.inj found ▸ absent)
    | succ k =>
      have before : f ∉ rest.take k := fun member =>
        fresh (List.mem_cons_of_mem _ member)
      have room := fits k f found absent before
      rw [Nat.add_assoc, Nat.add_comm 1 k] at room
      rw [List.take_succ_cons, newFilters_held held]
      exact room

theorem fits_new (absent : filter ∉ chain.anchor) :
    FiltersFit memory chain i (filter :: rest) ↔
      (memory i = true ∧ max chain.count 0 < pcanMaxFilterPerChain) ∧
        FiltersFit memory (withFilter chain filter) (i + 1) rest := by
  constructor
  · intro fits
    refine ⟨?_, ?_⟩
    · have room := fits 0 filter rfl absent List.not_mem_nil
      rw [List.take_zero] at room
      exact ⟨room.1, by simpa [newFilters, firsts] using room.2⟩
    · intro k f found outside fresh
      have both : f ∉ chain.anchor ∧ f ≠ filter := by
        simpa [withFilter, not_or] using outside
      have other : f ∉ (filter :: rest).take (k + 1) := by
        rw [List.take_succ_cons, List.mem_cons]
        rintro (same | before)
        · exact both.2 same
        · exact fresh before
      have room := fits (k + 1) f found both.1 other
      rw [List.take_succ_cons, newFilters_new absent, List.length_cons] at room
      rw [withFilter_count, Nat.add_assoc, Nat.add_comm 1 k]
      exact ⟨room.1, by have := room.2; omega⟩
  · rintro ⟨first, fits⟩ k f found outside fresh
    cases k with
    | zero =>
      rw [List.take_zero]
      exact ⟨first.1, by simpa [newFilters, firsts] using first.2⟩
    | succ k =>
      rw [List.take_succ_cons, List.mem_cons, not_or] at fresh
      have away : f ∉ (withFilter chain filter).anchor := by
        simpa [withFilter, not_or] using ⟨outside, fresh.1⟩
      have room := fits k f found away fresh.2
      rw [withFilter_count, Nat.add_assoc, Nat.add_comm 1 k] at room
      rw [List.take_succ_cons, newFilters_new absent, List.length_cons]
      exact ⟨room.1, by have := room.2; omega⟩

/-- The loop adds the new filters of a part of the list, and ends before its end only at a filter
    that is refused. -/
theorem addFiltersIn_part (memory : Nat → Bool) (chain : FilterChain) (i : Nat)
    (pf : List FilterElement) : ∃ n, n ≤ pf.length ∧ FiltersFit memory chain i (pf.take n) ∧
      (addFiltersIn memory chain i pf).anchor = chain.anchor ++ newFilters chain (pf.take n) ∧
      max (addFiltersIn memory chain i pf).count 0 =
        max chain.count 0 + (newFilters chain (pf.take n)).length ∧
      (n < pf.length → ∃ filter, pf[n]? = some filter ∧
        filter ∉ (addFiltersIn memory chain i pf).anchor ∧
        (addFilterIn (memory (i + n)) (addFiltersIn memory chain i pf) filter).2 = -enomem) := by
  induction pf generalizing chain i with
  | nil =>
    refine ⟨0, Nat.le_refl 0, ?_, (List.append_nil _).symm, (Int.add_zero _).symm, ?_⟩
    · intro k f found
      cases found
    · intro more
      cases more
  | cons filter rest ih =>
    by_cases held : filter ∈ chain.anchor
    · obtain ⟨n, inside, fits, anchor, count, refused⟩ := ih chain (i + 1)
      rw [addFiltersIn_held held]
      refine ⟨n + 1, Nat.succ_le_succ inside, ?_, ?_, ?_, ?_⟩
      · rw [List.take_succ_cons]
        exact (fits_held held).mpr fits
      · rw [List.take_succ_cons, newFilters_held held]
        exact anchor
      · rw [List.take_succ_cons, newFilters_held held]
        exact count
      · intro more
        obtain ⟨f, found, absent, err⟩ := refused (Nat.lt_of_succ_lt_succ more)
        rw [Nat.add_assoc, Nat.add_comm 1 n] at err
        exact ⟨f, found, absent, err⟩
    by_cases room : chain.count < pcanMaxFilterPerChain ∧ memory i = true
    · obtain ⟨n, inside, fits, anchor, count, refused⟩ := ih (withFilter chain filter) (i + 1)
      rw [addFiltersIn_new held room.1 room.2]
      refine ⟨n + 1, Nat.succ_le_succ inside, ?_, ?_, ?_, ?_⟩
      · rw [List.take_succ_cons]
        refine (fits_new held).mpr ⟨⟨room.2, ?_⟩, fits⟩
        have := room.1
        unfold pcanMaxFilterPerChain at this ⊢
        omega
      · rw [List.take_succ_cons, newFilters_new held, anchor]
        exact List.append_assoc _ [filter] _
      · rw [List.take_succ_cons, newFilters_new held, count, withFilter_count, List.length_cons]
        omega
      · intro more
        obtain ⟨f, found, absent, err⟩ := refused (Nat.lt_of_succ_lt_succ more)
        rw [Nat.add_assoc, Nat.add_comm 1 n] at err
        exact ⟨f, found, absent, err⟩
    · obtain ⟨stays, refused⟩ := addFiltersIn_refused held room
      rw [stays]
      refine ⟨0, Nat.zero_le _, ?_, (List.append_nil _).symm, (Int.add_zero _).symm, ?_⟩
      · intro k f found
        cases found
      · exact fun _ => ⟨filter, rfl, held, congrArg Prod.snd refused⟩

end Loop

theorem mem_newFilters (chain : FilterChain) (pf : List FilterElement) (filter : FilterElement) :
    filter ∈ chain.anchor ++ newFilters chain pf ↔ filter ∈ chain.anchor ∨ filter ∈ pf := by
  unfold newFilters
  rw [List.mem_append, mem_firsts, List.mem_filter, decide_eq_true_eq]
  tauto

/-- The result says what has become of the list just where each filter of it finds room and
    memory. -/
theorem additions_told_iff (memory : Nat → Bool) (chain : FilterChain) (pf : List FilterElement) :
    AdditionsTold memory chain pf (pcanAddFiltersIn memory chain pf) ↔
      FiltersFit memory chain 0 pf := by
  obtain ⟨n, inside, fits, anchor, count, refused⟩ := addFiltersIn_part memory chain 0 pf
  constructor
  · intro told
    have all := told.success.mp rfl
    have whole : n = pf.length := by
      by_contra less
      obtain ⟨filter, found, absent, -⟩ := refused (by omega)
      exact absent (all filter (List.mem_of_getElem? found))
    rw [whole, List.take_length] at fits
    exact fits
  · intro room
    have whole : n = pf.length := by
      by_contra less
      obtain ⟨filter, found, absent, err⟩ := refused (by omega)
      have fresh := absent
      rw [anchor, mem_newFilters, not_or] at fresh
      obtain ⟨there, more⟩ := room n filter found fresh.1 fresh.2
      have less : (addFiltersIn memory chain 0 pf).count < pcanMaxFilterPerChain := by omega
      rw [there, addFilterIn_room absent less] at err
      cases err
    refine ⟨⟨fun _ filter member => ?_, fun _ => rfl⟩, fun failed => absurd rfl failed⟩
    rw [pcanAddFiltersIn, anchor, mem_newFilters, whole, List.take_length]
    exact .inr member

section Samples

def nineFilters : List FilterElement :=
  [⟨0, 0, 0⟩, ⟨1, 1, 0⟩, ⟨2, 2, 0⟩, ⟨3, 3, 0⟩, ⟨4, 4, 0⟩, ⟨5, 5, 0⟩, ⟨6, 6, 0⟩, ⟨7, 7, 0⟩, ⟨8, 8, 0⟩]

/-- The ninth one is not in the chain, and the function succeeds. -/
theorem ninth_filter_lost : ¬∀ (memory : Nat → Bool) (chain : FilterChain)
    (pf : List FilterElement),
    AdditionsTold memory chain pf (pcanAddFiltersIn memory chain pf) := by
  intro every
  have told := every (fun _ => true) pcanCreateFilterChain nineFilters
  have last := told.success.mp rfl ⟨8, 8, 0⟩ (by decide)
  exact absurd last (by decide)

end Samples

end PcanDriver

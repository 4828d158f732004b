import Mathlib.Data.Nat.ModEq
import Mathlib.Tactic.Common

/-!
A counter that only grows and of which the remainder modulo `w` is reported. The
receiver counts the wraps itself, in a word that wraps at `modulus`: it sees them at
synchronisations, which come in order. An event is extended with what was counted at
the last synchronisation; it is taken for one behind the next wrap if it reports one of
the first `period` values and the synchronisation reported one of the last.
-/
namespace CounterExtension
variable {w modulus period slack base high sync event : Nat}

def Tracks (w modulus base high sync : Nat) : Prop :=
  high + base * w ≡ sync / w * w [MOD modulus]

instance : Decidable (Tracks w modulus base high sync) :=
  inferInstanceAs (Decidable (_ ≡ _ [MOD _]))

/-- On the reported values. -/
def Crossing (w period sync event : Nat) : Prop :=
  event < sync ∧ event < period ∧ w ≤ sync + period

instance : Decidable (Crossing w period sync event) :=
  inferInstanceAs (Decidable (_ ∧ _ ∧ _))

theorem crossing_bitVec {k : Nat} (period sync event : BitVec k) :
    (event < sync ∧ event < period ∧ sync + period < sync) ↔
      Crossing (2 ^ k) period.toNat sync.toNat event.toNat := by
  have syncBound := sync.isLt
  have periodBound := period.isLt
  have wraps : sync + period < sync ↔ 2 ^ k ≤ sync.toNat + period.toNat := by
    rw [BitVec.lt_def, BitVec.toNat_add]
    rcases Nat.lt_or_ge (sync.toNat + period.toNat) (2 ^ k) with fits | exceeds
    · rw [Nat.mod_eq_of_lt fits]
      omega
    · rw [Nat.mod_eq_sub_mod exceeds, Nat.mod_eq_of_lt (by omega)]
      omega
  rw [wraps, BitVec.lt_def, BitVec.lt_def]
  exact Iff.rfl

/-- Where the reported value of an event tells its window: in the one of the
    synchronisation, or in the following one close to the wrap. -/
def Placed (w period sync event : Nat) : Prop :=
  event / w = sync / w ∨
    (event / w = sync / w + 1 ∧ event % w < period ∧ w ≤ sync % w + period)

instance : Decidable (Placed w period sync event) :=
  inferInstanceAs (Decidable (_ ∨ _))

/-- A period is what the comparisons allow for: they fail for events before the wrap only. -/
theorem placed_iff_of_period (positive : 0 < w) (below : event < sync + w)
    (ahead : event ≤ sync + period) : Placed w period sync event ↔ sync / w ≤ event / w := by
  have here := Nat.div_add_mod sync w
  have there := Nat.div_add_mod event w
  have hereLow := Nat.mod_lt sync positive
  unfold Placed
  constructor
  · rintro (same | ⟨next, _⟩)
    · exact Nat.le_of_eq same.symm
    · rw [next]
      exact Nat.le_succ _
  · intro later
    have upper : event / w ≤ sync / w + 1 := by
      rw [← Nat.add_div_right sync positive]
      exact Nat.div_le_div_right (Nat.le_of_lt below)
    rcases Nat.lt_or_ge (sync / w) (event / w) with above | same
    · have window : event / w = sync / w + 1 := Nat.le_antisymm upper above
      rw [window, Nat.mul_succ] at there
      exact .inr ⟨window, by omega, by omega⟩
    · exact .inl (Nat.le_antisymm same later)

theorem eq_of_modEq_of_near {a b n : Nat} (same : a ≡ b [MOD n]) (below : a < b + n)
    (above : b < a + n) : a = b := by
  apply same.eq_of_abs_lt
  rw [abs_lt]
  omega

theorem window_eq (w value : Nat) : value / w * w + value % w = value := by
  rw [Nat.mul_comm]
  exact Nat.div_add_mod value w

theorem window_next {next : Nat} (positive : 0 < w) (order : sync ≤ next) (near : next < sync + w) :
    next / w * w = sync / w * w + if next % w < sync % w then w else 0 := by
  have here := window_eq w sync
  have there := window_eq w next
  have hereLow := Nat.mod_lt sync positive
  have thereLow := Nat.mod_lt next positive
  have upper : next / w ≤ sync / w + 1 := by
    rw [← Nat.add_div_right sync positive]
    exact Nat.div_le_div_right (Nat.le_of_lt near)
  rcases Nat.lt_or_ge (sync / w) (next / w) with later | earlier
  · have window : next / w = sync / w + 1 := Nat.le_antisymm upper later
    rw [window, Nat.succ_mul] at there ⊢
    rw [if_pos (by omega)]
  · have window : next / w = sync / w :=
      Nat.le_antisymm earlier (Nat.div_le_div_right order)
    rw [window] at there ⊢
    rw [if_neg (by omega), Nat.add_zero]

theorem Tracks.start (w modulus sync : Nat) : Tracks w modulus (sync / w) 0 sync := by
  unfold Tracks
  rw [Nat.zero_add]

theorem Tracks.next {next : Nat} (tracks : Tracks w modulus base high sync) (positive : 0 < w)
    (order : sync ≤ next) (near : next < sync + w) :
    Tracks w modulus base (high + if next % w < sync % w then w else 0) next := by
  unfold Tracks at tracks ⊢
  rw [window_next positive order near, Nat.add_right_comm]
  exact tracks.add_right _

theorem Tracks.congr {other : Nat} (tracks : Tracks w modulus base high sync)
    (same : other ≡ high [MOD modulus]) : Tracks w modulus base other sync :=
  (same.add_right _).trans tracks

/-- The comparisons with the period only let those events pass that have wrapped. -/
theorem crossing_iff (positive : 0 < w) (late : sync ≤ event + slack) (ahead : event < sync + w)
    (room : 2 * period + slack ≤ w) :
    Crossing w period (sync % w) (event % w) ↔
      event / w = sync / w + 1 ∧ event % w < period ∧ w ≤ sync % w + period := by
  have here := window_eq w sync
  have there := window_eq w event
  have hereLow := Nat.mod_lt sync positive
  have thereLow := Nat.mod_lt event positive
  constructor
  · rintro ⟨below, small, large⟩
    refine ⟨?_, small, large⟩
    rcases Nat.lt_or_ge (sync / w) (event / w) with later | earlier
    · have upper : event / w ≤ sync / w + 1 := by
        rw [← Nat.add_div_right sync positive]
        exact Nat.div_le_div_right (Nat.le_of_lt ahead)
      exact Nat.le_antisymm upper later
    · have windows := Nat.mul_le_mul_right w earlier
      omega
  · rintro ⟨window, small, large⟩
    rw [window, Nat.succ_mul] at there
    exact ⟨by omega, small, large⟩

/-- An event is extended to its value exactly if it is placed by what it reports. -/
theorem Tracks.extended_iff (tracks : Tracks w modulus base high sync) (positive : 0 < w)
    (late : sync ≤ event + slack) (ahead : event < sync + w) (room : 2 * period + slack ≤ w)
    (wide : 3 * w ≤ modulus) :
    high + (if Crossing w period (sync % w) (event % w) then w else 0) + event % w + base * w ≡
      event [MOD modulus] ↔ Placed w period sync event := by
  have here := window_eq w sync
  have there := window_eq w event
  have hereLow := Nat.mod_lt sync positive
  have thereLow := Nat.mod_lt event positive
  have crossed := crossing_iff positive late ahead room
  have moved : ∀ wrap : Nat,
      (high + wrap + event % w + base * w ≡ event [MOD modulus] ↔
        sync / w * w + wrap + event % w ≡ event [MOD modulus]) := by
    intro wrap
    have shifted := (tracks.add_right wrap).add_right (event % w)
    rw [show high + wrap + event % w + base * w = high + base * w + wrap + event % w by omega]
    exact ⟨shifted.symm.trans, shifted.trans⟩
  rw [moved]
  have equal : ∀ wrap ≤ w, (sync / w * w + wrap + event % w ≡ event [MOD modulus] ↔
      event / w * w = sync / w * w + wrap) := by
    intro wrap bound
    constructor
    · intro same
      have value := eq_of_modEq_of_near same (by omega) (by omega)
      omega
    · intro windows
      rw [← windows, there]
  unfold Placed
  by_cases cross : Crossing w period (sync % w) (event % w)
  · rw [if_pos cross, equal w (Nat.le_refl w), (crossed.mp cross).1, Nat.succ_mul]
    exact ⟨fun _ => .inr ⟨rfl, (crossed.mp cross).2⟩, fun _ => rfl⟩
  · rw [if_neg cross, equal 0 (Nat.zero_le w), Nat.add_zero, Nat.mul_left_inj (by omega)]
    exact ⟨.inl, fun placed => placed.resolve_right fun next => cross (crossed.mpr next)⟩

end CounterExtension

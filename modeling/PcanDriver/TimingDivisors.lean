import PcanDriver.OpenSpec
import PcanDriver.Lib.Masks

/-!
Which settings and rates make the driver divide by zero. A timing given for a clock
that the device does not have is converted before it is brought into range, so that
its product can wrap to zero; a rate can make the divisor of the search wrap.
-/
namespace PcanDriver

theorem sja1000Bitrate_eq_none_iff (rate samplePoint sjw : U32) :
    sja1000Bitrate rate samplePoint sjw = none ↔
      samplePoint.toNat ≤ 10000 ∧ RateWraps sja1000Capabilities rate := by
  have regular := sja1000Capabilities_regular
  have slow : (8 * mhz : U32).toNat < 2 ^ 31 := by decide
  have positive : (8 * mhz : U32) ≠ 0 := by decide
  simp only [sja1000Bitrate, Option.bind_eq_bind, Option.bind_eq_none_iff, Option.pure_def]
  generalize timing : (PcanBittiming.mk _ _ _ _ _ _ _ _ _ : PcanBittiming) = bt
  have isRate : bt.bitrate = rate := by rw [← timing]
  have isPoint : bt.samplePoint = samplePoint := by rw [← timing]
  rw [← isRate, ← isPoint]
  constructor
  · intro none
    by_contra safe
    by_cases asked : bt.samplePoint.toNat ≤ 10000
    · have noWrap : ¬ RateWraps sja1000Capabilities bt.bitrate := fun wraps => safe ⟨asked, wraps⟩
      have nonzero : bt.bitrate ≠ 0 := by
        intro zero
        refine noWrap ?_
        rw [zero]
        exact Nat.dvd_zero _
      rcases bitrateToBittiming_cases regular slow positive nonzero asked noWrap with
        ⟨-, result⟩ | ⟨-, n, found, result, -⟩
      · exact absurd (none _ result) (by simp)
      · exact absurd (none _ result) (by simp)
    · exact absurd (none _ (bitrateToBittiming_late (by omega))) (by simp)
  · rintro ⟨asked, wraps⟩ result found
    rw [bitrateToBittiming_traps regular slow asked wraps] at found
    exact absurd found (by simp)

theorem sja1000_wraps_iff (rate : U32) :
    RateWraps sja1000Capabilities rate ↔ 2 ^ 28 ∣ rate.toNat := by
  have quanta : Nat.log2 (1 + sja1000Capabilities.tseg1Max.toNat +
      sja1000Capabilities.tseg2Max.toNat) = 4 := by
    decide +kernel
  rw [RateWraps, quanta]

/-- The word for the legacy clock is zero and the default rate stands in for it. -/
def DefaultTraps (dev : TimingDevice) (nominal : PcanBittiming) : Prop :=
  pcanBittimingToBtr0btr1 nominal = 0 ∧ dev.defInitSettings.nominal.samplePoint.toNat ≤ 10000 ∧
    RateWraps sja1000Capabilities dev.defInitSettings.nominal.bitrate

theorem legacyWord_eq_none_iff (dev : TimingDevice) (nominal : PcanBittiming) :
    legacyWord dev nominal = none ↔ DefaultTraps dev nominal := by
  unfold legacyWord DefaultTraps
  split <;> rename_i zero
  · exact ⟨fun none => absurd none (by simp), fun traps => absurd traps.1 zero⟩
  · rw [sja1000Bitrate_eq_none_iff]
    exact ⟨fun traps => ⟨not_not.mp zero, traps⟩, And.right⟩

/-- No divisor of `PCANFD_SET_INIT` vanishes on these settings. -/
def DivisorsNonzero (dev : TimingDevice) (pfdi : PcanfdInit) : Prop :=
  ¬ CheckTraps dev pfdi ∧ ∀ nominal data, Opened dev pfdi nominal data →
    requestedClock dev pfdi = 8 * mhz → ¬ DefaultTraps dev nominal

theorem btr0btr1_congr {bt other : PcanBittiming} (brp : bt.brp = other.brp)
    (tseg1 : bt.tseg1 = other.tseg1) (tseg2 : bt.tseg2 = other.tseg2) (sjw : bt.sjw = other.sjw)
    (tsam : bt.tsam = other.tsam) : pcanBittimingToBtr0btr1 bt = pcanBittimingToBtr0btr1 other := by
  simp only [pcanBittimingToBtr0btr1, brp, tseg1, tseg2, sjw, tsam]

theorem checked_eq_none_iff (dev : TimingDevice) (pfdi : PcanfdInit) :
    pcanfdDevOpenChecked dev pfdi = none ↔ pfdi.clockHz = 8 * mhz ∧ DefaultTraps dev pfdi.nominal := by
  by_cases legacy : pfdi.clockHz = 8 * mhz
  · rw [← legacyWord_eq_none_iff]
    constructor
    · intro none
      refine ⟨legacy, ?_⟩
      by_contra some_
      obtain ⟨word, isWord⟩ := Option.ne_none_iff_exists'.mp some_
      have result := (checked_legacy legacy).mpr ⟨word, isWord, rfl⟩
      exact absurd (none.symm.trans result) (by simp)
    · rintro ⟨-, none⟩
      by_contra some_
      obtain ⟨result, isResult⟩ := Option.ne_none_iff_exists'.mp some_
      obtain ⟨word, isWord, -⟩ := (checked_legacy legacy).mp isResult
      exact absurd (none.symm.trans isWord) (by simp)
  · rw [checked_newer legacy]
    exact ⟨fun none => absurd none (by simp), fun traps => absurd traps.1 legacy⟩

theorem devOpen_eq_none_iff {dev : TimingDevice} {pfdi : PcanfdInit} (sound : dev.Sound)
    (user : pfdi.flags &&& pcanfdInitUser ≠ 0) :
    pcanfdDevOpen dev pfdi ≠ none ↔ DivisorsNonzero dev pfdi := by
  rcases open_cases sound user with
    ⟨traps, none⟩ | ⟨safe, never, err, refused⟩ | ⟨safe, nominal, data, opened, calls⟩
  · rw [none]
    exact ⟨fun h => absurd rfl h, fun h => absurd traps h.1⟩
  · rw [refused]
    exact ⟨fun _ => ⟨safe, fun nominal data opened => absurd opened (never nominal data)⟩, fun _ => by simp⟩
  · rw [calls, ne_eq, checked_eq_none_iff, not_and]
    constructor
    · refine fun noTrap => ⟨safe, fun other otherData opened' legacy traps => noTrap legacy ?_⟩
      obtain ⟨brp, tseg1, tseg2, sjw, tsam, -⟩ := opened.arbitration.unique opened'.arbitration
      exact ⟨(btr0btr1_congr brp tseg1 tseg2 sjw tsam).trans traps.1, traps.2⟩
    · exact fun nonzero legacy => nonzero.2 nominal data opened legacy

/-- The settings and the rates on which a division by zero is not met. -/
theorem divisors_nonzero_iff (controller : Controller) (flags : U32) (defaults pfdi : PcanfdInit)
    (dwBitRate : U32) :
    (pcanfdIoctlSetInit (controller.device flags defaults) pfdi ≠ none ↔
      DivisorsNonzero (controller.device flags defaults) (userSettings pfdi)) ∧
    (pcanIoctlBtr0btr1 dwBitRate ≠ none ↔ ¬ 2 ^ 28 ∣ dwBitRate.toNat) := by
  constructor
  · apply devOpen_eq_none_iff (controller.device_sound flags defaults)
    show (pfdi.flags ||| pcanfdInitUser) &&& pcanfdInitUser ≠ 0
    rw [Masks.or_and_self]
    decide
  · rw [pcanIoctlBtr0btr1, ne_eq, sja1000Bitrate_eq_none_iff, sja1000_wraps_iff]
    simp

/-- A first segment of all ones on a clock the device does not have, and a rate that
is a multiple of `2 ^ 28`. -/
theorem divisors_vanish :
    pcanfdIoctlSetInit (Controller.ucan.device 0 ⟨0, 0, PcanBittiming.zero, PcanBittiming.zero⟩)
      { flags := 0, clockHz := 16 * mhz, data := PcanBittiming.zero
        nominal := { PcanBittiming.zero with brp := 1, tseg1 := 0xffffffff, tseg2 := 0 } } = none ∧
    pcanIoctlBtr0btr1 0x10000000 = none := by
  decide +kernel

end PcanDriver

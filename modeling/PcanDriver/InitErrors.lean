import PcanDriver.DeviceOpen

/-!
The errors that settings can be refused with: those of `pcan_bittiming_normalize`
and of the checks of `pcanfd_dev_open` (`pcanfd_core.c`).
-/
namespace PcanDriver
variable {err : Int}

def InitError (err : Int) : Prop := err = 0 ∨ err = -einval ∨ err = -edom

theorem pcanBittimingToBitrate_error {pbt : PcanBittiming} {clkHz : U32} {done : Int × PcanBittiming}
    (ended : pcanBittimingToBitrate pbt clkHz = some done) : InitError done.1 := by
  unfold pcanBittimingToBitrate at ended
  simp only [Option.pure_def, Option.bind_eq_bind] at ended
  split at ended
  · cases ended
    exact .inr (.inl rfl)
  · simp only [Option.bind_eq_some_iff, Option.some.injEq] at ended
    obtain ⟨_, _, _, _, _, _, same⟩ := ended
    exact .inl (same ▸ rfl)

theorem pcanBitrateToBittiming_error {bt : PcanBittiming} {btc : PcanfdBittimingRange}
    {sysclockHz : U32} {done : Int × PcanBittiming}
    (ended : pcanBitrateToBittiming bt btc sysclockHz = some done) : InitError done.1 := by
  unfold pcanBitrateToBittiming at ended
  simp only [Option.pure_def, Option.bind_eq_bind] at ended
  split at ended
  · cases ended
    exact .inr (.inl rfl)
  · simp only [Option.bind_eq_some_iff] at ended
    obtain ⟨_, _, high, _, ended⟩ := ended
    split at ended
    · cases ended
      exact .inr (.inr rfl)
    · simp only [Option.bind_eq_some_iff, Option.some.injEq] at ended
      obtain ⟨_, _, same⟩ := ended
      exact .inl (same ▸ rfl)

theorem pcanBittimingNormalize_error {pbt : PcanBittiming} {clockHz : U32}
    {caps : PcanfdBittimingRange} {done : Int × PcanBittiming}
    (ended : pcanBittimingNormalize pbt clockHz caps = some done) : InitError done.1 := by
  have finish : ∀ found : Int × PcanBittiming, InitError found.1 →
      (if found.1 ≠ 0 then some (found.1, found.2)
        else (divU32 clockHz (found.2.brp * (found.2.tseg1 + found.2.tseg2 + 1))).bind
          fun bitrateReal => some (0, { found.2 with bitrateReal })) = some done →
      InitError done.1 := by
    intro found error ended
    split at ended
    · cases ended
      exact error
    · obtain ⟨_, _, same⟩ := Option.bind_eq_some_iff.mp ended
      exact .inl (Option.some.inj same ▸ rfl)
  unfold pcanBittimingNormalize at ended
  simp only [Option.pure_def, Option.bind_eq_bind] at ended
  split at ended
  · obtain ⟨found, first, ended⟩ := Option.bind_eq_some_iff.mp ended
    exact finish found (pcanBittimingToBitrate_error first) ended
  split at ended
  · obtain ⟨found, first, ended⟩ := Option.bind_eq_some_iff.mp ended
    exact finish found (pcanBitrateToBittiming_error first) ended
  · exact finish (-einval, pbt) (.inr (.inl rfl)) ended

theorem fixNominalClock_error {pfdi : PcanfdInit} {done : Int × PcanfdInit}
    (ended : fixNominalClock pfdi = some done) : InitError done.1 := by
  unfold fixNominalClock at ended
  simp only [Option.pure_def, Option.bind_eq_bind] at ended
  split at ended
  · cases ended
    exact .inl rfl
  · simp only [Option.bind_eq_some_iff] at ended
    obtain ⟨found, first, ended⟩ := ended
    split at ended
    · cases ended
      exact pcanBittimingToBitrate_error first
    · cases ended
      exact .inl rfl

theorem fixDataClock_error {pfdi : PcanfdInit} {done : Int × PcanfdInit}
    (ended : fixDataClock pfdi = some done) : InitError done.1 := by
  unfold fixDataClock at ended
  simp only [Option.pure_def, Option.bind_eq_bind] at ended
  split at ended
  · cases ended
    exact .inl rfl
  · simp only [Option.bind_eq_some_iff, Option.some.injEq] at ended
    obtain ⟨found, first, same⟩ := ended
    exact same ▸ pcanBittimingToBitrate_error first

theorem fixClock_error {dev : TimingDevice} {pfdi : PcanfdInit} {done : Int × PcanfdInit}
    (ended : fixClock dev pfdi = some done) : InitError done.1 := by
  unfold fixClock pcanfdFixInitClock at ended
  split at ended
  · cases ended
    exact .inl rfl
  split at ended
  · cases ended
    exact .inl rfl
  split at ended
  · cases ended
    exact .inl rfl
  simp only [Option.pure_def, Option.bind_eq_bind, Option.bind_eq_some_iff] at ended
  obtain ⟨nominal, first, ended⟩ := ended
  split at ended
  · cases ended
    exact fixNominalClock_error first
  simp only [Option.bind_eq_some_iff] at ended
  obtain ⟨data, second, ended⟩ := ended
  split at ended
  · cases ended
    exact fixDataClock_error second
  · cases ended
    exact .inl rfl

theorem setupNominal_error {dev : TimingDevice} {pfdi : PcanfdInit} {done : Int × PcanfdInit}
    (ended : setupNominal dev pfdi = some done) : InitError done.1 := by
  unfold setupNominal at ended
  simp only [Option.pure_def, Option.bind_eq_bind, Option.bind_eq_some_iff, Option.some.injEq]
    at ended
  obtain ⟨found, first, same⟩ := ended
  exact same ▸ pcanBittimingNormalize_error first

theorem setupData_error {dev : TimingDevice} {pfdi : PcanfdInit} {done : Int × PcanfdInit}
    (ended : setupData dev pfdi = some done) : InitError done.1 := by
  unfold setupData at ended
  split at ended
  · cases ended
    exact .inl rfl
  split at ended
  · cases ended
    exact .inr (.inl rfl)
  simp only [Option.pure_def, Option.bind_eq_bind, Option.bind_eq_some_iff] at ended
  obtain ⟨found, first, ended⟩ := ended
  split at ended
  · cases ended
    exact pcanBittimingNormalize_error first
  split at ended
  · cases ended
    exact .inr (.inl rfl)
  · cases ended
    exact .inl rfl

/-- Settings are never refused with the error of a copy. -/
theorem pcanfdDevOpen_error {dev : TimingDevice} {pfdi : PcanfdInit}
    (refused : pcanfdDevOpen dev pfdi = some (.refused err)) : InitError err :=
  pcanfdDevOpen_err (.inr (.inl rfl)) (fun _ _ ended _ => fixClock_error ended)
    (fun _ _ ended _ => setupNominal_error ended) (fun _ _ ended _ => setupData_error ended) refused

end PcanDriver

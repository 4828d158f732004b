import PcanDriver.UsbRegistry

/-!
Open files while USB adapters come and go. A file keeps the address of the device that it was opened
on; as long as that memory is not given to another device, whatever is done with the file comes to
its own device or to none, and the count of paths of a device is that of its files.
-/
namespace PcanDriver
open StepSystem
variable {P : Type} {minorEnd : Int}

section Statement
variable (s : UsbRegistry P)

/-- No file that is still open keeps the address that a new device gets. -/
def NoStaleName : UsbEvent P → Prop
  | .plugin _ channels _ => ∀ c ∈ channels, ∀ file ∈ s.files, file.dev ≠ c.dev
  | _ => True

def filesOf (serial : Nat) : Nat := s.files.countP (·.serial = serial)

/-- The devices and the files know each other: a device has the serial of the files that keep its
    address, and its paths are its files, but for those that were closed without notice. -/
structure FilesKnown : Prop where
  serials : ∀ dev d, s.heap dev = some d → d.serial < s.born
  distinct : ∀ dev d dev' d', s.heap dev = some d → s.heap dev' = some d' →
    d.serial = d'.serial → dev = dev'
  born : ∀ file ∈ s.files, file.serial < s.born
  home : ∀ file ∈ s.files, ∀ dev d, s.heap dev = some d → d.serial = file.serial → dev = file.dev
  own : ∀ file ∈ s.files, ∀ d, s.heap file.dev = some d → d.serial = file.serial
  paths : ∀ dev d, s.heap dev = some d → d.cleaned = false →
    PathInv d.path ∧ d.path.handles = filesOf s d.serial + d.missed

def ReachesOwn (t : Transition (UsbRegistry P) (UsbEvent P) (Int × UsbReached)) : Prop :=
  match t.input with
  | .access file | .release file _ _ =>
    t.output.2 = .nobody ∨ t.output.2 = .device file.serial
  | _ => True

end Statement

section Calls
variable {s s' : UsbRegistry P} {dev : Nat} {d : PluggedDev P}

theorem FilesKnown.continues (known : FilesKnown s) (continues : DevsContinue s s') :
    FilesKnown s' := by
  have before := continues.devs
  constructor
  case serials =>
    intro dev d' held'
    obtain ⟨d, held, serial, _⟩ := before dev d' held'
    rw [serial, continues.born]
    exact known.serials dev d held
  case distinct =>
    intro x d₁' y d₂' held₁' held₂' same
    obtain ⟨d₁, held₁, serial₁, _⟩ := before x d₁' held₁'
    obtain ⟨d₂, held₂, serial₂, _⟩ := before y d₂' held₂'
    rw [serial₁, serial₂] at same
    exact known.distinct x d₁ y d₂ held₁ held₂ same
  case born =>
    rw [continues.files, continues.born]
    exact known.born
  case home =>
    intro file member dev d' held' same
    rw [continues.files] at member
    obtain ⟨d, held, serial, _⟩ := before dev d' held'
    exact known.home file member dev d held (serial.symm.trans same)
  case own =>
    intro file member d' held'
    rw [continues.files] at member
    obtain ⟨d, held, serial, _⟩ := before file.dev d' held'
    exact serial.trans (known.own file member d held)
  case paths =>
    intro dev d' held' uncleaned'
    obtain ⟨d, held, serial, kept⟩ := before dev d' held'
    obtain ⟨uncleaned, path, missed⟩ := kept uncleaned'
    have same : filesOf s' d'.serial = filesOf s d.serial := by
      rw [filesOf, filesOf, continues.files, serial]
    rw [same, path, missed]
    exact known.paths dev d held uncleaned

theorem filesOf_unborn (known : FilesKnown s) : filesOf s s.born = 0 := by
  rw [filesOf, List.countP_eq_zero]
  intro file member same
  have := known.born file member
  have := of_decide_eq_true same
  omega

theorem FilesKnown.alloc (known : FilesKnown s) {path : PathDev P} (fresh : path.Fresh)
    (unnamed : ∀ file ∈ s.files, file.dev ≠ dev) :
    FilesKnown { s.setDev dev (newPluggedDev path s.born) with born := s.born + 1 } := by
  have now : ∀ dev' d', { s.setDev dev (newPluggedDev path s.born) with
      born := s.born + 1 }.heap dev' = some d' ↔
        dev' = dev ∧ some (newPluggedDev path s.born) = some d' ∨
          dev' ≠ dev ∧ s.heap dev' = some d' :=
    fun dev' d' => update_some
  constructor
  case serials =>
    intro dev' d' held'
    rcases (now dev' d').mp held' with ⟨_, isNew⟩ | ⟨_, old⟩
    · cases isNew
      exact Nat.lt_succ_self s.born
    · exact Nat.lt_succ_of_lt (known.serials dev' d' old)
  case distinct =>
    intro x d₁ y d₂ held₁ held₂ same
    rcases (now x d₁).mp held₁ with ⟨here, isNew⟩ | ⟨_, old⟩
    · rcases (now y d₂).mp held₂ with ⟨here', _⟩ | ⟨_, old'⟩
      · exact here.trans here'.symm
      · cases isNew
        exact absurd (known.serials y d₂ old') (same ▸ Nat.lt_irrefl s.born)
    · rcases (now y d₂).mp held₂ with ⟨_, isNew⟩ | ⟨_, old'⟩
      · cases isNew
        exact absurd (known.serials x d₁ old) (same ▸ Nat.lt_irrefl s.born)
      · exact known.distinct x d₁ y d₂ old old' same
  case born =>
    intro file member
    exact Nat.lt_succ_of_lt (known.born file member)
  case home =>
    intro file member dev' d' held' same
    rcases (now dev' d').mp held' with ⟨_, isNew⟩ | ⟨_, old⟩
    · cases isNew
      exact absurd (known.born file member) (same ▸ Nat.lt_irrefl s.born)
    · exact known.home file member dev' d' old same
  case own =>
    intro file member d' held'
    rcases (now file.dev d').mp held' with ⟨here, _⟩ | ⟨_, old⟩
    · exact absurd here (unnamed file member)
    · exact known.own file member d' old
  case paths =>
    intro dev' d' held' uncleaned
    rcases (now dev' d').mp held' with ⟨_, isNew⟩ | ⟨_, old⟩
    · cases isNew
      exact ⟨start_inv fresh, (filesOf_unborn known).symm⟩
    · exact known.paths dev' d' old uncleaned

theorem FilesKnown.allocAll (known : FilesKnown s) (env : PluginEnv P) (fresh : env.path.Fresh)
    {channels : List PlugChannel} (unnamed : ∀ c ∈ channels, ∀ file ∈ s.files, file.dev ≠ c.dev) :
    FilesKnown (allocUsbDevs env s channels) := by
  induction channels generalizing s with
  | nil => exact known
  | cons c rest ih =>
    have first := known.alloc fresh (unnamed c List.mem_cons_self)
    exact ih first fun c' member => unnamed c' (List.mem_cons_of_mem c member)

theorem FilesKnown.setPath (known : FilesKnown s) (held : s.heap dev = some d) (d' : PluggedDev P)
    (heap : s'.heap = Function.update s.heap dev (some d')) (born : s'.born = s.born)
    (serial : d'.serial = d.serial) (cleaned : d'.cleaned = d.cleaned)
    (files : ∀ file ∈ s'.files, file ∈ s.files ∨ file.dev = dev ∧ file.serial = d.serial)
    (others : ∀ serial, serial ≠ d.serial → filesOf s' serial = filesOf s serial)
    (path : d.cleaned = false → PathInv d'.path ∧
      d'.path.handles = filesOf s' d.serial + d'.missed) : FilesKnown s' := by
  have now : ∀ {dev' d''}, s'.heap dev' = some d'' →
      ∃ d₀, s.heap dev' = some d₀ ∧ d''.serial = d₀.serial ∧ (dev' ≠ dev → d'' = d₀) := by
    intro dev' d'' held''
    rw [heap] at held''
    rcases update_some.mp held'' with ⟨here, isNew⟩ | ⟨_, old⟩
    · cases isNew
      exact ⟨d, here ▸ held, serial, fun other => absurd here other⟩
    · exact ⟨d'', old, rfl, fun _ => rfl⟩
  constructor
  case serials =>
    intro dev' d'' held''
    obtain ⟨d₀, held₀, same, _⟩ := now held''
    rw [same, born]
    exact known.serials dev' d₀ held₀
  case distinct =>
    intro x d₁ y d₂ held₁ held₂ same
    obtain ⟨e₁, old₁, same₁, _⟩ := now held₁
    obtain ⟨e₂, old₂, same₂, _⟩ := now held₂
    exact known.distinct x e₁ y e₂ old₁ old₂ (same₁.symm.trans (same.trans same₂))
  case born =>
    intro file member
    rw [born]
    rcases files file member with old | ⟨_, same⟩
    · exact known.born file old
    · exact same ▸ known.serials dev d held
  case home =>
    intro file member dev' d'' held'' same
    obtain ⟨d₀, held₀, same₀, _⟩ := now held''
    rcases files file member with old | ⟨here, same'⟩
    · exact known.home file old dev' d₀ held₀ (same₀.symm.trans same)
    · rw [here]
      exact known.distinct dev' d₀ dev d held₀ held (same₀.symm.trans (same.trans same'))
  case own =>
    intro file member d'' held''
    obtain ⟨d₀, held₀, same₀, _⟩ := now held''
    rcases files file member with old | ⟨here, same'⟩
    · exact same₀.trans (known.own file old d₀ held₀)
    · rw [here, held] at held₀
      cases held₀
      exact same₀.trans same'.symm
  case paths =>
    intro dev' d'' held'' uncleaned
    by_cases here : dev' = dev
    · obtain rfl := update_held heap (here ▸ held'')
      rw [serial]
      exact path (cleaned ▸ uncleaned)
    · obtain ⟨d₀, held₀, _, same⟩ := now held''
      obtain rfl := same here
      rw [others d''.serial fun equal => here (known.distinct dev' d'' dev d held₀ held equal)]
      exact known.paths dev' d'' held₀ uncleaned

theorem filesOf_cons (file : UsbFile) (serial : Nat) :
    filesOf { s with files := file :: s.files } serial =
      filesOf s serial + if file.serial = serial then 1 else 0 := by
  simp [filesOf, List.countP_cons]

theorem filesOf_erase {file : UsbFile} (member : file ∈ s.files) (serial : Nat) :
    filesOf s serial = filesOf { s with files := s.files.erase file } serial +
      if file.serial = serial then 1 else 0 := by
  have order := (List.perm_cons_erase member).countP_eq (·.serial = serial)
  rw [filesOf, order]
  exact filesOf_cons (s := { s with files := s.files.erase file }) file serial

theorem filesOf_pos {file : UsbFile} (member : file ∈ s.files) : 0 < filesOf s file.serial :=
  List.countP_pos_iff.mpr ⟨file, member, decide_eq_true rfl⟩

theorem disconnected_known (known : FilesKnown s) (devs : List Nat) :
    FilesKnown (usbDisconnected s devs) := by
  induction devs generalizing s with
  | nil => exact known
  | cons dev rest ih =>
    unfold usbDisconnected
    rw [List.foldl_cons]
    cases held : s.heap dev with
    | none => exact ih known
    | some d =>
      refine ih (known.setPath held (d.setPlugged false) rfl rfl rfl rfl
        (fun file member => .inl member) (fun _ _ => rfl) fun uncleaned => ?_)
      obtain ⟨inv, count⟩ := known.paths dev d held uncleaned
      exact ⟨⟨inv.closed, inv.opened⟩, count⟩

theorem open_known (known : FilesKnown s) (fd minor : Nat) (memory : Bool) (env : OpenEnv P) :
    FilesKnown (pcanOpen s fd minor memory env).1 := by
  unfold pcanOpen
  cases pcanSearchDev s minor with
  | none => exact known
  | some dev =>
    cases held : s.heap dev with
    | none =>
      simp only [held]
      exact known
    | some d =>
      simp only [held]
      by_cases room : memory = true
      · rw [if_pos room]
        have inv : d.cleaned = false → PathInv (pathStep usbInterface d.path (.openPath env)).1 :=
          fun uncleaned => pathStep_inv usbInterface d.path (.openPath env)
            (known.paths dev d held uncleaned).1 trivial
        by_cases opened : (pathStep usbInterface d.path (.openPath env)).2 = 0
        · simp only [if_pos opened]
          have handles : (pathStep usbInterface d.path (.openPath env)).1.handles =
              d.path.handles + 1 := if_pos opened
          refine known.setPath held _ rfl rfl rfl rfl (fun file member => ?_) (fun serial other => ?_)
            fun uncleaned => ⟨inv uncleaned, ?_⟩
          · rcases List.mem_cons.mp member with rfl | old
            · exact .inr ⟨rfl, rfl⟩
            · exact .inl old
          · exact (filesOf_cons ⟨fd, dev, d.serial⟩ serial).trans (if_neg (Ne.symm other) ▸ rfl)
          · have more := filesOf_cons (s := s) ⟨fd, dev, d.serial⟩ d.serial
            rw [if_pos rfl] at more
            have count := (known.paths dev d held uncleaned).2
            simp only [UsbRegistry.setDev] at more ⊢
            rw [handles, count]
            show _ = filesOf { s with files := ⟨fd, dev, d.serial⟩ :: s.files } d.serial + d.missed
            omega
        · simp only [if_neg opened]
          have handles : (pathStep usbInterface d.path (.openPath env)).1.handles =
              d.path.handles := if_neg opened
          refine known.setPath held _ rfl rfl rfl rfl (fun file member => .inl member)
            (fun _ _ => rfl) fun uncleaned => ⟨inv uncleaned, ?_⟩
          exact handles.trans (known.paths dev d held uncleaned).2
      · rw [if_neg room]
        exact known

theorem FilesKnown.forget (known : FilesKnown s) {file : UsbFile} (member : file ∈ s.files)
    (nobody : ∀ dev d, s.heap dev = some d → d.serial ≠ file.serial) :
    FilesKnown { s with files := s.files.erase file } where
  serials := known.serials
  distinct := known.distinct
  born f inside := known.born f (List.mem_of_mem_erase inside)
  home f inside := known.home f (List.mem_of_mem_erase inside)
  own f inside := known.own f (List.mem_of_mem_erase inside)
  paths dev d held uncleaned := by
    obtain ⟨inv, count⟩ := known.paths dev d held uncleaned
    refine ⟨inv, ?_⟩
    rw [filesOf_erase member, if_neg (Ne.symm (nobody dev d held)), Nat.add_zero] at count
    exact count

theorem FilesKnown.close (known : FilesKnown s) {file : UsbFile} (member : file ∈ s.files)
    (held : s.heap file.dev = some d) (d' : PluggedDev P) (serial : d'.serial = d.serial)
    (cleaned : d'.cleaned = d.cleaned) (path : d.cleaned = false → PathInv d'.path ∧
      d'.path.handles + d.missed + 1 = d.path.handles + d'.missed) :
    FilesKnown ({ s with files := s.files.erase file }.setDev file.dev d') := by
  have own := known.own file member d held
  refine known.setPath held d' rfl rfl serial cleaned
    (fun f inside => .inl (List.mem_of_mem_erase inside)) (fun other differs => ?_)
    fun uncleaned => ?_
  · have count := filesOf_erase member other
    rw [if_neg fun same => differs (same.symm.trans own.symm), Nat.add_zero] at count
    exact count.symm
  · obtain ⟨inv, handles⟩ := path uncleaned
    have before := (known.paths file.dev d held uncleaned).2
    have count := filesOf_erase member d.serial
    rw [if_pos own.symm] at count
    refine ⟨inv, ?_⟩
    show d'.path.handles = filesOf { s with files := s.files.erase file } d.serial + d'.missed
    omega

theorem release_known (known : FilesKnown s) (sound : s.Sound minorEnd) (owned : s.Owned)
    {file : UsbFile} (member : file ∈ s.files) (env : ReleaseEnv P) :
    FilesKnown (pcanRelease s file env true) := by
  unfold pcanRelease
  cases held : s.heap file.dev with
  | none =>
    simp only [held]
    refine known.forget member fun dev d held' same => ?_
    rw [known.home file member dev d held' same, held] at held'
    cases held'
  | some d =>
    have own := known.own file member d held
    simp only [held]
    split
    next =>
      have released : d.cleaned = false →
          PathInv (pathStep usbInterface d.path (.releasePath env)).1 ∧
            d.path.handles - 1 + d.missed + 1 = d.path.handles + d.missed := by
        intro uncleaned
        obtain ⟨inv, count⟩ := known.paths file.dev d held uncleaned
        have some_ : 0 < d.path.handles := by
          have := filesOf_pos member
          rw [← own] at this
          omega
        exact ⟨releasePath_inv usbInterface inv env some_, by omega⟩
      have known' := known.close member held
        { d with path := (pathStep usbInterface d.path (.releasePath env)).1 } rfl rfl
        released
      simp only [releaseUsbDev]
      split
      next =>
        obtain ⟨sound', owned'⟩ := setDev_keeps (s := { s with files := s.files.erase file })
          { d with path := (pathStep usbInterface d.path (.releasePath env)).1 }
          (sound.frame rfl rfl rfl rfl) (owned.keep rfl (fun _ => Iff.rfl) owned.settled) held
          rfl rfl rfl rfl
        exact known'.continues (cleanup_works sound' (owned'.settled file.dev)).continues
      next => exact known'
    next =>
      rw [if_pos own]
      refine known.close member held { d with missed := d.missed + 1 } rfl rfl fun uncleaned => ?_
      have inv := (known.paths file.dev d held uncleaned).1
      exact ⟨inv, by simp only; omega⟩

theorem getDev_own (known : FilesKnown s) (sound : s.Sound minorEnd) {file : UsbFile}
    (member : file ∈ s.files) :
    pcanGetDev s file.dev = .nobody ∨ pcanGetDev s file.dev = .device file.serial := by
  unfold pcanGetDev
  split
  next listed =>
    obtain ⟨minor, d, held, _⟩ := (sound.listed file.dev).mp listed
    simp only [held]
    split
    · exact .inr (known.own file member d held ▸ rfl)
    · exact .inl rfl
  next => exact .inl rfl

end Calls

section Runs

structure PluggedInv (minorEnd : Int) (s : UsbRegistry P) : Prop where
  sound : s.Sound minorEnd
  owned : s.Owned
  known : FilesKnown s

/-- An event that no open file is in the way of. -/
def UsbUnmistaken (s : UsbRegistry P) (event : UsbEvent P) : Prop :=
  UsbAllowed s event ∧ NoStaleName s event

theorem usbRegistryStep_inv (small : minorEnd < 2 ^ 31 - 1) (s : UsbRegistry P)
    (event : UsbEvent P) (inv : PluggedInv minorEnd s) (allowed : UsbUnmistaken s event) :
    PluggedInv minorEnd (usbRegistryStep minorEnd s event).1 := by
  obtain ⟨sound, owned, known⟩ := inv
  obtain ⟨sound', owned'⟩ := usbRegistryStep_keeps small s event ⟨sound, owned⟩ allowed.1
  refine ⟨sound', owned', ?_⟩
  cases event with
  | plugin intf channels env =>
    obtain ⟨_, ⟨cs, among, continues⟩, _⟩ := plugin_outcome small sound allowed.1
    have fresh : env.path.Fresh := allowed.1.2.2.2.2
    exact (known.allocAll env fresh fun c member => allowed.2 c (among c member)).continues
      continues
  | plugout intf lock =>
    cases bound : s.interfaces intf with
    | none =>
      have same : pcanUsbPlugout s intf lock = s := by simp only [pcanUsbPlugout, bound]
      rw [usbRegistryStep, same]
      exact known
    | some devs =>
      have lockFree : ∀ dev ∈ devs, (lock dev).1 = true := fun dev inside =>
        allowed.1 dev (by rw [bound]; exact inside)
      obtain ⟨_, continues, _⟩ := plugout_works sound owned bound lockFree
      exact known.continues continues
  | disconnected devs => exact disconnected_known known devs
  | openFile fd minor memory env => exact open_known known fd minor memory env
  | access file => exact known
  | release file env granted =>
    obtain ⟨⟨member, rfl⟩, _⟩ := allowed
    exact release_known known sound owned member env

theorem loaded_known : FilesKnown (UsbRegistry.loaded : UsbRegistry P) where
  serials dev d held := by cases held
  distinct dev d dev' d' held := by cases held
  born file member := by cases member
  home file member := by cases member
  own file member := by cases member
  paths dev d held := by cases held

theorem usbRegistryStep_reaches (s : UsbRegistry P) (event : UsbEvent P)
    (inv : PluggedInv minorEnd s) (allowed : UsbUnmistaken s event) :
    ReachesOwn ⟨s, event, (usbRegistryStep minorEnd s event).2,
      (usbRegistryStep minorEnd s event).1⟩ := by
  cases event with
  | access file => exact getDev_own inv.known inv.sound allowed.1
  | release file env granted => exact getDev_own inv.known inv.sound allowed.1.1
  | _ => trivial

/-- As long as no memory that an open file refers to is given to another device, each call of a
    file comes to the device that the file was opened on or finds none, and the paths that a device
    counts are its open files and those that were closed while it was marked as unplugged. -/
theorem files_reach_their_devices (minorEnd : Int) (small : minorEnd < 2 ^ 31 - 1)
    (events : List (UsbEvent P))
    (allowed : Admitted UsbUnmistaken (usbRegistryStep minorEnd) .loaded events) :
    (∀ t ∈ transitions (usbRegistryStep minorEnd) .loaded events, ReachesOwn t) ∧
      ∀ s ∈ states (usbRegistryStep minorEnd) .loaded events, ∀ dev d, s.heap dev = some d →
        d.cleaned = false →
          PathInv d.path ∧ d.path.handles = filesOf s d.serial + d.missed := by
  have start : PluggedInv minorEnd (UsbRegistry.loaded : UsbRegistry P) :=
    ⟨loaded_sound, loaded_owned, loaded_known⟩
  refine ⟨transitions_invariant (usbRegistryStep_inv small) usbRegistryStep_reaches start allowed,
    fun s member => ?_⟩
  exact (states_invariant (usbRegistryStep_inv small) start allowed s member).known.paths

end Runs

section Samples

instance decidableNoStaleName (s : UsbRegistry P) :
    (event : UsbEvent P) → Decidable (NoStaleName s event)
  | .plugin _ channels _ =>
    inferInstanceAs (Decidable (∀ c ∈ channels, ∀ file ∈ s.files, file.dev ≠ c.dev))
  | .plugout _ _ | .disconnected _ | .openFile _ _ _ _ | .access _ | .release _ _ _ =>
    .isTrue trivial

instance decidableUnmistaken (s : UsbRegistry P) (event : UsbEvent P) :
    Decidable (UsbUnmistaken s event) :=
  inferInstanceAs (Decidable (UsbAllowed s event ∧ NoStaleName s event))

theorem files_reach_their_devices_sample :
    (∀ t ∈ transitions (usbRegistryStep 63) .loaded usbHistory, ReachesOwn t) ∧
      ∀ s ∈ states (usbRegistryStep 63) .loaded usbHistory, ∀ dev d, s.heap dev = some d →
        d.cleaned = false →
          PathInv d.path ∧ d.path.handles = filesOf s d.serial + d.missed :=
  files_reach_their_devices 63 (by decide) usbHistory (by decide +kernel)

/-- With its memory given to another device, a file comes to that one. -/
example : (run (usbRegistryStep 63) .loaded
    [.plugin 0 [⟨100, 0, true, true⟩] pluggedIn, .openFile 7 32 true grantedOpen,
      .plugout 0 fun _ => (true, true), .plugin 1 [⟨100, 0, true, true⟩] pluggedIn,
      .access ⟨7, 100, 0⟩]).2.map (·.2) =
    [.nobody, .nobody, .nobody, .nobody, .device 1] := by decide +kernel

end Samples

end PcanDriver

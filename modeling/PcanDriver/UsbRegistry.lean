import PcanDriver.FreeMinor
import PcanDriver.PathAccounting

/-!
Plugging USB adapters in and out (`pcan_usb_core.c`): what `pcan_usb_plugin`, `pcan_usb_create_dev`
and `pcan_usb_plugout` do to the list of devices of the driver, and what open files
(`pcan_fops_linux.c`) reach through it. Each call is one step.
-/
namespace PcanDriver
open StepSystem
variable {P : Type}

section Source

/-- A `struct pcandev`. `serial` counts the allocations and tells a device from those that get the
    same memory later on; `missed` counts the files that have been closed while the device was
    marked as unplugged, of which `pcan_release` takes no notice. -/
structure PluggedDev (P : Type) where
  serial : Nat
  path : PathState P
  missed : Nat
  nMinor : Nat
  linked : Bool
  cleaning : Bool
  cleaned : Bool

/-- An open file. `serial` is the device that it was opened on, the driver only keeps the
    address. -/
structure UsbFile where
  fd : Nat
  dev : Nat
  serial : Nat
deriving Repr, DecidableEq

/-- What is allocated at an address, the list of the driver with its counters, the devices of each
    interface that is bound to the driver, and the open files. `born` is the next serial. -/
structure UsbRegistry (P : Type) where
  heap : Nat → Option (PluggedDev P)
  devices : List Nat
  wDeviceCount : Nat
  usbDevices : Nat
  interfaces : Nat → Option (List Nat)
  files : List UsbFile
  born : Nat

/-- The driver after it has been loaded, with no adapter plugged in. -/
def UsbRegistry.loaded : UsbRegistry P where
  heap _ := none
  devices := []
  wDeviceCount := 0
  usbDevices := 0
  interfaces _ := none
  files := []
  born := 0

def UsbRegistry.setDev (s : UsbRegistry P) (dev : Nat) (d : PluggedDev P) : UsbRegistry P :=
  { s with heap := Function.update s.heap dev (some d) }

/-- USB devices set neither `open` nor `req_irq`. What `pcan_usb_free_irq` does is not about the
    channel, see `pcanRelease`. -/
def usbInterface : PathInterface where
  hasOpen := false
  hasRelease := false
  hasReqIrq := false
  hasFreeIrq := false
  hasDeviceRelease := true
  dongle := false
  releases := both_unset
  freesIrq := both_unset
  opensDongle := both_unset

/-- What `pcan_find_free_minor` sees of the list. -/
def UsbRegistry.registered (s : UsbRegistry P) : List RegisteredDev :=
  s.devices.filterMap fun dev => (s.heap dev).map fun d => ⟨dev, d.nMinor⟩

def pcanAddDevInList (s : UsbRegistry P) (dev : Nat) (d : PluggedDev P) : UsbRegistry P :=
  { s.setDev dev { d with linked := true } with
    devices := s.devices ++ [dev]
    wDeviceCount := (s.wDeviceCount + 1) % 2 ^ 16 }

/-- The list is left as it is where its lock is not `granted`. -/
def pcanRemoveDevFromList (s : UsbRegistry P) (dev : Nat) (d : PluggedDev P) (granted : Bool) :
    UsbRegistry P × Bool :=
  if d.linked && granted then
    ({ s.setDev dev { d with linked := false } with
        devices := s.devices.erase dev
        wDeviceCount := s.wDeviceCount - 1 }, true)
  else (s.setDev dev d, false)

/-- The last lines of `pcan_cleanup_dev`. -/
def PluggedDev.markCleaned (d : PluggedDev P) : PluggedDev P :=
  let flags := d.path.d.dev.flags &&& ~~~pcanDevOpened
  { d with
    path := { d.path with d := d.path.d.setDev { d.path.d.dev with flags } }
    cleaning := false
    cleaned := true }

def idleRelease : ReleaseEnv P := ⟨(·, 0), (·, 0), (·, 0), (·, 0)⟩

/-- Open paths are given up, and with none counted `pcan_release_path` calls no function of the
    device. -/
def destroyPath (path : PathState P) : PathState P :=
  let dev := { path.d.dev with filter := none }
  if 0 ≤ dev.nOpenPaths then
    let d := path.d.setDev { dev with nOpenPaths := 0 }
    { path with d := (pcanReleasePath usbInterface idleRelease d).1 }
  else { path with d := path.d.setDev dev }

/-- `pcan_destroy_dev` on a device that is being cleaned or has been: the call of
    `pcan_cleanup_dev` in it ends at once. -/
def PluggedDev.destroy (d : PluggedDev P) : PluggedDev P :=
  { d.markCleaned with path := destroyPath d.markCleaned.path }

/-- `dev->cleanup` of USB devices. -/
def pcanUsbCleanup (s : UsbRegistry P) (dev : Nat) (d : PluggedDev P) (granted : Bool) :
    UsbRegistry P × PluggedDev P :=
  let removed := pcanRemoveDevFromList s dev d granted
  let d := { d with linked := d.linked && !removed.2 }.destroy
  ({ removed.1.setDev dev d with usbDevices := removed.1.usbDevices - 1 }, d)

/-- `dev->cleanup` is called once in the life of a device. -/
def pcanCleanupDev (s : UsbRegistry P) (dev : Nat) (granted : Bool) : UsbRegistry P :=
  match s.heap dev with
  | none => s
  | some d =>
    if d.cleaned || d.cleaning then s.setDev dev d.markCleaned
    else
      let cleaned := pcanUsbCleanup s dev { d with cleaning := true } granted
      cleaned.1.setDev dev cleaned.2.markCleaned

/-- A channel of an adapter that is plugged in: where `pcan_alloc_dev` puts its device, what
    `device_ctrl_init` returns, and whether the lock of the list is granted to
    `pcan_usb_cleanup` and to `pcan_usb_free_interface`, if they come to be called. -/
structure PlugChannel where
  dev : Nat
  initErr : Int
  cleanupGranted : Bool
  freeGranted : Bool
deriving Repr, DecidableEq

/-- What a device is made by `pcan_alloc_dev` and `pcan_soft_init`. -/
def newPluggedDev (path : PathDev P) (serial : Nat) : PluggedDev P where
  serial := serial
  path := path.start
  missed := 0
  nMinor := 0
  linked := false
  cleaning := false
  cleaned := false

def pcanUsbCreateDev (minorEnd : Int) (s : UsbRegistry P) (c : PlugChannel) :
    UsbRegistry P × Int :=
  match s.heap c.dev with
  | none => (s, 0)
  | some d =>
    let added := pcanAddDevInList s c.dev d
    let counted := { added with usbDevices := added.usbDevices + 1 }
    match pcanFindFreeMinor counted.registered (some c.dev) 32 minorEnd with
    | none => (counted, 0)
    | some minor =>
      if minor < 0 then (pcanCleanupDev counted c.dev c.cleanupGranted, minor)
      else
        let named := counted.setDev c.dev { d with linked := true, nMinor := minor.toNat }
        if c.initErr ≠ 0 then (pcanCleanupDev named c.dev c.cleanupGranted, c.initErr)
        else (named, 0)

/-- The devices that have been created for an interface are cleaned again where a later one
    fails, the last one first. -/
def createUsbDevs (minorEnd : Int) (s : UsbRegistry P) (created : List PlugChannel) :
    List PlugChannel → UsbRegistry P × Int
  | [] => (s, 0)
  | c :: rest =>
    let made := pcanUsbCreateDev minorEnd s c
    if made.2 ≠ 0 then
      (created.foldl (fun s c => pcanCleanupDev s c.dev c.cleanupGranted) made.1, made.2)
    else createUsbDevs minorEnd made.1 (c :: created) rest

/-- One device of `pcan_usb_free_interface`. One that is taken out of the list only here is
    destroyed before it is freed, and nothing is left of it. -/
def freeUsbDev (s : UsbRegistry P) (c : PlugChannel) : UsbRegistry P :=
  match s.heap c.dev with
  | none => s
  | some d =>
    let s := (pcanRemoveDevFromList s c.dev d c.freeGranted).1
    { s with heap := Function.update s.heap c.dev none }

def pcanUsbFreeInterface (s : UsbRegistry P) (channels : List PlugChannel) : UsbRegistry P :=
  channels.foldl freeUsbDev s

/-- What `pcan_usb_plugin` finds: the error of what it does before any device is allocated, how
    many devices there is memory for, and the error of what it does before any is created. -/
structure PluginEnv (P : Type) where
  rejected : Int
  memory : Nat
  setup : Int
  path : PathDev P

def allocUsbDevs (env : PluginEnv P) (s : UsbRegistry P) : List PlugChannel → UsbRegistry P
  | [] => s
  | c :: rest =>
    allocUsbDevs env { s.setDev c.dev (newPluggedDev env.path s.born) with born := s.born + 1 } rest

/-- The USB core forgets what an interface was given when its probe fails. -/
def pcanUsbPlugin (minorEnd : Int) (s : UsbRegistry P) (intf : Nat) (channels : List PlugChannel)
    (env : PluginEnv P) : UsbRegistry P × Int :=
  if env.rejected ≠ 0 then (s, env.rejected)
  else
    let allocated := channels.take env.memory
    let ready := allocUsbDevs env s allocated
    if env.memory < channels.length then (pcanUsbFreeInterface ready allocated, -enomem)
    else if env.setup ≠ 0 then (pcanUsbFreeInterface ready channels, env.setup)
    else
      let created := createUsbDevs minorEnd ready [] channels
      if created.2 ≠ 0 then (pcanUsbFreeInterface created.1 channels, created.2)
      else
        ({ created.1 with
            interfaces := Function.update created.1.interfaces intf (some (channels.map (·.dev))) },
          0)

/-- `lock` is whether the lock of the list is granted to `pcan_usb_cleanup` and to
    `pcan_usb_free_interface`, for each device. -/
def pcanUsbPlugout (s : UsbRegistry P) (intf : Nat) (lock : Nat → Bool × Bool) : UsbRegistry P :=
  match s.interfaces intf with
  | none => s
  | some devs =>
    let channels := devs.map fun dev => ⟨dev, 0, (lock dev).1, (lock dev).2⟩
    let forgotten := { s with interfaces := Function.update s.interfaces intf none }
    let cleaned := channels.foldl (fun s c => pcanCleanupDev s c.dev c.cleanupGranted) forgotten
    pcanUsbFreeInterface cleaned channels

def PluggedDev.setPlugged (d : PluggedDev P) (isPlugged : Bool) : PluggedDev P :=
  { d with path := { d.path with d := d.path.d.setDev { d.path.d.dev with isPlugged } } }

/-- The end of an URB tells that the cable is disconnected: `pcan_usb_write_notify` marks its own
    device, `pcan_usb_read_notify` all devices of its interface. -/
def usbDisconnected (s : UsbRegistry P) (devs : List Nat) : UsbRegistry P :=
  devs.foldl (fun s dev =>
    match s.heap dev with
    | none => s
    | some d => s.setDev dev (d.setPlugged false)) s

/-- What a call comes to through the address that a file keeps. -/
inductive UsbReached where
  | nobody
  | device (serial : Nat)
  | freed
deriving Repr, DecidableEq

/-- An address in the list with no device behind it is read all the same. -/
def pcanGetDev (s : UsbRegistry P) (dev : Nat) : UsbReached :=
  if dev ∈ s.devices then
    match s.heap dev with
    | none => .freed
    | some d => if d.path.d.dev.isPlugged then .device d.serial else .nobody
  else .nobody

/-- The first device of the list with the minor. -/
def pcanSearchDev (s : UsbRegistry P) (minor : Nat) : Option Nat :=
  s.devices.find? fun dev => (s.heap dev).any fun d => d.nMinor = minor

/-- `memory` is whether there is any for the file. -/
def pcanOpen (s : UsbRegistry P) (fd minor : Nat) (memory : Bool) (env : OpenEnv P) :
    UsbRegistry P × Int :=
  match pcanSearchDev s minor with
  | none => (s, -enodev)
  | some dev =>
    match s.heap dev with
    | none => (s, -enodev)
    | some d =>
      if memory then
        let opened := pathStep usbInterface d.path (.openPath env)
        let s := s.setDev dev { d with path := opened.1 }
        (if opened.2 = 0 then { s with files := ⟨fd, dev, d.serial⟩ :: s.files } else s, opened.2)
      else (s, -enomem)

/-- A device that is lost while the last of its files is closed is cleaned by `free_irq`; it is
    unlinked, its memory is kept until the adapter is plugged out. -/
def releaseUsbDev (s : UsbRegistry P) (dev : Nat) (d : PluggedDev P) (env : ReleaseEnv P)
    (granted : Bool) : UsbRegistry P :=
  let released := (pathStep usbInterface d.path (.releasePath env)).1
  let s := s.setDev dev { d with path := released }
  if d.path.d.dev.nOpenPaths = 1 ∧ released.d.dev.isPlugged = false then
    pcanCleanupDev s dev granted
  else s

def pcanRelease (s : UsbRegistry P) (file : UsbFile) (env : ReleaseEnv P) (granted : Bool) :
    UsbRegistry P :=
  let s := { s with files := s.files.erase file }
  match s.heap file.dev with
  | none => s
  | some d =>
    match pcanGetDev s file.dev with
    | .device _ => releaseUsbDev s file.dev d env granted
    | _ => if d.serial = file.serial then s.setDev file.dev { d with missed := d.missed + 1 } else s

inductive UsbEvent (P : Type) where
  | plugin (intf : Nat) (channels : List PlugChannel) (env : PluginEnv P)
  | plugout (intf : Nat) (lock : Nat → Bool × Bool)
  | disconnected (devs : List Nat)
  | openFile (fd minor : Nat) (memory : Bool) (env : OpenEnv P)
  | access (file : UsbFile)
  | release (file : UsbFile) (env : ReleaseEnv P) (granted : Bool)

/-- The second result is what the call of a file has come to. -/
def usbRegistryStep (minorEnd : Int) (s : UsbRegistry P) :
    UsbEvent P → UsbRegistry P × Int × UsbReached
  | .plugin intf channels env =>
    let plugged := pcanUsbPlugin minorEnd s intf channels env
    (plugged.1, plugged.2, .nobody)
  | .plugout intf lock => (pcanUsbPlugout s intf lock, 0, .nobody)
  | .disconnected devs => (usbDisconnected s devs, 0, .nobody)
  | .openFile fd minor memory env =>
    let opened := pcanOpen s fd minor memory env
    (opened.1, opened.2, .nobody)
  | .access file =>
    let reached := pcanGetDev s file.dev
    (s, if reached = .nobody then -enodev else 0, reached)
  | .release file env granted =>
    (pcanRelease s file env granted, 0, pcanGetDev s file.dev)

end Source

section Statement
variable (s : UsbRegistry P)

def UsbRegistry.Linked (dev minor : Nat) : Prop :=
  ∃ d, s.heap dev = some d ∧ d.linked = true ∧ d.nMinor = minor

/-- The list holds the devices that are linked, once each, the counters count them, and no two of
    them share a minor. -/
structure UsbRegistry.Sound (minorEnd : Int) : Prop where
  nodup : s.devices.Nodup
  listed : ∀ dev, dev ∈ s.devices ↔ ∃ minor, s.Linked dev minor
  uncleaned : ∀ dev d, s.heap dev = some d → d.linked = true →
    d.cleaned = false ∧ d.cleaning = false
  counted : s.wDeviceCount = s.devices.length
  usbCounted : s.usbDevices = s.devices.length
  minors : ∀ dev dev' minor, s.Linked dev minor → s.Linked dev' minor → dev = dev'
  range : ∀ dev minor, s.Linked dev minor → 32 ≤ minor ∧ (32 < minorEnd → minor ≤ minorEnd)

/-- Every device that is allocated is one of an interface that is bound to the driver, and of no
    other one, and it is in the list unless it has been cleaned. -/
structure UsbRegistry.Owned : Prop where
  bound : ∀ dev, s.heap dev ≠ none ↔ ∃ intf devs, s.interfaces intf = some devs ∧ dev ∈ devs
  apart : ∀ dev intf intf' devs devs', s.interfaces intf = some devs → dev ∈ devs →
    s.interfaces intf' = some devs' → dev ∈ devs' → intf = intf'
  once : ∀ intf devs, s.interfaces intf = some devs → devs.Nodup
  settled : ∀ dev d, s.heap dev = some d → d.linked = true ∨ d.cleaned = true

/-- `pcan_malloc` gives memory that is not in use, an interface is bound once, the counter of
    devices does not wrap, and nobody holds the lock of the list when a device is cleaned. -/
def UsbAllowed : UsbEvent P → Prop
  | .plugin intf channels env =>
    s.interfaces intf = none ∧ (channels.map (·.dev)).Nodup ∧
      (∀ c ∈ channels, s.heap c.dev = none ∧ c.cleanupGranted = true) ∧
      s.devices.length + channels.length < 2 ^ 16 ∧ env.path.Fresh
  | .plugout intf lock => ∀ dev ∈ (s.interfaces intf).getD [], (lock dev).1 = true
  | .release file _ granted => file ∈ s.files ∧ granted = true
  | .access file => file ∈ s.files
  | _ => True

instance decidableFresh (d : PathDev P) : Decidable d.Fresh :=
  decidable_of_iff (d.dev.nOpenPaths = 0 ∧ d.wMsg = false ∧ d.rMsg = false)
    ⟨fun ⟨paths, w, r⟩ => ⟨paths, w, r⟩, fun fresh => ⟨fresh.paths, fresh.wMsg, fresh.rMsg⟩⟩

instance decidableUsbAllowed (s : UsbRegistry P) :
    (event : UsbEvent P) → Decidable (UsbAllowed s event)
  | .plugin intf channels env => inferInstanceAs (Decidable (s.interfaces intf = none ∧
      (channels.map (·.dev)).Nodup ∧
      (∀ c ∈ channels, s.heap c.dev = none ∧ c.cleanupGranted = true) ∧
      s.devices.length + channels.length < 2 ^ 16 ∧ env.path.Fresh))
  | .plugout intf lock =>
    inferInstanceAs (Decidable (∀ dev ∈ (s.interfaces intf).getD [], (lock dev).1 = true))
  | .release file _ granted => inferInstanceAs (Decidable (file ∈ s.files ∧ granted = true))
  | .access file => inferInstanceAs (Decidable (file ∈ s.files))
  | .disconnected _ => .isTrue trivial
  | .openFile _ _ _ _ => .isTrue trivial

end Statement

section Devices
variable {minorEnd : Int} {s s' : UsbRegistry P} {dev : Nat} {d : PluggedDev P}

theorem update_some {dev' : Nat} {d' : PluggedDev P} {new : Option (PluggedDev P)} :
    Function.update s.heap dev new dev' = some d' ↔
      dev' = dev ∧ new = some d' ∨ dev' ≠ dev ∧ s.heap dev' = some d' := by
  by_cases same : dev' = dev
  · rw [same, Function.update_self]
    simp
  · rw [Function.update_of_ne same]
    simp [same]

theorem update_held {d' : PluggedDev P} (heap : s'.heap = Function.update s.heap dev (some d))
    (held : s'.heap dev = some d') : d' = d := by
  rw [heap, Function.update_self] at held
  exact (Option.some.inj held).symm

def PluggedDev.cleanedUp (d : PluggedDev P) : PluggedDev P :=
  { d with cleaning := true, linked := false }.destroy.markCleaned

@[simp] theorem markCleaned_linked : d.markCleaned.linked = d.linked := rfl

@[simp] theorem markCleaned_cleaned : d.markCleaned.cleaned = true := rfl

@[simp] theorem markCleaned_cleaning : d.markCleaned.cleaning = false := rfl

@[simp] theorem markCleaned_nMinor : d.markCleaned.nMinor = d.nMinor := rfl

@[simp] theorem markCleaned_serial : d.markCleaned.serial = d.serial := rfl

@[simp] theorem cleanedUp_linked : d.cleanedUp.linked = false := rfl

@[simp] theorem cleanedUp_cleaned : d.cleanedUp.cleaned = true := rfl

@[simp] theorem cleanedUp_serial : d.cleanedUp.serial = d.serial := rfl

theorem pcanCleanupDev_linked (held : s.heap dev = some d) (linked : d.linked = true)
    (uncleaned : d.cleaned = false ∧ d.cleaning = false) :
    pcanCleanupDev s dev true =
      { s with
        heap := Function.update s.heap dev (some d.cleanedUp)
        devices := s.devices.erase dev
        wDeviceCount := s.wDeviceCount - 1
        usbDevices := s.usbDevices - 1 } := by
  simp only [pcanCleanupDev, held, uncleaned.1, uncleaned.2, Bool.or_self, Bool.false_eq_true,
    if_false, pcanUsbCleanup, pcanRemoveDevFromList, linked, Bool.and_self, if_true,
    UsbRegistry.setDev, Function.update_idem, Bool.not_true, Bool.and_false, PluggedDev.cleanedUp]

/-- Another cleaning only marks the device again. -/
theorem pcanCleanupDev_again (held : s.heap dev = some d) (cleaned : d.cleaned = true)
    (granted : Bool) : pcanCleanupDev s dev granted = s.setDev dev d.markCleaned := by
  simp only [pcanCleanupDev, held, cleaned, Bool.true_or, if_true]

theorem linked_update {new : Option (PluggedDev P)}
    (heap : s'.heap = Function.update s.heap dev new) (dev' minor : Nat) : s'.Linked dev' minor ↔
      dev' = dev ∧ (∃ d, new = some d ∧ d.linked = true ∧ d.nMinor = minor) ∨
        dev' ≠ dev ∧ s.Linked dev' minor := by
  unfold UsbRegistry.Linked
  simp only [heap, update_some]
  constructor
  · rintro ⟨d, ⟨same, held⟩ | ⟨other, held⟩, linked, named⟩
    · exact .inl ⟨same, d, held, linked, named⟩
    · exact .inr ⟨other, d, held, linked, named⟩
  · rintro (⟨same, d, held, linked, named⟩ | ⟨other, d, held, linked, named⟩)
    · exact ⟨d, .inl ⟨same, held⟩, linked, named⟩
    · exact ⟨d, .inr ⟨other, held⟩, linked, named⟩

theorem linked_minor (held : s.heap dev = some d) (linked : d.linked = true) :
    s.Linked dev d.nMinor := ⟨d, held, linked, rfl⟩

theorem UsbRegistry.Linked.held {minor : Nat} (linked : s.Linked dev minor)
    (held : s.heap dev = some d) : d.linked = true ∧ d.nMinor = minor := by
  obtain ⟨d', held', linked', named⟩ := linked
  rw [held] at held'
  cases held'
  exact ⟨linked', named⟩

theorem UsbRegistry.Sound.frame (sound : s.Sound minorEnd) (heap : s'.heap = s.heap)
    (devices : s'.devices = s.devices) (count : s'.wDeviceCount = s.wDeviceCount)
    (usb : s'.usbDevices = s.usbDevices) : s'.Sound minorEnd := by
  have linked : ∀ dev minor, s'.Linked dev minor ↔ s.Linked dev minor := fun dev minor => by
    simp only [UsbRegistry.Linked, heap]
  constructor
  case nodup => exact devices ▸ sound.nodup
  case listed => simp only [devices, linked]; exact sound.listed
  case uncleaned => rw [heap]; exact sound.uncleaned
  case counted => rw [count, devices]; exact sound.counted
  case usbCounted => rw [usb, devices]; exact sound.usbCounted
  case minors => simp only [linked]; exact sound.minors
  case range => simp only [linked]; exact sound.range

theorem UsbRegistry.Sound.update {new : Option (PluggedDev P)} (sound : s.Sound minorEnd)
    (same : ∀ minor, (∃ d, new = some d ∧ d.linked = true ∧ d.nMinor = minor) ↔
      s.Linked dev minor)
    (uncleaned : ∀ d, new = some d → d.linked = true → d.cleaned = false ∧ d.cleaning = false) :
    { s with heap := Function.update s.heap dev new }.Sound minorEnd := by
  have linked : ∀ dev' minor,
      { s with heap := Function.update s.heap dev new }.Linked dev' minor ↔
        s.Linked dev' minor := by
    intro dev' minor
    rw [linked_update rfl, same]
    by_cases here : dev' = dev
    · rw [here]
      simp
    · simp [here]
  constructor
  case nodup => exact sound.nodup
  case listed => simp only [linked]; exact sound.listed
  case uncleaned =>
    intro dev' d' held
    rcases update_some.mp held with ⟨_, new_⟩ | ⟨_, old⟩
    · exact uncleaned d' new_
    · exact sound.uncleaned dev' d' old
  case counted => exact sound.counted
  case usbCounted => exact sound.usbCounted
  case minors => simp only [linked]; exact sound.minors
  case range => simp only [linked]; exact sound.range

theorem UsbRegistry.Sound.replace {d' : PluggedDev P} (sound : s.Sound minorEnd)
    (held : s.heap dev = some d) (linked : d'.linked = d.linked) (minor : d'.nMinor = d.nMinor)
    (uncleaned : d.linked = true → d'.cleaned = d.cleaned ∧ d'.cleaning = d.cleaning) :
    (s.setDev dev d').Sound minorEnd := by
  apply sound.update
  · intro m
    constructor
    · rintro ⟨_, same, isLinked, named⟩
      cases same
      exact ⟨d, held, linked ▸ isLinked, minor ▸ named⟩
    · intro isLinked
      obtain ⟨was, named⟩ := isLinked.held held
      exact ⟨d', rfl, linked.trans was, minor.trans named⟩
  · intro _ same isLinked
    cases same
    have was := linked ▸ isLinked
    obtain ⟨cleaned, cleaning⟩ := sound.uncleaned dev d held was
    exact ⟨(uncleaned was).1.trans cleaned, (uncleaned was).2.trans cleaning⟩

theorem UsbRegistry.Sound.unlinked {new : Option (PluggedDev P)} (sound : s.Sound minorEnd)
    (before : ∀ d, s.heap dev = some d → d.linked = false)
    (after : ∀ d, new = some d → d.linked = false) :
    { s with heap := Function.update s.heap dev new }.Sound minorEnd := by
  apply sound.update
  · intro minor
    constructor
    · rintro ⟨d, same, linked, _⟩
      rw [after d same] at linked
      cases linked
    · rintro ⟨d, held, linked, _⟩
      rw [before d held] at linked
      cases linked
  · intro d same linked
    rw [after d same] at linked
    cases linked

theorem UsbRegistry.Sound.cleanup (sound : s.Sound minorEnd)
    (settled : ∀ d, s.heap dev = some d → d.linked = true ∨ d.cleaned = true) :
    (pcanCleanupDev s dev true).Sound minorEnd := by
  cases held : s.heap dev with
  | none => simpa only [pcanCleanupDev, held] using sound
  | some d =>
    rcases settled d held with linked | cleaned
    · have uncleaned := sound.uncleaned dev d held linked
      have member := (sound.listed dev).mpr ⟨_, linked_minor held linked⟩
      have shorter := List.length_erase_of_mem member
      rw [pcanCleanupDev_linked held linked uncleaned]
      have still : ∀ dev' minor, UsbRegistry.Linked { s with
          heap := Function.update s.heap dev (some d.cleanedUp)
          devices := s.devices.erase dev
          wDeviceCount := s.wDeviceCount - 1
          usbDevices := s.usbDevices - 1 } dev' minor ↔ dev' ≠ dev ∧ s.Linked dev' minor := by
        intro dev' minor
        rw [linked_update rfl]
        simp
      constructor
      case nodup => exact sound.nodup.erase dev
      case listed =>
        intro dev'
        simp only [still, sound.nodup.mem_erase_iff, sound.listed dev', exists_and_left]
      case uncleaned =>
        intro dev' d' held' linked'
        rcases update_some.mp held' with ⟨_, new⟩ | ⟨_, old⟩
        · cases new
          cases linked'
        · exact sound.uncleaned dev' d' old linked'
      case counted =>
        simp only
        rw [shorter, sound.counted]
      case usbCounted =>
        simp only
        rw [shorter, sound.usbCounted]
      case minors =>
        intro x y minor first second
        exact sound.minors x y minor ((still x minor).mp first).2 ((still y minor).mp second).2
      case range =>
        intro x minor linked'
        exact sound.range x minor ((still x minor).mp linked').2
    · rw [pcanCleanupDev_again held cleaned]
      refine sound.replace held rfl rfl fun linked => ?_
      rw [(sound.uncleaned dev d held linked).1] at cleaned
      cases cleaned

end Devices

section Creation
variable {minorEnd : Int} {s : UsbRegistry P} {dev : Nat} {d : PluggedDev P} {c : PlugChannel}

theorem usbMinor_found (devices : List RegisteredDev) (few : devices.length ≤ 2 ^ 16)
    (small : minorEnd < 2 ^ 31 - 1) (dev : Nat) :
    ∃ minor, pcanFindFreeMinor devices (some dev) 32 minorEnd = some minor ∧
      (0 ≤ minor → 32 ≤ minor ∧ (32 < minorEnd → minor ≤ minorEnd) ∧
        minorUsed devices (some dev) minor = false) := by
  obtain ⟨m, least, near⟩ := leastFree_exists devices (some dev) 32
  have above := least.above
  by_cases inside : 32 < minorEnd → 32 < m → (m : Int) ≤ minorEnd
  · have found : pcanFindFreeMinor devices (some dev) 32 minorEnd = some (m : Int) :=
      findFreeMinor_found least near (by omega) inside
    exact ⟨m, found, fun _ => ⟨by omega, by omega, least.free⟩⟩
  · have exhausted : pcanFindFreeMinor devices (some dev) 32 minorEnd = some (-enodev) :=
      findFreeMinor_exhausted least near (by omega) (by omega) (by omega) small
    refine ⟨-enodev, exhausted, fun positive => ?_⟩
    unfold enodev at positive
    omega

def UsbRegistry.named (s : UsbRegistry P) (dev : Nat) (d : PluggedDev P) : UsbRegistry P :=
  { s with
    heap := Function.update s.heap dev (some d)
    devices := s.devices ++ [dev]
    wDeviceCount := s.wDeviceCount + 1
    usbDevices := s.usbDevices + 1 }

theorem cleanup_named (linked : d.linked = true)
    (uncleaned : d.cleaned = false ∧ d.cleaning = false) (unlisted : dev ∉ s.devices) :
    pcanCleanupDev (s.named dev d) dev true =
      { s with heap := Function.update s.heap dev (some d.cleanedUp) } := by
  have held : (s.named dev d).heap dev = some d := Function.update_self dev _ _
  rw [pcanCleanupDev_linked held linked uncleaned]
  simp only [UsbRegistry.named, Function.update_idem, Nat.add_sub_cancel,
    List.erase_append_right _ unlisted, List.erase_cons_head, List.append_nil]

theorem pcanUsbCreateDev_cases (sound : s.Sound minorEnd) (small : minorEnd < 2 ^ 31 - 1)
    (held : s.heap c.dev = some d) (unlinked : d.linked = false)
    (uncleaned : d.cleaned = false ∧ d.cleaning = false)
    (room : s.devices.length + 1 < 2 ^ 16) (granted : c.cleanupGranted = true) :
    (∃ minor : Nat, 32 ≤ minor ∧ (32 < minorEnd → (minor : Int) ≤ minorEnd) ∧
      (∀ dev, ¬s.Linked dev minor) ∧ pcanUsbCreateDev minorEnd s c =
        (s.named c.dev { d with linked := true, nMinor := minor }, 0)) ∨
    ∃ (err : Int) (d' : PluggedDev P), err ≠ 0 ∧ d'.serial = d.serial ∧
      pcanUsbCreateDev minorEnd s c =
        ({ s with heap := Function.update s.heap c.dev (some d'.cleanedUp) }, err) := by
  have unlisted : c.dev ∉ s.devices := fun listed => by
    obtain ⟨minor, linked⟩ := (sound.listed c.dev).mp listed
    rw [(linked.held held).1] at unlinked
    cases unlinked
  have added : { pcanAddDevInList s c.dev d with
      usbDevices := (pcanAddDevInList s c.dev d).usbDevices + 1 } =
        s.named c.dev { d with linked := true } := by
    simp only [pcanAddDevInList, UsbRegistry.setDev, UsbRegistry.named, sound.counted,
      Nat.mod_eq_of_lt room]
  have few : (s.named c.dev { d with linked := true }).registered.length ≤ 2 ^ 16 := by
    refine Nat.le_trans (List.length_filterMap_le _ _) ?_
    simp only [UsbRegistry.named, List.length_append, List.length_singleton]
    omega
  obtain ⟨minor, found, free⟩ := usbMinor_found _ few small c.dev
  unfold pcanUsbCreateDev
  simp only [held, added, found, granted]
  by_cases negative : minor < 0
  · have undone := cleanup_named (d := { d with linked := true }) rfl uncleaned unlisted
    exact .inr ⟨minor, { d with linked := true }, by omega, rfl, by rw [if_pos negative, undone]⟩
  · rw [if_neg negative]
    obtain ⟨above, below, unused⟩ := free (by omega)
    obtain ⟨m, rfl⟩ := Int.eq_ofNat_of_zero_le (by omega : 0 ≤ minor)
    have renamed : (s.named c.dev { d with linked := true }).setDev c.dev
        { d with linked := true, nMinor := (m : Int).toNat } =
          s.named c.dev { d with linked := true, nMinor := m } := by
      simp only [UsbRegistry.setDev, UsbRegistry.named, Function.update_idem, Int.toNat_natCast]
    rw [renamed]
    by_cases failed : c.initErr ≠ 0
    · have undone := cleanup_named (d := { d with linked := true, nMinor := m }) rfl uncleaned
        unlisted
      exact .inr ⟨c.initErr, { d with linked := true, nMinor := m }, failed, rfl,
        by rw [if_pos failed, undone]⟩
    · refine .inl ⟨m, by omega, below, fun dev linked => ?_, by rw [if_neg failed]⟩
      have other : dev ≠ c.dev := fun same => unlisted
        (same ▸ (sound.listed dev).mpr ⟨m, linked⟩)
      have used : minorUsed (s.named c.dev { d with linked := true }).registered (some c.dev) m =
          true := by
        obtain ⟨d', held', isLinked, same⟩ := linked
        refine (minorUsed_iff m).mpr ⟨⟨dev, m⟩, ?_, fun equal => other (Option.some.inj equal), rfl⟩
        refine List.mem_filterMap.mpr ⟨dev, List.mem_append_left _ ?_, ?_⟩
        · exact (sound.listed dev).mpr ⟨m, d', held', isLinked, same⟩
        · simp only [UsbRegistry.named, Function.update_of_ne other, held', Option.map_some, same]
      rw [used] at unused
      cases unused

theorem UsbRegistry.Sound.named (sound : s.Sound minorEnd) (held : s.heap dev = some d)
    (unlinked : d.linked = false) (d' : PluggedDev P) (linked : d'.linked = true)
    (uncleaned : d'.cleaned = false ∧ d'.cleaning = false)
    (range : 32 ≤ d'.nMinor ∧ (32 < minorEnd → (d'.nMinor : Int) ≤ minorEnd))
    (free : ∀ dev, ¬s.Linked dev d'.nMinor) : (s.named dev d').Sound minorEnd := by
  have unlisted : dev ∉ s.devices := fun listed => by
    obtain ⟨minor, isLinked⟩ := (sound.listed dev).mp listed
    rw [(isLinked.held held).1] at unlinked
    cases unlinked
  have now : ∀ dev' minor, (s.named dev d').Linked dev' minor ↔
      dev' = dev ∧ d'.nMinor = minor ∨ dev' ≠ dev ∧ s.Linked dev' minor := by
    intro dev' minor
    rw [linked_update rfl]
    simp [linked]
  have added : (s.named dev d').devices = s.devices ++ [dev] := rfl
  constructor
  case nodup =>
    rw [added, List.nodup_append]
    refine ⟨sound.nodup, List.nodup_singleton dev, fun x listed y new same => unlisted ?_⟩
    rw [← List.mem_singleton.mp new, ← same]
    exact listed
  case listed =>
    intro dev'
    simp only [added, List.mem_append, List.mem_singleton, sound.listed dev', now]
    constructor
    · rintro (⟨minor, isLinked⟩ | same)
      · have other : dev' ≠ dev := fun same => by
          rw [same] at isLinked
          rw [(isLinked.held held).1] at unlinked
          cases unlinked
        exact ⟨minor, .inr ⟨other, isLinked⟩⟩
      · exact ⟨d'.nMinor, .inl ⟨same, rfl⟩⟩
    · rintro ⟨minor, ⟨same, _⟩ | ⟨_, isLinked⟩⟩
      · exact .inr same
      · exact .inl ⟨minor, isLinked⟩
  case uncleaned =>
    intro dev' d'' held' isLinked
    rcases update_some.mp held' with ⟨_, same⟩ | ⟨_, old⟩
    · cases same
      exact uncleaned
    · exact sound.uncleaned dev' d'' old isLinked
  case counted =>
    rw [added, List.length_append, List.length_singleton, ← sound.counted]
    rfl
  case usbCounted =>
    rw [added, List.length_append, List.length_singleton, ← sound.usbCounted]
    rfl
  case minors =>
    intro x y minor first second
    rcases (now x minor).mp first with ⟨here, same⟩ | ⟨_, isLinked⟩
    · rcases (now y minor).mp second with ⟨here', _⟩ | ⟨_, isLinked'⟩
      · exact here.trans here'.symm
      · exact absurd isLinked' (same ▸ free y)
    · rcases (now y minor).mp second with ⟨_, same⟩ | ⟨_, isLinked'⟩
      · exact absurd isLinked (same ▸ free x)
      · exact sound.minors x y minor isLinked isLinked'
  case range =>
    intro x minor isLinked
    rcases (now x minor).mp isLinked with ⟨_, same⟩ | ⟨_, old⟩
    · exact same ▸ range
    · exact sound.range x minor old

end Creation

section Loops
variable {minorEnd : Int} {s s' s'' : UsbRegistry P} {dev : Nat} {d : PluggedDev P}

/-- What a call may do to the devices that there are: it frees some and cleans some, and the
    others keep what their files have made of them. -/
structure DevsContinue (s s' : UsbRegistry P) : Prop where
  devs : ∀ dev d', s'.heap dev = some d' → ∃ d, s.heap dev = some d ∧ d'.serial = d.serial ∧
    (d'.cleaned = false → d.cleaned = false ∧ d'.path = d.path ∧ d'.missed = d.missed)
  files : s'.files = s.files
  born : s'.born = s.born

theorem DevsContinue.refl (s : UsbRegistry P) : DevsContinue s s where
  devs _ d held := ⟨d, held, rfl, fun uncleaned => ⟨uncleaned, rfl, rfl⟩⟩
  files := rfl
  born := rfl

theorem DevsContinue.trans (first : DevsContinue s s') (second : DevsContinue s' s'') :
    DevsContinue s s'' where
  devs dev d'' held := by
    obtain ⟨d', held', serial', kept'⟩ := second.devs dev d'' held
    obtain ⟨d, held, serial, kept⟩ := first.devs dev d' held'
    refine ⟨d, held, serial'.trans serial, fun uncleaned => ?_⟩
    obtain ⟨uncleaned', path', missed'⟩ := kept' uncleaned
    obtain ⟨uncleaned, path, missed⟩ := kept uncleaned'
    exact ⟨uncleaned, path'.trans path, missed'.trans missed⟩
  files := second.files.trans first.files
  born := second.born.trans first.born

theorem DevsContinue.update {new : Option (PluggedDev P)}
    (heap : s'.heap = Function.update s.heap dev new)
    (kept : ∀ d', new = some d' → ∃ d, s.heap dev = some d ∧ d'.serial = d.serial ∧
      (d'.cleaned = false → d.cleaned = false ∧ d'.path = d.path ∧ d'.missed = d.missed))
    (files : s'.files = s.files) (born : s'.born = s.born) : DevsContinue s s' where
  devs dev' d' held := by
    rw [heap] at held
    rcases update_some.mp held with ⟨same, isNew⟩ | ⟨_, old⟩
    · exact same ▸ kept d' isNew
    · exact ⟨d', old, rfl, fun uncleaned => ⟨uncleaned, rfl, rfl⟩⟩
  files := files
  born := born

/-- A device that has been created: it is linked unless it has been cleaned. -/
def UsbRegistry.Settled (s : UsbRegistry P) (dev : Nat) : Prop :=
  ∀ d, s.heap dev = some d → d.linked = true ∨ d.cleaned = true

def UsbRegistry.Unlinked (s : UsbRegistry P) (dev : Nat) : Prop :=
  ∀ d, s.heap dev = some d → d.linked = false

/-- A device that has been allocated and is to be created. -/
def UsbRegistry.Pending (s : UsbRegistry P) (dev : Nat) : Prop :=
  ∃ d, s.heap dev = some d ∧ d.linked = false ∧ d.cleaned = false ∧ d.cleaning = false

theorem UsbRegistry.Pending.unlinked (pending : s.Pending dev) : s.Unlinked dev := by
  obtain ⟨d, held, unlinked, _⟩ := pending
  intro d' held'
  rw [held] at held'
  cases held'
  exact unlinked

/-- The devices `devs` have been worked on, and nothing was allocated or freed. -/
structure WorkedOn (minorEnd : Int) (s s' : UsbRegistry P) (devs : List Nat) : Prop where
  sound : s'.Sound minorEnd
  continues : DevsContinue s s'
  interfaces : s'.interfaces = s.interfaces
  present : ∀ dev, s.heap dev ≠ none → s'.heap dev ≠ none
  other : ∀ dev, dev ∉ devs → s'.heap dev = s.heap dev

theorem replaced_works {d' : PluggedDev P} (sound : s'.Sound minorEnd) (held : s.heap dev = some d)
    (heap : s'.heap = Function.update s.heap dev (some d')) (serial : d'.serial = d.serial)
    (cleaned : d'.cleaned = true) (interfaces : s'.interfaces = s.interfaces)
    (files : s'.files = s.files) (born : s'.born = s.born) : WorkedOn minorEnd s s' [dev] where
  sound := sound
  continues := by
    refine .update heap (fun d'' isNew => ?_) files born
    cases isNew
    refine ⟨d, held, serial, fun uncleaned => ?_⟩
    rw [cleaned] at uncleaned
    cases uncleaned
  interfaces := interfaces
  present x present := by
    rw [heap]
    by_cases same : x = dev
    · rw [same, Function.update_self]
      exact Option.some_ne_none d'
    · rw [Function.update_of_ne same]
      exact present
  other x other := by
    rw [heap, Function.update_of_ne fun same => other (List.mem_singleton.mpr same)]

theorem cleaned_after (sound : s.Sound minorEnd) (settled : s.Settled dev) :
    ∀ d, (pcanCleanupDev s dev true).heap dev = some d → d.linked = false ∧ d.cleaned = true := by
  intro d' held'
  cases held : s.heap dev with
  | none =>
    simp only [pcanCleanupDev, held] at held'
    cases held'
  | some d =>
    by_cases cleaned : d.cleaned = true
    · rw [pcanCleanupDev_again held cleaned] at held'
      obtain rfl := update_held rfl held'
      refine ⟨Bool.eq_false_iff.mpr fun linked => ?_, rfl⟩
      rw [(sound.uncleaned dev d held linked).1] at cleaned
      cases cleaned
    · have linked := (settled d held).resolve_right cleaned
      rw [pcanCleanupDev_linked held linked (sound.uncleaned dev d held linked)] at held'
      obtain rfl := update_held rfl held'
      exact ⟨rfl, rfl⟩

theorem cleanup_works (sound : s.Sound minorEnd) (settled : s.Settled dev) :
    WorkedOn minorEnd s (pcanCleanupDev s dev true) [dev] := by
  have sound' := sound.cleanup settled
  cases held : s.heap dev with
  | none =>
    have same : pcanCleanupDev s dev true = s := by simp only [pcanCleanupDev, held]
    rw [same]
    exact ⟨sound, .refl s, rfl, fun _ present => present, fun _ _ => rfl⟩
  | some d =>
    by_cases cleaned : d.cleaned = true
    · have same := pcanCleanupDev_again held cleaned true
      refine replaced_works sound' held ?_ markCleaned_serial markCleaned_cleaned ?_ ?_ ?_ <;>
        rw [same] <;> rfl
    · have linked := (settled d held).resolve_right cleaned
      have same := pcanCleanupDev_linked held linked (sound.uncleaned dev d held linked)
      refine replaced_works sound' held ?_ cleanedUp_serial cleanedUp_cleaned ?_ ?_ ?_ <;>
        rw [same]

theorem WorkedOn.trans {devs devs' : List Nat} (first : WorkedOn minorEnd s s' devs)
    (second : WorkedOn minorEnd s' s'' devs') : WorkedOn minorEnd s s'' (devs ++ devs') where
  sound := second.sound
  continues := first.continues.trans second.continues
  interfaces := second.interfaces.trans first.interfaces
  present dev present := second.present dev (first.present dev present)
  other dev outside := by
    rw [List.mem_append, not_or] at outside
    exact (second.other dev outside.2).trans (first.other dev outside.1)

theorem cleanupAll_works {channels : List PlugChannel} (sound : s.Sound minorEnd)
    (granted : ∀ c ∈ channels, c.cleanupGranted = true)
    (settled : ∀ c ∈ channels, s.Settled c.dev) :
    let cleaned := channels.foldl (fun s c => pcanCleanupDev s c.dev c.cleanupGranted) s
    WorkedOn minorEnd s cleaned (channels.map (·.dev)) ∧
      ∀ c ∈ channels, cleaned.Unlinked c.dev := by
  induction channels generalizing s with
  | nil =>
    exact ⟨⟨sound, .refl s, rfl, fun _ present => present, fun _ _ => rfl⟩,
      fun _ member => nomatch member⟩
  | cons c rest ih =>
    have worked := cleanup_works sound (settled c List.mem_cons_self)
    have done := cleaned_after sound (settled c List.mem_cons_self)
    have settled' : ∀ c' ∈ rest, (pcanCleanupDev s c.dev true).Settled c'.dev := by
      intro c' member d held
      by_cases same : c'.dev = c.dev
      · exact .inr (done d (same ▸ held)).2
      · rw [worked.other c'.dev (by simpa using same)] at held
        exact settled c' (List.mem_cons_of_mem c member) d held
    obtain ⟨later, unlinked⟩ := ih worked.sound
      (fun c' member => granted c' (List.mem_cons_of_mem c member)) settled'
    simp only [List.foldl_cons, granted c List.mem_cons_self, List.map_cons]
    refine ⟨worked.trans later, fun c' member => ?_⟩
    rcases List.mem_cons.mp member with rfl | member
    · by_cases again : c'.dev ∈ rest.map (·.dev)
      · obtain ⟨c'', member, same⟩ := List.mem_map.mp again
        exact same ▸ unlinked c'' member
      · intro d held
        rw [later.other c'.dev again] at held
        exact (done d held).1
    · exact unlinked c' member

/-- What `pcan_usb_plugin` has made of the devices of an interface when it is through with them. -/
structure CreatedAll (minorEnd : Int) (s : UsbRegistry P) (devs : List Nat)
    (made : UsbRegistry P × Int) : Prop where
  worked : WorkedOn minorEnd s made.1 devs
  settled : made.2 = 0 → ∀ dev ∈ devs, made.1.Settled dev
  unlinked : made.2 ≠ 0 → ∀ dev ∈ devs, made.1.Unlinked dev

/-- One device is created: it is settled, or it is unlinked again. -/
theorem create_works {c : PlugChannel} (sound : s.Sound minorEnd) (small : minorEnd < 2 ^ 31 - 1)
    (pending : s.Pending c.dev) (room : s.devices.length + 1 < 2 ^ 16)
    (granted : c.cleanupGranted = true) :
    CreatedAll minorEnd s [c.dev] (pcanUsbCreateDev minorEnd s c) ∧
      (pcanUsbCreateDev minorEnd s c).1.devices.length ≤ s.devices.length + 1 := by
  obtain ⟨d, held, unlinked, uncleaned⟩ := pending
  rcases pcanUsbCreateDev_cases sound small held unlinked uncleaned room granted with
    ⟨minor, above, below, free, made⟩ | ⟨err, d', failed, serial, made⟩
  · rw [made]
    have named := sound.named held unlinked { d with linked := true, nMinor := minor } rfl
      uncleaned ⟨above, below⟩ free
    refine ⟨⟨⟨named, ?_, rfl, ?_, ?_⟩, ?_, fun failed => absurd rfl failed⟩, ?_⟩
    · refine .update rfl (fun d' isNew => ?_) rfl rfl
      cases isNew
      exact ⟨d, held, rfl, fun _ => ⟨uncleaned.1, rfl, rfl⟩⟩
    · intro x present
      simp only [UsbRegistry.named, Function.update_apply]
      split
      · exact Option.some_ne_none _
      · exact present
    · intro x other
      exact Function.update_of_ne (fun same => other (List.mem_singleton.mpr same)) _ _
    · intro _ x member d' held'
      rw [List.mem_singleton.mp member] at held'
      obtain rfl := update_held rfl held'
      exact .inl rfl
    · simp [UsbRegistry.named]
  · rw [made]
    have gone : { s with
        heap := Function.update s.heap c.dev (some d'.cleanedUp) }.Sound minorEnd :=
      sound.unlinked (fun d'' held'' => by rw [held] at held''; cases held''; exact unlinked)
        (fun d'' isNew => by cases isNew; rfl)
    refine ⟨⟨replaced_works gone held rfl serial rfl rfl rfl rfl, fun none_ => absurd none_ failed,
      ?_⟩, Nat.le_succ _⟩
    intro _ x member d'' held''
    rw [List.mem_singleton.mp member] at held''
    obtain rfl := update_held rfl held''
    rfl

theorem createAll_works {channels : List PlugChannel} (created : List PlugChannel)
    (small : minorEnd < 2 ^ 31 - 1)
    (sound : s.Sound minorEnd) (granted : ∀ c ∈ created ++ channels, c.cleanupGranted = true)
    (settled : ∀ c ∈ created, s.Settled c.dev) (pending : ∀ c ∈ channels, s.Pending c.dev)
    (once : ((created ++ channels).map (·.dev)).Nodup)
    (room : s.devices.length + channels.length < 2 ^ 16) :
    CreatedAll minorEnd s ((created ++ channels).map (·.dev))
      (createUsbDevs minorEnd s created channels) := by
  induction channels generalizing s created with
  | nil =>
    refine ⟨⟨sound, .refl s, rfl, fun _ present => present, fun _ _ => rfl⟩, ?_,
      fun failed => absurd rfl failed⟩
    intro _ dev member
    obtain ⟨c, inside, rfl⟩ := List.mem_map.mp member
    rw [List.append_nil] at inside
    exact settled c inside
  | cons c rest ih =>
    have apart : ∀ c' ∈ created ++ rest, c'.dev ≠ c.dev := by
      intro c' member same
      have order : ((c :: (created ++ rest)).map (·.dev)).Nodup :=
        (List.perm_middle.map _).nodup_iff.mp once
      rw [List.map_cons, List.nodup_cons, ← same] at order
      exact order.1 (List.mem_map_of_mem member)
    obtain ⟨⟨worked, now, undone⟩, grown⟩ := create_works sound small
      (pending c (List.mem_cons_self)) (by rw [List.length_cons] at room; omega)
      (granted c (List.mem_append_right _ List.mem_cons_self))
    have same : ∀ c' ∈ created ++ rest,
        (pcanUsbCreateDev minorEnd s c).1.heap c'.dev = s.heap c'.dev := fun c' member =>
      worked.other c'.dev (by simpa using apart c' member)
    unfold createUsbDevs
    by_cases failed : (pcanUsbCreateDev minorEnd s c).2 ≠ 0
    · simp only [if_pos failed]
      obtain ⟨cleaned, unlinked⟩ := cleanupAll_works worked.sound
        (fun c' member => granted c' (List.mem_append_left _ member))
        (fun c' member d held => settled c' member d
          (same c' (List.mem_append_left _ member) ▸ held))
      refine ⟨⟨cleaned.sound, worked.continues.trans cleaned.continues,
        cleaned.interfaces.trans worked.interfaces,
        fun dev present => cleaned.present dev (worked.present dev present), ?_⟩,
        fun none_ => absurd none_ failed, ?_⟩
      · intro dev outside
        simp only [List.map_append, List.map_cons, List.mem_append, List.mem_cons, not_or]
          at outside
        rw [cleaned.other dev outside.1, worked.other dev (by simpa using outside.2.1)]
      · intro _ dev member
        obtain ⟨c', inside, rfl⟩ := List.mem_map.mp member
        rcases List.mem_append.mp inside with early | later
        · exact unlinked c' early
        · have outside : c'.dev ∉ created.map (·.dev) := by
            intro inside
            rw [List.map_append, List.nodup_append] at once
            exact once.2.2 _ inside _ (List.mem_map_of_mem later) rfl
          intro d held
          rw [cleaned.other c'.dev outside] at held
          rcases List.mem_cons.mp later with rfl | later
          · exact undone failed _ (List.mem_singleton_self _) d held
          · rw [same c' (List.mem_append_right _ later)] at held
            exact (pending c' (List.mem_cons_of_mem c later)).unlinked d held
    · simp only [if_neg failed]
      have order : ∀ x : Nat, x ∈ (c :: created ++ rest).map (·.dev) ↔
          x ∈ (created ++ c :: rest).map (·.dev) := fun x =>
        (List.perm_middle.map _).mem_iff.symm
      have later := ih (s := (pcanUsbCreateDev minorEnd s c).1) (c :: created) worked.sound
        (fun c' member => granted c' (List.perm_middle.mem_iff.mpr member))
        (by
          intro c' member
          rcases List.mem_cons.mp member with rfl | member
          · exact now (not_not.mp failed) _ (List.mem_singleton_self _)
          · intro d held
            rw [same c' (List.mem_append_left _ member)] at held
            exact settled c' member d held)
        (by
          intro c' member
          obtain ⟨d, held, rest_⟩ := pending c' (List.mem_cons_of_mem c member)
          exact ⟨d, (same c' (List.mem_append_right _ member)).trans held, rest_⟩)
        ((List.perm_middle.map _).nodup_iff.mp once)
        (by rw [List.length_cons] at room; omega)
      refine ⟨⟨later.worked.sound, worked.continues.trans later.worked.continues,
        later.worked.interfaces.trans worked.interfaces,
        fun dev present => later.worked.present dev (worked.present dev present), ?_⟩, ?_, ?_⟩
      · intro dev outside
        have outside' := fun inside => outside ((order dev).mp inside)
        rw [later.worked.other dev outside', worked.other dev]
        intro inside
        rw [List.mem_singleton.mp inside] at outside'
        exact outside' (by simp)
      · intro none_ dev member
        exact later.settled none_ dev ((order dev).mpr member)
      · intro some_ dev member
        exact later.unlinked some_ dev ((order dev).mpr member)

theorem freeAll_works {channels : List PlugChannel} (sound : s.Sound minorEnd)
    (unlinked : ∀ c ∈ channels, s.Unlinked c.dev) :
    (pcanUsbFreeInterface s channels).Sound minorEnd ∧
      DevsContinue s (pcanUsbFreeInterface s channels) ∧
      (pcanUsbFreeInterface s channels).interfaces = s.interfaces ∧
      ∀ dev, (pcanUsbFreeInterface s channels).heap dev =
        if dev ∈ channels.map (·.dev) then none else s.heap dev := by
  induction channels generalizing s with
  | nil => exact ⟨sound, .refl s, rfl, fun _ => (if_neg List.not_mem_nil).symm⟩
  | cons c rest ih =>
    have freed : freeUsbDev s c = { s with heap := Function.update s.heap c.dev none } := by
      cases held : s.heap c.dev with
      | none =>
        have same : Function.update s.heap c.dev none = s.heap := by
          rw [← held, Function.update_eq_self]
        simp only [freeUsbDev, held, same]
      | some d =>
        have off := unlinked c List.mem_cons_self d held
        simp only [freeUsbDev, held, pcanRemoveDevFromList, off, Bool.false_and,
          Bool.false_eq_true, if_false, UsbRegistry.setDev, Function.update_idem]
    obtain ⟨sound', continues, interfaces, heap⟩ := ih (s := freeUsbDev s c)
      (freed ▸ sound.unlinked (unlinked c List.mem_cons_self) (fun _ isNew => nomatch isNew))
      (by
        intro c' member d held
        rw [freed] at held
        rcases update_some.mp held with ⟨_, isNew⟩ | ⟨_, old⟩
        · cases isNew
        · exact unlinked c' (List.mem_cons_of_mem c member) d old)
    have first : DevsContinue s (freeUsbDev s c) := by
      rw [freed]
      exact .update rfl (fun _ isNew => nomatch isNew) rfl rfl
    have kept : (freeUsbDev s c).interfaces = s.interfaces := by rw [freed]
    refine ⟨sound', first.trans continues, interfaces.trans kept, fun dev => ?_⟩
    rw [pcanUsbFreeInterface, List.foldl_cons, ← pcanUsbFreeInterface, heap, freed]
    simp only [Function.update_apply, List.map_cons, List.mem_cons]
    by_cases here : dev = c.dev
    · simp [here]
    · simp [here]

theorem allocAll_works (env : PluginEnv P) {channels : List PlugChannel} (sound : s.Sound minorEnd)
    (fresh : ∀ c ∈ channels, s.heap c.dev = none) (once : (channels.map (·.dev)).Nodup) :
    (allocUsbDevs env s channels).Sound minorEnd ∧
      (∀ c ∈ channels, (allocUsbDevs env s channels).Pending c.dev) ∧
      (∀ dev, dev ∉ channels.map (·.dev) →
        (allocUsbDevs env s channels).heap dev = s.heap dev) ∧
      (allocUsbDevs env s channels).devices = s.devices ∧
      (allocUsbDevs env s channels).interfaces = s.interfaces := by
  induction channels generalizing s with
  | nil =>
    refine ⟨sound, fun c member => ?_, fun _ _ => rfl, rfl, rfl⟩
    cases member
  | cons c rest ih =>
    rw [List.map_cons, List.nodup_cons] at once
    obtain ⟨first, once⟩ := once
    have apart : ∀ c' ∈ rest, c'.dev ≠ c.dev := fun c' member same =>
      first (same ▸ List.mem_map_of_mem member)
    have off : ∀ d, s.heap c.dev = some d → d.linked = false := fun d held => by
      rw [fresh c List.mem_cons_self] at held
      cases held
    have allocated := sound.unlinked off
      (fun d (isNew : some (newPluggedDev env.path s.born) = some d) => by cases isNew; rfl)
    obtain ⟨sound', pending, other, devices, interfaces⟩ := ih
      (s := { s.setDev c.dev (newPluggedDev env.path s.born) with born := s.born + 1 })
      (allocated.frame rfl rfl rfl rfl)
      (fun c' member => (Function.update_of_ne (apart c' member) _ _).trans
        (fresh c' (List.mem_cons_of_mem c member)))
      once
    refine ⟨sound', fun c' member => ?_, fun dev outside => ?_, devices, interfaces⟩
    · rcases List.mem_cons.mp member with rfl | member
      · exact ⟨newPluggedDev env.path s.born,
          (other c'.dev first).trans (Function.update_self _ _ _), rfl, rfl, rfl⟩
      · exact pending c' member
    · rw [List.map_cons, List.mem_cons, not_or] at outside
      exact (other dev outside.2).trans (Function.update_of_ne outside.1 _ _)

end Loops

section Calls
variable {minorEnd : Int} {s s' : UsbRegistry P}

/-- What a call of `pcan_usb_plugin` comes to: an adapter that is not plugged in leaves no device
    behind, of one that is plugged in all devices are there. -/
structure PluginOutcome (minorEnd : Int) (s : UsbRegistry P) (intf : Nat)
    (channels : List PlugChannel) (env : PluginEnv P) (s' : UsbRegistry P) : Prop where
  sound : s'.Sound minorEnd
  continues : ∃ cs : List PlugChannel, (∀ c ∈ cs, c ∈ channels) ∧
    DevsContinue (allocUsbDevs env s cs) s'
  result : s'.heap = s.heap ∧ s'.interfaces = s.interfaces ∨
    s'.interfaces = Function.update s.interfaces intf (some (channels.map (·.dev))) ∧
      (∀ dev, dev ∉ channels.map (·.dev) → s'.heap dev = s.heap dev) ∧
      ∀ dev ∈ channels.map (·.dev), s'.heap dev ≠ none ∧ s'.Settled dev

theorem plugin_undone {intf : Nat} {channels cs : List PlugChannel} {env : PluginEnv P}
    (among : ∀ c ∈ cs, c ∈ channels)
    (fresh : ∀ c ∈ cs, s.heap c.dev = none) (sound : s'.Sound minorEnd)
    (continues : DevsContinue (allocUsbDevs env s cs) s') (unlinked : ∀ c ∈ cs, s'.Unlinked c.dev)
    (other : ∀ dev, dev ∉ cs.map (·.dev) → s'.heap dev = s.heap dev)
    (interfaces : s'.interfaces = s.interfaces) :
    PluginOutcome minorEnd s intf channels env (pcanUsbFreeInterface s' cs) := by
  obtain ⟨sound', later, interfaces', heap⟩ := freeAll_works sound unlinked
  refine ⟨sound', ⟨cs, among, continues.trans later⟩,
    .inl ⟨funext fun dev => ?_, interfaces'.trans interfaces⟩⟩
  rw [heap]
  by_cases inside : dev ∈ cs.map (·.dev)
  · rw [if_pos inside]
    obtain ⟨c, member, rfl⟩ := List.mem_map.mp inside
    exact (fresh c member).symm
  · rw [if_neg inside, other dev inside]

theorem plugin_outcome (small : minorEnd < 2 ^ 31 - 1) (sound : s.Sound minorEnd) {intf : Nat}
    {channels : List PlugChannel} {env : PluginEnv P}
    (allowed : UsbAllowed s (.plugin intf channels env)) :
    PluginOutcome minorEnd s intf channels env (pcanUsbPlugin minorEnd s intf channels env).1 := by
  obtain ⟨_, once, fresh, room, _⟩ := allowed
  have free : ∀ c ∈ channels, s.heap c.dev = none := fun c member => (fresh c member).1
  unfold pcanUsbPlugin
  by_cases rejected : env.rejected ≠ 0
  · rw [if_pos rejected]
    refine ⟨sound, ⟨[], fun c member => ?_, .refl s⟩, .inl ⟨rfl, rfl⟩⟩
    cases member
  rw [if_neg rejected]
  by_cases short : env.memory < channels.length
  · simp only [if_pos short]
    have part : (channels.take env.memory).Sublist channels := List.take_sublist _ _
    obtain ⟨ready, pending, other, _, interfaces⟩ := allocAll_works env sound
      (fun c member => free c (part.subset member)) (once.sublist (part.map _))
    exact plugin_undone (fun c member => part.subset member)
      (fun c member => free c (part.subset member)) ready (.refl _)
      (fun c member => (pending c member).unlinked) other interfaces
  simp only [if_neg short, List.take_of_length_le (Nat.not_lt.mp short)]
  obtain ⟨ready, pending, other, devices, interfaces⟩ := allocAll_works env sound free once
  by_cases setup : env.setup ≠ 0
  · rw [if_pos setup]
    exact plugin_undone (fun _ member => member) free ready (.refl _)
      (fun c member => (pending c member).unlinked) other interfaces
  rw [if_neg setup]
  obtain ⟨worked, settled, unlinked⟩ := createAll_works [] small ready
    (fun c member => (fresh c member).2) (fun _ member => nomatch member) pending once
    (devices.symm ▸ room)
  rw [List.nil_append] at worked settled unlinked
  have elsewhere : ∀ dev, dev ∉ channels.map (·.dev) →
      (createUsbDevs minorEnd (allocUsbDevs env s channels) [] channels).1.heap dev = s.heap dev :=
    fun dev outside => (worked.other dev outside).trans (other dev outside)
  by_cases failed : (createUsbDevs minorEnd (allocUsbDevs env s channels) [] channels).2 ≠ 0
  · rw [if_pos failed]
    exact plugin_undone (fun _ member => member) free worked.sound worked.continues
      (fun c member => unlinked failed c.dev (List.mem_map_of_mem member)) elsewhere
      (worked.interfaces.trans interfaces)
  · rw [if_neg failed]
    refine ⟨worked.sound.frame rfl rfl rfl rfl,
      ⟨channels, fun _ member => member, worked.continues.devs, worked.continues.files,
        worked.continues.born⟩, .inr ⟨?_, elsewhere, ?_⟩⟩
    · simp only [worked.interfaces, interfaces]
    · intro dev member
      refine ⟨worked.present dev ?_, settled (not_not.mp failed) dev member⟩
      obtain ⟨c, inside, rfl⟩ := List.mem_map.mp member
      obtain ⟨d, held, _⟩ := pending c inside
      rw [held]
      exact Option.some_ne_none d

theorem plugin_owned (owned : s.Owned) {intf : Nat} (unbound : s.interfaces intf = none)
    {devs : List Nat} (once : devs.Nodup) (fresh : ∀ dev ∈ devs, s.heap dev = none)
    (interfaces : s'.interfaces = Function.update s.interfaces intf (some devs))
    (other : ∀ dev, dev ∉ devs → s'.heap dev = s.heap dev)
    (made : ∀ dev ∈ devs, s'.heap dev ≠ none ∧ s'.Settled dev) : s'.Owned := by
  have bound : ∀ intf' devs', s'.interfaces intf' = some devs' ↔
      intf' = intf ∧ devs' = devs ∨ intf' ≠ intf ∧ s.interfaces intf' = some devs' := by
    intro intf' devs'
    rw [interfaces]
    by_cases same : intf' = intf
    · rw [same, Function.update_self]
      simp [eq_comm]
    · rw [Function.update_of_ne same]
      simp [same]
  have elsewhere : ∀ intf' devs' dev, s.interfaces intf' = some devs' → dev ∈ devs' →
      dev ∉ devs := by
    intro intf' devs' dev old member inside
    exact (owned.bound dev).mpr ⟨intf', devs', old, member⟩ (fresh dev inside)
  constructor
  case bound =>
    intro dev
    by_cases inside : dev ∈ devs
    · exact ⟨fun _ => ⟨intf, devs, (bound intf devs).mpr (.inl ⟨rfl, rfl⟩), inside⟩,
        fun _ => (made dev inside).1⟩
    · rw [other dev inside, owned.bound]
      constructor
      · rintro ⟨intf', devs', old, member⟩
        refine ⟨intf', devs', (bound intf' devs').mpr (.inr ⟨fun same => ?_, old⟩), member⟩
        rw [same, unbound] at old
        cases old
      · rintro ⟨intf', devs', now, member⟩
        rcases (bound intf' devs').mp now with ⟨_, rfl⟩ | ⟨_, old⟩
        · exact absurd member inside
        · exact ⟨intf', devs', old, member⟩
  case apart =>
    intro dev i j devs' devs'' first member second member'
    rcases (bound i devs').mp first with ⟨here, rfl⟩ | ⟨_, old⟩
    · rcases (bound j devs'').mp second with ⟨here', _⟩ | ⟨_, old'⟩
      · exact here.trans here'.symm
      · exact absurd member (elsewhere j devs'' dev old' member')
    · rcases (bound j devs'').mp second with ⟨_, rfl⟩ | ⟨_, old'⟩
      · exact absurd member' (elsewhere i devs' dev old member)
      · exact owned.apart dev i j devs' devs'' old member old' member'
  case once =>
    intro intf' devs' now
    rcases (bound intf' devs').mp now with ⟨_, rfl⟩ | ⟨_, old⟩
    · exact once
    · exact owned.once intf' devs' old
  case settled =>
    intro dev d held
    by_cases inside : dev ∈ devs
    · exact (made dev inside).2 d held
    · rw [other dev inside] at held
      exact owned.settled dev d held

theorem plugout_owned (owned : s.Owned) {intf : Nat} {devs : List Nat}
    (bound : s.interfaces intf = some devs)
    (interfaces : s'.interfaces = Function.update s.interfaces intf none)
    (heap : ∀ dev, s'.heap dev = if dev ∈ devs then none else s.heap dev) : s'.Owned := by
  have after : ∀ intf' devs', s'.interfaces intf' = some devs' ↔
      intf' ≠ intf ∧ s.interfaces intf' = some devs' := by
    intro intf' devs'
    rw [interfaces]
    by_cases same : intf' = intf
    · rw [same, Function.update_self]
      simp
    · rw [Function.update_of_ne same]
      simp [same]
  constructor
  case bound =>
    intro dev
    rw [heap]
    by_cases inside : dev ∈ devs
    · rw [if_pos inside]
      simp only [ne_eq, not_true, false_iff, not_exists, not_and]
      intro intf' devs' now member
      obtain ⟨other, old⟩ := (after intf' devs').mp now
      exact other (owned.apart dev intf' intf devs' devs old member bound inside)
    · rw [if_neg inside, owned.bound dev]
      constructor
      · rintro ⟨intf', devs', old, member⟩
        refine ⟨intf', devs', (after intf' devs').mpr ⟨fun same => inside ?_, old⟩, member⟩
        rw [same, bound] at old
        cases old
        exact member
      · rintro ⟨intf', devs', now, member⟩
        exact ⟨intf', devs', ((after intf' devs').mp now).2, member⟩
  case apart =>
    intro dev i j devs' devs'' first member second member'
    exact owned.apart dev i j devs' devs'' ((after i devs').mp first).2 member
      ((after j devs'').mp second).2 member'
  case once =>
    intro intf' devs' now
    exact owned.once intf' devs' ((after intf' devs').mp now).2
  case settled =>
    intro dev d held
    rw [heap] at held
    split at held
    next inside => cases held
    next outside => exact owned.settled dev d held

theorem plugout_works (sound : s.Sound minorEnd) (owned : s.Owned) {intf : Nat} {devs : List Nat}
    (bound : s.interfaces intf = some devs) {lock : Nat → Bool × Bool}
    (granted : ∀ dev ∈ devs, (lock dev).1 = true) :
    (pcanUsbPlugout s intf lock).Sound minorEnd ∧
      DevsContinue s (pcanUsbPlugout s intf lock) ∧
      (pcanUsbPlugout s intf lock).interfaces = Function.update s.interfaces intf none ∧
      ∀ dev, (pcanUsbPlugout s intf lock).heap dev = if dev ∈ devs then none else s.heap dev := by
  have names : (devs.map fun dev => (⟨dev, 0, (lock dev).1, (lock dev).2⟩ : PlugChannel)).map
      (·.dev) = devs :=
    (List.map_map ..).trans (List.map_id' devs)
  obtain ⟨worked, unlinked⟩ := @cleanupAll_works _ minorEnd
    { s with interfaces := Function.update s.interfaces intf none }
    (devs.map fun dev => ⟨dev, 0, (lock dev).1, (lock dev).2⟩) (sound.frame rfl rfl rfl rfl)
    (fun c member => by
      obtain ⟨dev, inside, rfl⟩ := List.mem_map.mp member
      exact granted dev inside)
    (fun c _ d held => owned.settled c.dev d held)
  obtain ⟨sound', continues, interfaces, heap⟩ := freeAll_works worked.sound unlinked
  rw [names] at heap worked
  have both := worked.continues.trans continues
  unfold pcanUsbPlugout
  simp only [bound]
  refine ⟨sound', ⟨both.devs, both.files, both.born⟩, interfaces.trans worked.interfaces,
    fun dev => ?_⟩
  rw [heap]
  by_cases inside : dev ∈ devs
  · rw [if_pos inside, if_pos inside]
  · rw [if_neg inside, if_neg inside, worked.other dev inside]

theorem plugout_keeps (sound : s.Sound minorEnd) (owned : s.Owned) {intf : Nat}
    {lock : Nat → Bool × Bool} (granted : UsbAllowed s (.plugout intf lock)) :
    (pcanUsbPlugout s intf lock).Sound minorEnd ∧ (pcanUsbPlugout s intf lock).Owned := by
  cases bound : s.interfaces intf with
  | none =>
    have same : pcanUsbPlugout s intf lock = s := by simp only [pcanUsbPlugout, bound]
    rw [same]
    exact ⟨sound, owned⟩
  | some devs =>
    have lockFree : ∀ dev ∈ devs, (lock dev).1 = true := fun dev inside =>
      granted dev (by rw [bound]; exact inside)
    obtain ⟨sound', _, interfaces, heap⟩ := plugout_works sound owned bound lockFree
    exact ⟨sound', plugout_owned owned bound interfaces heap⟩

theorem UsbRegistry.Owned.keep (owned : s.Owned) (interfaces : s'.interfaces = s.interfaces)
    (present : ∀ dev, s'.heap dev ≠ none ↔ s.heap dev ≠ none) (settled : ∀ dev, s'.Settled dev) :
    s'.Owned where
  bound dev := by
    rw [present, interfaces]
    exact owned.bound dev
  apart := by
    rw [interfaces]
    exact owned.apart
  once := by
    rw [interfaces]
    exact owned.once
  settled := settled

theorem setDev_keeps {dev : Nat} {d : PluggedDev P} (d' : PluggedDev P)
    (sound : s.Sound minorEnd) (owned : s.Owned)
    (held : s.heap dev = some d) (linked : d'.linked = d.linked) (minor : d'.nMinor = d.nMinor)
    (cleaned : d'.cleaned = d.cleaned) (cleaning : d'.cleaning = d.cleaning) :
    (s.setDev dev d').Sound minorEnd ∧ (s.setDev dev d').Owned := by
  refine ⟨sound.replace held linked minor fun _ => ⟨cleaned, cleaning⟩, owned.keep rfl ?_ ?_⟩
  · intro x
    simp only [UsbRegistry.setDev, Function.update_apply]
    split
    next same => simp [same, held]
    next => rfl
  · intro x d'' held'
    rcases update_some.mp held' with ⟨_, isNew⟩ | ⟨_, old⟩
    · cases isNew
      rw [linked, cleaned]
      exact owned.settled dev d held
    · exact owned.settled x d'' old

theorem cleanup_keeps {dev : Nat} (sound : s.Sound minorEnd) (owned : s.Owned) :
    (pcanCleanupDev s dev true).Sound minorEnd ∧ (pcanCleanupDev s dev true).Owned := by
  have settled : s.Settled dev := owned.settled dev
  have worked := cleanup_works sound settled
  refine ⟨worked.sound, owned.keep worked.interfaces (fun x => ⟨fun present => ?_,
    worked.present x⟩) fun x d held => ?_⟩
  · obtain ⟨d', held⟩ := Option.ne_none_iff_exists'.mp present
    obtain ⟨d, held', _⟩ := worked.continues.devs x d' held
    rw [held']
    exact Option.some_ne_none d
  · by_cases same : x = dev
    · exact .inr (cleaned_after sound settled d (same ▸ held)).2
    · rw [worked.other x (by simpa using same)] at held
      exact owned.settled x d held

theorem disconnected_keeps (sound : s.Sound minorEnd) (owned : s.Owned) (devs : List Nat) :
    (usbDisconnected s devs).Sound minorEnd ∧ (usbDisconnected s devs).Owned := by
  induction devs generalizing s with
  | nil => exact ⟨sound, owned⟩
  | cons dev rest ih =>
    unfold usbDisconnected
    rw [List.foldl_cons]
    cases held : s.heap dev with
    | none => exact ih sound owned
    | some d =>
      obtain ⟨sound', owned'⟩ := setDev_keeps (d.setPlugged false) sound owned held rfl rfl rfl
        rfl
      exact ih sound' owned'

theorem open_keeps (sound : s.Sound minorEnd) (owned : s.Owned) (fd minor : Nat) (memory : Bool)
    (env : OpenEnv P) : (pcanOpen s fd minor memory env).1.Sound minorEnd ∧
      (pcanOpen s fd minor memory env).1.Owned := by
  unfold pcanOpen
  cases pcanSearchDev s minor with
  | none => exact ⟨sound, owned⟩
  | some dev =>
    cases held : s.heap dev with
    | none =>
      simp only [held]
      exact ⟨sound, owned⟩
    | some d =>
      simp only [held]
      by_cases room : memory = true
      · obtain ⟨sound', owned'⟩ := setDev_keeps
          { d with path := (pathStep usbInterface d.path (.openPath env)).1 }
          sound owned held rfl rfl rfl rfl
        rw [if_pos room]
        by_cases opened : (pathStep usbInterface d.path (.openPath env)).2 = 0
        · simp only [if_pos opened]
          exact ⟨sound'.frame rfl rfl rfl rfl,
            owned'.keep rfl (fun _ => Iff.rfl) owned'.settled⟩
        · simp only [if_neg opened]
          exact ⟨sound', owned'⟩
      · rw [if_neg room]
        exact ⟨sound, owned⟩

theorem releaseUsbDev_keeps {dev : Nat} {d : PluggedDev P} (sound : s.Sound minorEnd)
    (owned : s.Owned) (held : s.heap dev = some d) (env : ReleaseEnv P) :
    (releaseUsbDev s dev d env true).Sound minorEnd ∧ (releaseUsbDev s dev d env true).Owned := by
  obtain ⟨sound', owned'⟩ := setDev_keeps
    { d with path := (pathStep usbInterface d.path (.releasePath env)).1 }
    sound owned held rfl rfl rfl rfl
  simp only [releaseUsbDev]
  split
  next => exact cleanup_keeps sound' owned'
  next => exact ⟨sound', owned'⟩

theorem release_keeps (sound : s.Sound minorEnd) (owned : s.Owned) (file : UsbFile)
    (env : ReleaseEnv P) :
    (pcanRelease s file env true).Sound minorEnd ∧ (pcanRelease s file env true).Owned := by
  have closed : { s with files := s.files.erase file }.Sound minorEnd :=
    sound.frame rfl rfl rfl rfl
  have closed' : { s with files := s.files.erase file }.Owned :=
    owned.keep rfl (fun _ => Iff.rfl) owned.settled
  unfold pcanRelease
  cases held : s.heap file.dev with
  | none =>
    simp only [held]
    exact ⟨closed, closed'⟩
  | some d =>
    simp only [held]
    split
    next => exact releaseUsbDev_keeps closed closed' held env
    next =>
      split
      next =>
        exact setDev_keeps { d with missed := d.missed + 1 } closed closed' held rfl rfl rfl rfl
      next => exact ⟨closed, closed'⟩

theorem usbRegistryStep_keeps (small : minorEnd < 2 ^ 31 - 1) (s : UsbRegistry P)
    (event : UsbEvent P) (kept : s.Sound minorEnd ∧ s.Owned) (allowed : UsbAllowed s event) :
    (usbRegistryStep minorEnd s event).1.Sound minorEnd ∧
      (usbRegistryStep minorEnd s event).1.Owned := by
  obtain ⟨sound, owned⟩ := kept
  cases event with
  | plugin intf channels env =>
    obtain ⟨sound', _, ⟨heap, interfaces⟩ | ⟨interfaces, other, made⟩⟩ :=
      plugin_outcome small sound allowed
    · refine ⟨sound', owned.keep interfaces (fun dev => ?_) fun dev d held => ?_⟩
      · rw [usbRegistryStep, heap]
      · rw [usbRegistryStep, heap] at held
        exact owned.settled dev d held
    · obtain ⟨unbound, once, fresh, _⟩ := allowed
      refine ⟨sound', plugin_owned owned unbound once (fun dev member => ?_) interfaces other made⟩
      obtain ⟨c, inside, rfl⟩ := List.mem_map.mp member
      exact (fresh c inside).1
  | plugout intf lock => exact plugout_keeps sound owned allowed
  | disconnected devs => exact disconnected_keeps sound owned devs
  | openFile fd minor memory env => exact open_keeps sound owned fd minor memory env
  | access file => exact ⟨sound, owned⟩
  | release file env granted =>
    obtain ⟨_, rfl⟩ := allowed
    exact release_keeps sound owned file env

theorem loaded_sound : (UsbRegistry.loaded : UsbRegistry P).Sound minorEnd := by
  have none_ : ∀ dev minor, ¬(UsbRegistry.loaded : UsbRegistry P).Linked dev minor := by
    rintro dev minor ⟨d, held, _⟩
    cases held
  constructor
  case nodup => exact List.nodup_nil
  case listed =>
    intro dev
    exact ⟨fun listed => (nomatch listed), fun ⟨minor, linked⟩ => absurd linked (none_ dev minor)⟩
  case uncleaned =>
    intro dev d held
    cases held
  case counted => rfl
  case usbCounted => rfl
  case minors =>
    intro dev dev' minor linked
    exact absurd linked (none_ dev minor)
  case range =>
    intro dev minor linked
    exact absurd linked (none_ dev minor)

theorem loaded_owned : (UsbRegistry.loaded : UsbRegistry P).Owned where
  bound dev := by simp [UsbRegistry.loaded]
  apart dev i j devs devs' bound := by cases bound
  once i devs bound := by cases bound
  settled dev d held := by cases held

/-- Whatever adapters are plugged in and out, and whichever of them fail to, the list of the driver
    holds the devices of those that are plugged in. -/
theorem usb_registry_lists_plugged (minorEnd : Int) (small : minorEnd < 2 ^ 31 - 1)
    (events : List (UsbEvent P))
    (allowed : Admitted UsbAllowed (usbRegistryStep minorEnd) .loaded events) :
    ∀ s ∈ states (usbRegistryStep minorEnd) .loaded events, s.Sound minorEnd ∧ s.Owned :=
  states_invariant (usbRegistryStep_keeps small) ⟨loaded_sound, loaded_owned⟩ allowed

end Calls

section Samples

def pluggedIn : PluginEnv Unit := ⟨0, 2, 0, unopenedPath⟩

/-- The second channel fails at first; the adapter is in use when it is plugged out. -/
def usbHistory : List (UsbEvent Unit) :=
  [.plugin 0 [⟨100, 0, true, true⟩, ⟨200, -eio, true, true⟩] pluggedIn,
    .plugin 0 [⟨100, 0, true, true⟩, ⟨200, 0, true, true⟩] pluggedIn,
    .openFile 7 33 true grantedOpen, .access ⟨7, 200, 3⟩, .plugout 0 fun _ => (true, true),
    .plugin 1 [⟨300, 0, true, true⟩] pluggedIn, .release ⟨7, 200, 3⟩ grantedRelease true]

theorem usb_registry_lists_plugged_sample :
    let left := (run (usbRegistryStep 63) .loaded usbHistory).1
    left.devices = [300] ∧ left.Sound 63 ∧ left.Owned :=
  ⟨by decide +kernel, usb_registry_lists_plugged 63 (by decide) usbHistory (by decide +kernel) _
    (final_state_mem ..)⟩

example : (states (usbRegistryStep 63) .loaded usbHistory).map (·.devices) =
    [[], [], [100, 200], [100, 200], [100, 200], [], [300], [300]] := by decide +kernel

end Samples

end PcanDriver

import Mathlib.Data.List.Nodup
import PcanDriver.Lib.CountingScan
import PcanDriver.Types

/-!
Handles of PCAN-Basic (`pcbcore.c`). Plug-and-play devices are counted in the order in which
they were discovered, each hardware category by itself: `pcanbasic_get_device` counts up to
the number that a handle stands for, `pcanbasic_get_handle` makes a handle of the number that
a device has.
-/
namespace PcanDriver

section Source

inductive PcaninfoHw where
  | none
  | peakcan
  | isa
  | dng
  | pci
  | usb
  | pcc
  | virtual
  | lan
deriving Repr, DecidableEq

def pcaninfoFlagInitialized : U32 := 0x00000001

structure Pcaninfo where
  path : String
  availflag : U32
  base : U32
  nomBitrate : U32
  btr0btr1 : U32
  dataBitrate : U32
  hwtype : U32
  irq : U32
  busState : U32
  hwcategory : PcaninfoHw
deriving Repr, DecidableEq

def pcanNonebus : U16 := 0x00
def pcanIsabus1 : U16 := 0x21
def pcanIsabus6 : U16 := 0x26
def pcanDngbus1 : U16 := 0x31
def pcanPcibus1 : U16 := 0x41
def pcanPcibus8 : U16 := 0x48
def pcanPcibus9 : U16 := 0x409
def pcanPcibus16 : U16 := 0x410
def pcanUsbbus1 : U16 := 0x51
def pcanUsbbus8 : U16 := 0x58
def pcanUsbbus9 : U16 := 0x509
def pcanUsbbus16 : U16 := 0x510
def pcanPccbus1 : U16 := 0x61
def pcanPccbus2 : U16 := 0x62
def pcanLanbus1 : U16 := 0x801
def pcanLanbus16 : U16 := 0x810

/-- Consecutive cases of the switch; `number` is that of the first channel. -/
structure BusRange where
  hw : PcaninfoHw
  first : U16
  last : U16
  number : Nat

def busRanges : List BusRange :=
  [⟨.isa, pcanIsabus1, pcanIsabus6, 1⟩,
   ⟨.dng, pcanDngbus1, pcanDngbus1, 1⟩,
   ⟨.usb, pcanUsbbus1, pcanUsbbus8, 1⟩,
   ⟨.usb, pcanUsbbus9, pcanUsbbus16, 9⟩,
   ⟨.pcc, pcanPccbus1, pcanPccbus2, 1⟩,
   ⟨.pci, pcanPcibus1, pcanPcibus8, 1⟩,
   ⟨.pci, pcanPcibus9, pcanPcibus16, 9⟩,
   ⟨.lan, pcanLanbus1, pcanLanbus16, 1⟩]

def BusRange.index (range : BusRange) (channel : U16) : Option (PcaninfoHw × Nat) :=
  if range.first ≤ channel ∧ channel ≤ range.last then
    some (range.hw, (channel - range.first).toNat + range.number)
  else none

def pcanbasicGetHw (channel : U16) : PcaninfoHw × Nat :=
  (busRanges.findSome? (·.index channel)).getD (.none, 0)

def matchingDevice (devices : List Pcaninfo) (channel : U16) (hwtype base irq : U32) :
    Option Pcaninfo :=
  match pcanbasicGetHw channel with
  | (.dng, _) | (.isa, _) =>
    devices.find? fun pinfo => pinfo.hwtype = hwtype ∧ pinfo.base = base ∧ pinfo.irq = irq
  | (hw, index) => CountingScan.nth (·.hwcategory = hw) index 0 devices

/-- The list that is known is used unless it is too old by now: then `refreshed` is the list
    that replaces it. -/
def pcanbasicGetDevice (refreshed : Option (List Pcaninfo)) (known : List Pcaninfo) (channel : U16)
    (hwtype base irq : U32) : List Pcaninfo × Option Pcaninfo :=
  let devices := refreshed.getD known
  (devices, matchingDevice devices channel hwtype base irq)

/-- The handle of the device with number `count` of a category. The sum is stored in a `WORD`. -/
def numberedHandle (hwcategory : PcaninfoHw) (count : Nat) : U16 :=
  match hwcategory with
  | .dng => pcanDngbus1 - 1 + BitVec.ofNat 16 count
  | .isa => pcanIsabus1 - 1 + BitVec.ofNat 16 count
  | .pcc => pcanPccbus1 - 1 + BitVec.ofNat 16 count
  | .pci =>
    if count < 9 then pcanPcibus1 - 1 + BitVec.ofNat 16 count
    else pcanPcibus9 - 9 + BitVec.ofNat 16 count
  | .usb =>
    if count < 9 then pcanUsbbus1 - 1 + BitVec.ofNat 16 count
    else pcanUsbbus9 - 9 + BitVec.ofNat 16 count
  | .lan => pcanLanbus1 - 1 + BitVec.ofNat 16 count
  | .peakcan | .virtual | .none => pcanNonebus

def Pcaninfo.initialized (pci : Pcaninfo) : Prop := pci.availflag &&& pcaninfoFlagInitialized ≠ 0

instance (pci : Pcaninfo) : Decidable pci.initialized := inferInstanceAs (Decidable (_ ≠ _))

/-- What the loop sees of an entry; `update` reads the device's attributes. -/
def loadedInfo (update : Pcaninfo → Pcaninfo) (pci : Pcaninfo) : Pcaninfo :=
  if pci.initialized then pci else update pci

/-- `scanned` is what `pcaninfo_get` finds, if it is called and succeeds. -/
def pcanbasicGetHandle (update : Pcaninfo → Pcaninfo) (scanned : Option (List Pcaninfo))
    (device : Option String) (plist : Option (List Pcaninfo)) : U16 :=
  match device, plist.or scanned with
  | some device, some pcil =>
    match CountingScan.ordinal (·.hwcategory) (·.path = device) (fun _ => 0)
        (pcil.map (loadedInfo update)) with
    | some (pci, count) => numberedHandle pci.hwcategory count
    | none => pcanNonebus
  | _, _ => pcanNonebus

end Source

section Statement

def PcaninfoHw.plugAndPlay : PcaninfoHw → Bool
  | .usb | .pci | .pcc | .lan => true
  | _ => false

/-- How many handles a plug-and-play category has. -/
def PcaninfoHw.handles : PcaninfoHw → Nat
  | .usb | .pci | .lan => 16
  | .pcc => 2
  | _ => 0

/-- The number of a device among those of its category, from one on. -/
def deviceNumber (devices : List Pcaninfo) (d : Pcaninfo) : Nat :=
  (devices.filter (·.hwcategory = d.hwcategory)).idxOf d + 1

/-- What a channel of a category without plug and play stands for. -/
structure Pcaninfo.Asked (d : Pcaninfo) (hwtype base irq : U32) : Prop where
  hwtype : d.hwtype = hwtype
  base : d.base = base
  irq : d.irq = irq

/-- The devices are told apart by their paths, and all have been looked at. -/
structure Discovered (devices : List Pcaninfo) : Prop where
  loaded : ∀ d ∈ devices, d.initialized
  distinct : (devices.map (·.path)).Nodup

end Statement

section Handles

theorem numberedHandle_known :
    ∀ hw : PcaninfoHw, ∀ k < hw.handles, pcanbasicGetHw (numberedHandle hw (k + 1)) = (hw, k + 1)
  | .usb | .pci | .lan | .pcc => by decide
  | .none | .peakcan | .isa | .dng | .virtual => by simp [PcaninfoHw.handles]

theorem BusRange.index_some {range : BusRange} {channel : U16} {hw : PcaninfoHw} {index : Nat}
    (listed : range.index channel = some (hw, index)) :
    range.first ≤ channel ∧ channel ≤ range.last ∧ range.hw = hw ∧
      (channel - range.first).toNat + range.number = index := by
  unfold BusRange.index at listed
  split at listed
  next bounds =>
    obtain ⟨same, number⟩ := Prod.mk.inj (Option.some.inj listed)
    exact ⟨bounds.1, bounds.2, same, number⟩
  next => cases listed

theorem BusRange.consecutive : ∀ range ∈ busRanges, ∀ k < (range.last - range.first).toNat + 1,
    numberedHandle range.hw (k + range.number) = range.first + BitVec.ofNat 16 k := by
  decide

theorem BusRange.numbered {range : BusRange} (listed : range ∈ busRanges) {channel : U16}
    (low : range.first ≤ channel) (high : channel ≤ range.last) :
    numberedHandle range.hw ((channel - range.first).toNat + range.number) = channel := by
  have inside : (channel - range.first).toNat < (range.last - range.first).toNat + 1 := by
    bv_omega
  rw [BusRange.consecutive range listed _ inside, BitVec.ofNat_toNat, BitVec.setWidth_eq]
  bv_omega

theorem numberedHandle_getHw {channel : U16} {hw : PcaninfoHw} {index : Nat}
    (known : pcanbasicGetHw channel = (hw, index)) (category : hw ≠ .none) :
    numberedHandle hw index = channel := by
  unfold pcanbasicGetHw at known
  cases found : busRanges.findSome? (·.index channel) with
  | none =>
    rw [found] at known
    exact absurd (congrArg Prod.fst known).symm category
  | some numbered =>
    rw [found] at known
    obtain rfl : numbered = (hw, index) := known
    obtain ⟨range, listed, inRange⟩ := List.exists_of_findSome?_eq_some found
    obtain ⟨low, high, rfl, rfl⟩ := BusRange.index_some inRange
    exact BusRange.numbered listed low high

theorem getHw_none {channel : U16} {index : Nat}
    (known : pcanbasicGetHw channel = (.none, index)) : index = 0 := by
  unfold pcanbasicGetHw at known
  cases found : busRanges.findSome? (·.index channel) with
  | none =>
    rw [found] at known
    exact (congrArg Prod.snd known).symm
  | some numbered =>
    rw [found] at known
    obtain rfl : numbered = (.none, index) := known
    obtain ⟨range, listed, inRange⟩ := List.exists_of_findSome?_eq_some found
    have category : ∀ range ∈ busRanges, range.hw ≠ .none := by decide
    exact absurd (BusRange.index_some inRange).2.2.1 (category range listed)

end Handles

section Correspondence
variable {devices : List Pcaninfo} {d : Pcaninfo}

theorem Discovered.loadedInfo (discovered : Discovered devices) (update : Pcaninfo → Pcaninfo) :
    devices.map (loadedInfo update) = devices := by
  have same : ∀ d ∈ devices, PcanDriver.loadedInfo update d = id d := by
    intro d member
    exact if_pos (discovered.loaded d member)
  rw [List.map_congr_left same, List.map_id]

theorem Discovered.path_injective (discovered : Discovered devices) {a b : Pcaninfo}
    (left : a ∈ devices) (right : b ∈ devices) (same : a.path = b.path) : a = b :=
  List.inj_on_of_nodup_map discovered.distinct left right same

theorem Discovered.getHandle (discovered : Discovered devices) (update : Pcaninfo → Pcaninfo)
    {scanned plist : Option (List Pcaninfo)} (listed : plist.or scanned = some devices)
    (member : d ∈ devices) :
    pcanbasicGetHandle update scanned (some d.path) plist =
      numberedHandle d.hwcategory (deviceNumber devices d) := by
  unfold pcanbasicGetHandle
  rw [listed]
  simp only [discovered.loadedInfo update]
  have only : ∀ other ∈ devices, decide (other.path = d.path) = true ↔ other = d := by
    intro other inside
    rw [decide_eq_true_iff]
    exact ⟨discovered.path_injective inside member, congrArg Pcaninfo.path⟩
  rw [CountingScan.ordinal_eq _ only member, Nat.zero_add]
  rfl

theorem matchingDevice_plugged {channel : U16} {hw : PcaninfoHw} {index : Nat}
    (known : pcanbasicGetHw channel = (hw, index)) (plugged : hw.plugAndPlay = true)
    (hwtype base irq : U32) : matchingDevice devices channel hwtype base irq =
      CountingScan.nth (·.hwcategory = hw) index 0 devices := by
  unfold matchingDevice
  rw [known]
  cases hw with
  | usb | pci | pcc | lan => rfl
  | none | peakcan | isa | dng | virtual => cases plugged

theorem matchingDevice_mem {channel : U16} {hwtype base irq : U32}
    (found : matchingDevice devices channel hwtype base irq = some d) :
    d ∈ devices ∧ (pcanbasicGetHw channel).1 ≠ .none := by
  cases known : pcanbasicGetHw channel with
  | mk hw index =>
    unfold matchingDevice at found
    rw [known] at found
    cases hw with
    | dng | isa => exact ⟨List.mem_of_find?_eq_some found, nofun⟩
    | none =>
      have positive := (CountingScan.nth_mem found).1
      exact absurd (getHw_none known) (Nat.ne_of_gt positive)
    | usb | pci | pcc | lan | peakcan | virtual =>
      exact ⟨(CountingScan.nth_mem found).2, nofun⟩

/-- Where a card cannot be detected, one with the settings asked for is found if there is any. -/
theorem matchingDevice_asked {channel : U16} {hwtype base irq : U32}
    (kind : (pcanbasicGetHw channel).1 = .isa ∨ (pcanbasicGetHw channel).1 = .dng) :
    (∀ d, matchingDevice devices channel hwtype base irq = some d →
      d ∈ devices ∧ d.Asked hwtype base irq) ∧
    ∀ d ∈ devices, d.Asked hwtype base irq →
      matchingDevice devices channel hwtype base irq ≠ none := by
  have searched : matchingDevice devices channel hwtype base irq =
      devices.find? fun pinfo => pinfo.hwtype = hwtype ∧ pinfo.base = base ∧ pinfo.irq = irq := by
    unfold matchingDevice
    cases known : pcanbasicGetHw channel with
    | mk hw index =>
      rw [known] at kind
      obtain rfl | rfl : hw = .isa ∨ hw = .dng := kind
      · rfl
      · rfl
  rw [searched]
  constructor
  · intro d found
    have asked := List.find?_some found
    obtain ⟨sameType, sameBase, sameIrq⟩ := of_decide_eq_true asked
    exact ⟨List.mem_of_find?_eq_some found, sameType, sameBase, sameIrq⟩
  · intro d member asked nothing
    exact List.find?_eq_none.mp nothing d member
      (decide_eq_true ⟨asked.hwtype, asked.base, asked.irq⟩)

theorem deviceNumber_positive (devices : List Pcaninfo) (d : Pcaninfo) :
    0 < deviceNumber devices d := Nat.succ_pos _

/-- From a device to its handle and back, and from a channel to its device and back. What
    stands behind a channel of a category without plug and play is told by type, port and
    interrupt, so its handle is another one unless the device has the channel's number. -/
theorem devices_have_handles {devices known : List Pcaninfo} (discovered : Discovered devices)
    {refreshed scanned plist : Option (List Pcaninfo)} (unchanged : refreshed.getD known = devices)
    (listed : plist.or scanned = some devices) (update : Pcaninfo → Pcaninfo)
    (hwtype base irq : U32) :
    (∀ d ∈ devices, d.hwcategory.plugAndPlay = true →
      deviceNumber devices d ≤ d.hwcategory.handles →
      (pcanbasicGetDevice refreshed known (pcanbasicGetHandle update scanned (some d.path) plist)
        hwtype base irq).2 = some d) ∧
    (∀ channel d, (pcanbasicGetDevice refreshed known channel hwtype base irq).2 = some d →
      ((pcanbasicGetHw channel).1.plugAndPlay = true ∨
        pcanbasicGetHw channel = (d.hwcategory, deviceNumber devices d)) →
      pcanbasicGetHandle update scanned (some d.path) plist = channel) ∧
    ∀ channel, (pcanbasicGetHw channel).1 = .isa ∨ (pcanbasicGetHw channel).1 = .dng →
      (∀ d, (pcanbasicGetDevice refreshed known channel hwtype base irq).2 = some d →
        d ∈ devices ∧ d.Asked hwtype base irq) ∧
      ∀ d ∈ devices, d.Asked hwtype base irq →
        (pcanbasicGetDevice refreshed known channel hwtype base irq).2 ≠ none := by
  have device (channel : U16) : (pcanbasicGetDevice refreshed known channel hwtype base irq).2 =
      matchingDevice devices channel hwtype base irq := by
    rw [← unchanged]
    rfl
  refine ⟨?_, ?_, ?_⟩
  · intro d member plugged among
    rw [device, discovered.getHandle update listed member]
    obtain ⟨k, number⟩ := Nat.exists_eq_add_one_of_ne_zero
      (Nat.ne_of_gt (deviceNumber_positive devices d))
    have handle := numberedHandle_known d.hwcategory k (by omega)
    rw [← number] at handle
    rw [matchingDevice_plugged handle plugged]
    exact CountingScan.nth_ordinal member
  · intro channel d found kind
    rw [device] at found
    obtain ⟨member, category⟩ := matchingDevice_mem found
    have numbered : pcanbasicGetHw channel = (d.hwcategory, deviceNumber devices d) := by
      rcases kind with plugged | numbered
      · rw [matchingDevice_plugged rfl plugged] at found
        obtain ⟨-, same, number⟩ :=
          CountingScan.ordinal_nth (discovered.distinct.of_map _) found
        exact Prod.ext same.symm number.symm
      · exact numbered
    rw [discovered.getHandle update listed member]
    exact numberedHandle_getHw numbered (by rwa [numbered] at category)
  · intro channel kind
    rw [device]
    exact matchingDevice_asked kind

end Correspondence

section Samples

def sampleDevice (path : String) (hwcategory : PcaninfoHw) (hwtype base irq : U32) : Pcaninfo :=
  ⟨path, pcaninfoFlagInitialized, base, 0, 0, 0, hwtype, irq, 0, hwcategory⟩

/-- The second card of its kind stands between two USB devices. -/
def sampleDevices : List Pcaninfo :=
  [sampleDevice "/dev/pcan0" .isa 1 0x300 5, sampleDevice "/dev/pcanusb0" .usb 11 0 0,
   sampleDevice "/dev/pcan1" .isa 1 0x320 7, sampleDevice "/dev/pcanusb1" .usb 11 0 0]

theorem sampleDevices_discovered : Discovered sampleDevices :=
  ⟨by decide, by decide⟩

theorem second_usb_has_handle :
    (pcanbasicGetDevice none sampleDevices (pcanbasicGetHandle id none (some "/dev/pcanusb1")
        (some sampleDevices)) 0 0 0).2 = some (sampleDevice "/dev/pcanusb1" .usb 11 0 0) ∧
      pcanbasicGetHandle id none (some "/dev/pcanusb1") (some sampleDevices) = pcanUsbbus1 + 1 := by
  have both := @devices_have_handles sampleDevices sampleDevices sampleDevices_discovered none none
    (some sampleDevices) rfl rfl id 0 0 0
  exact ⟨both.1 (sampleDevice "/dev/pcanusb1" .usb 11 0 0) (by decide) rfl (by decide),
    both.2.1 _ (sampleDevice "/dev/pcanusb1" .usb 11 0 0) (by decide) (.inl (by decide))⟩

def seventeenUsbDevices : List Pcaninfo :=
  ["0", "1", "2", "3", "4", "5", "6", "7", "8", "9", "10", "11", "12", "13", "14", "15", "16"].map
    fun path => sampleDevice path .usb 11 0 0

/-- The device behind the last handle gets a handle too, and the first ISA channel may stand
    for the second card. -/
theorem handles_beyond_the_last :
    (¬∀ devices : List Pcaninfo, Discovered devices →
      ∀ d ∈ devices, d.hwcategory.plugAndPlay = true →
        d.hwcategory.handles < deviceNumber devices d →
        pcanbasicGetHandle id none (some d.path) (some devices) = pcanNonebus) ∧
    ¬∀ devices : List Pcaninfo, Discovered devices → ∀ channel hwtype base irq d,
      (pcanbasicGetDevice none devices channel hwtype base irq).2 = some d →
      pcanbasicGetHandle id none (some d.path) (some devices) = channel := by
  constructor
  · intro none
    have discovered : Discovered seventeenUsbDevices := ⟨by decide +kernel, by decide +kernel⟩
    have handle := none _ discovered (sampleDevice "16" .usb 11 0 0) (by decide +kernel) rfl
      (by decide +kernel)
    exact absurd handle (by decide +kernel)
  · intro conversely
    have handle := conversely _ sampleDevices_discovered pcanIsabus1 1 0x320 7
      (sampleDevice "/dev/pcan1" .isa 1 0x320 7) (by decide)
    exact absurd handle (by decide)

end Samples

end PcanDriver

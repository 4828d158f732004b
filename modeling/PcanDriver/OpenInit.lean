import PcanDriver.Timing

/-!
Opening a channel with settings of the user: `pcanfd_dev_open` of `pcanfd_core.c`
up to the call of the device's own open function, and the encodings the drivers
make there of the bit timings.
-/
namespace PcanDriver

def pcanfdInitFdNonIso : U32 := 0x00000008
def pcanfdInitUser : U32 := 0x80000000
def msgtypeExtended : U8 := 0x02

structure TimingDevice where
  flags : U32
  sysclockHz : U32
  clocksList : List U32
  bittimingCaps : PcanfdBittimingRange
  dbittimingCaps : Option PcanfdBittimingRange
  defInitSettings : PcanfdInit
deriving Repr, DecidableEq, Inhabited

/-- The families of controllers, by the capability record `pcan_soft_init_ex` is
called with. -/
inductive Controller where
  | sja1000
  | usbpro
  | ucan
deriving Repr, DecidableEq, Inhabited

def Controller.clocks : Controller → List U32
  | .sja1000 => sja1000Clocks
  | .usbpro => sja2010Clocks
  | .ucan => ucanClocks

def Controller.caps : Controller → PcanfdBittimingRange
  | .sja1000 => sja1000Capabilities
  | .usbpro => sja2010Caps
  | .ucan => ucanSlowCapabilities

def Controller.dataCaps : Controller → Option PcanfdBittimingRange
  | .ucan => some ucanFastCapabilities
  | _ => none

/-- `pcan_soft_init_ex` takes the first clock of the list for the system clock. The
default settings depend on module parameters and are left open. -/
def Controller.device (controller : Controller) (flags : U32) (defInitSettings : PcanfdInit) :
    TimingDevice where
  flags := flags
  sysclockHz := controller.clocks.headD 0
  clocksList := controller.clocks
  bittimingCaps := controller.caps
  dbittimingCaps := controller.dataCaps
  defInitSettings := defInitSettings

/-- The rate that the timing has on the user's clock, in place of the timing. `brp`
is reset for the nominal timing and kept for the data timing. -/
def fixNominalClock (pfdi : PcanfdInit) : Option (Int × PcanfdInit) :=
  if pfdi.nominal.brp = 0 then some (0, pfdi)
  else do
    let (err, nominal) ← pcanBittimingToBitrate pfdi.nominal pfdi.clockHz
    if err ≠ 0 then return (err, { pfdi with nominal })
    return (0, { pfdi with nominal := { nominal with brp := 0 } })

def fixDataClock (pfdi : PcanfdInit) : Option (Int × PcanfdInit) :=
  if pfdi.flags &&& pcanfdInitFd = 0 ∨ pfdi.data.brp = 0 then some (0, pfdi)
  else do
    let (err, data) ← pcanBittimingToBitrate pfdi.data pfdi.clockHz
    return (err, { pfdi with data })

def pcanfdFixInitClock (dev : TimingDevice) (pfdi : PcanfdInit) : Option (Int × PcanfdInit) :=
  if pfdi.clockHz ∈ dev.clocksList then some (0, pfdi)
  else if pfdi.nominal.brp ≠ 0 ∧ pfdi.clockHz = 8 * mhz then some (0, pfdi)
  else do
    let (err, pfdi) ← fixNominalClock pfdi
    if err ≠ 0 then return (err, pfdi)
    let (err, pfdi) ← fixDataClock pfdi
    if err ≠ 0 then return (err, pfdi)
    return (0, { pfdi with clockHz := dev.sysclockHz })

/-- The call made on the device, with the settings as they are by then. -/
inductive OpenResult where
  | refused (err : Int)
  | deviceOpen (settings : PcanfdInit) (wBTR0BTR1 : U16) (ucCANMsgType ucListenOnly : U8)
  | deviceOpenFd (settings : PcanfdInit)
deriving Repr, DecidableEq

/-- The settings that the channel remembers of an open that succeeds. -/
def OpenResult.settings : OpenResult → Option PcanfdInit
  | .refused _ => none
  | .deviceOpen settings _ _ _ => some settings
  | .deviceOpenFd settings => some settings

def PcanBittiming.zero : PcanBittiming :=
  { brp := 0, tseg1 := 0, tseg2 := 0, sjw := 0, tsam := 0, bitrate := 0
    samplePoint := 0, tq := 0, bitrateReal := 0 }

/-- The legacy word, replaced by the default rate's when it is zero. -/
def legacyWord (dev : TimingDevice) (nominal : PcanBittiming) : Option U16 :=
  if pcanBittimingToBtr0btr1 nominal ≠ 0 then some (pcanBittimingToBtr0btr1 nominal)
  else sja1000Bitrate dev.defInitSettings.nominal.bitrate
    dev.defInitSettings.nominal.samplePoint dev.defInitSettings.nominal.sjw

def sanitizedFlags (dev : TimingDevice) (flags : U32) : U32 :=
  if dev.flags &&& pcanDevBusloadRdy = 0 then flags &&& ~~~pcanfdInitBusLoadInfo else flags

/-- `__pcanfd_dev_open`. -/
def pcanfdDevOpenChecked (dev : TimingDevice) (pfdi : PcanfdInit) : Option OpenResult := do
  let flags := sanitizedFlags dev pfdi.flags
  if pfdi.clockHz = 8 * mhz then
    let flags := flags &&& ~~~(pcanfdInitFd ||| pcanfdInitFdNonIso)
    let word ← legacyWord dev pfdi.nominal
    return .deviceOpen { pfdi with flags, data := PcanBittiming.zero } word
      (if flags &&& pcanfdInitStdMsgOnly ≠ 0 then 0 else msgtypeExtended)
      (if flags &&& pcanfdInitListenOnly ≠ 0 then 1 else 0)
  return .deviceOpenFd { pfdi with flags }

def fixClock (dev : TimingDevice) (pfdi : PcanfdInit) : Option (Int × PcanfdInit) :=
  if pfdi.clockHz = 0 then some (0, { pfdi with clockHz := dev.sysclockHz })
  else pcanfdFixInitClock dev pfdi

def defaultTiming (timing default : PcanBittiming) : PcanBittiming :=
  if timing.bitrate = 0 ∧ timing.brp = 0 then default else timing

def setupNominal (dev : TimingDevice) (pfdi : PcanfdInit) : Option (Int × PcanfdInit) := do
  let (err, nominal) ← pcanBittimingNormalize
    (defaultTiming pfdi.nominal dev.defInitSettings.nominal) pfdi.clockHz dev.bittimingCaps
  return (err, { pfdi with nominal })

/-- For CAN FD the data rate has to be at least the nominal one. The capability
record is there: the open function refuses the flag without it. -/
def setupData (dev : TimingDevice) (pfdi : PcanfdInit) : Option (Int × PcanfdInit) :=
  if pfdi.flags &&& pcanfdInitFd = 0 then some (0, pfdi)
  else
    match dev.dbittimingCaps with
    | none => some (-einval, pfdi)
    | some caps => do
      let (err, data) ← pcanBittimingNormalize
        (defaultTiming pfdi.data dev.defInitSettings.data) pfdi.clockHz caps
      if err ≠ 0 then return (err, { pfdi with data })
      if data.bitrate < pfdi.nominal.bitrate then return (-einval, { pfdi with data })
      return (0, { pfdi with data })

def fdRefused (dev : TimingDevice) (pfdi : PcanfdInit) : Prop :=
  pfdi.flags &&& pcanfdInitFd ≠ 0 ∧
    (dev.dbittimingCaps = none ∨ dev.flags &&& pcanDevFdRdy = 0)

instance (dev : TimingDevice) (pfdi : PcanfdInit) : Decidable (fdRefused dev pfdi) :=
  inferInstanceAs (Decidable (_ ∧ _))

/-- A step of the checks: its error ends the call. -/
def unlessRefused (step : Option (Int × PcanfdInit)) (next : PcanfdInit → Option OpenResult) :
    Option OpenResult := do
  let (err, pfdi) ← step
  if err ≠ 0 then return .refused err
  next pfdi

def pcanfdDevOpen (dev : TimingDevice) (pfdi : PcanfdInit) : Option OpenResult :=
  if pfdi.flags &&& pcanfdInitUser = 0 then pcanfdDevOpenChecked dev pfdi
  else if fdRefused dev pfdi then some (.refused (-einval))
  else
    unlessRefused (fixClock dev pfdi) fun pfdi =>
    unlessRefused (setupNominal dev pfdi) fun pfdi =>
    unlessRefused (setupData dev pfdi) fun pfdi =>
    pcanfdDevOpenChecked dev { pfdi with flags := pfdi.flags &&& ~~~pcanfdInitUser }

/-- Settings marked as a user's, which makes the open function check them. -/
def userSettings (pfdi : PcanfdInit) : PcanfdInit :=
  { pfdi with flags := pfdi.flags ||| pcanfdInitUser }

/-- `pcanfd_ioctl_set_init`, once the channel has been reset. -/
def pcanfdIoctlSetInit (dev : TimingDevice) (pfdi : PcanfdInit) : Option OpenResult :=
  pcanfdDevOpen dev (userSettings pfdi)

/-- The divisions of `pcan_ioctl_BTR0BTR1` are those of the rate conversion. -/
def pcanIoctlBtr0btr1 (dwBitRate : U32) : Option U16 :=
  sja1000Bitrate dwBitRate 0 0

structure UcanTimingSlow where
  ewl : U8
  sjwT : U8
  tseg2 : U8
  tseg1 : U8
  brp : U16
deriving Repr, DecidableEq, Inhabited

structure UcanTimingFast where
  sjw : U8
  tseg2 : U8
  tseg1 : U8
  brp : U16
deriving Repr, DecidableEq, Inhabited

def ucanAddCmdTimingSlow (pbr : PcanBittiming) : UcanTimingSlow where
  ewl := 96
  sjwT := (((pbr.sjw - 1) &&& 0x7f) ||| (if pbr.tsam ≠ 0 then 1 else 0 : U32) <<< 7).setWidth 8
  tseg2 := ((pbr.tseg2 - 1) &&& 0x7f).setWidth 8
  tseg1 := ((pbr.tseg1 - 1) &&& 0xff).setWidth 8
  brp := ((pbr.brp - 1) &&& 0x3ff).setWidth 16

def ucanAddCmdTimingFast (pbr : PcanBittiming) : UcanTimingFast where
  sjw := ((pbr.sjw - 1) &&& 0xf).setWidth 8
  tseg2 := ((pbr.tseg2 - 1) &&& 0xf).setWidth 8
  tseg1 := ((pbr.tseg1 - 1) &&& 0x1f).setWidth 8
  brp := ((pbr.brp - 1) &&& 0x3ff).setWidth 16

/-- The word `pcan_usbpro_open_ex` builds: nothing is masked here. -/
def usbproCcbt (nominal : PcanBittiming) : U32 :=
  nominal.tsam <<< 23 ||| (nominal.tseg2 - 1) <<< 20 ||| (nominal.tseg1 - 1) <<< 16
    ||| (nominal.sjw - 1) <<< 14 ||| (nominal.brp - 1)

end PcanDriver

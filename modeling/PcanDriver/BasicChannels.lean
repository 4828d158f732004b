import PcanDriver.Lib.KeyedList
import PcanDriver.BasicBitrates
import PcanDriver.BasicDevices

/-!
Channels of PCAN-Basic (`pcbcore.c`): the list of the channels that an application uses, and the
calls that put channels into it and take them out. A channel gets into the list when it is
initialised or when a parameter is set before; after a reset that fails it stays there with a
negative descriptor. The library opens devices with `pcanfd_open` (`libpcanfd.c`).
-/
namespace PcanDriver
open KeyedList

abbrev Status := U32

def pcanErrorOk : Status := 0x00000
def pcanErrorNodriver : Status := 0x00200
def pcanErrorIllparamval : Status := 0x08000
def pcanErrorUnknown : Status := 0x10000
def pcanErrorCaution : Status := 0x2000000
def pcanErrorInitialize : Status := 0x4000000
def pcanErrorIlloperation : Status := 0x8000000

def pcanParameterOff : U8 := 0x00
def pcanParameterOn : U8 := 0x01

def ofdBitrate : U32 := 0x80000000
def ofdDbitrate : U32 := 0x40000000
def ofdBtr0btr1 : U32 := 0x20000000
def ofdBrptsegsjw : U32 := 0x10000000
def ofdClockhz : U32 := 0x08000000
def ofdNonblocking : U32 := 0x04000000
def ofdSamplept : U32 := 0x02000000
def ofdPcanfdMask : U32 := 0x00ffffff

section System

structure OpenMode where
  rdonly : Bool
  nonblock : Bool
deriving Repr, DecidableEq

/-- The system under the library. `openFile` answers a descriptor or a negated error number,
    the requests to the driver an error number or 0; `getInit` is what the structure holds
    afterwards, whether the request succeeds or not. -/
structure System (S : Type) where
  openFile : S → String → OpenMode → S × Int
  closeFile : S → Int → S
  getInit : S → Int → S × PcanfdInit
  setInit : S → Int → PcanfdInit → S × Nat
  delFilters : S → Int → S
  sendMsg : S → Int → PcanfdMsg → S × Nat
  recvMsg : S → Int → S × Except Nat PcanfdMsg
  pcaninfoGet : S → List Pcaninfo
  pcaninfoUpdate : S → Pcaninfo → Pcaninfo
  outdated : S → Bool
  allocate : S → S × Bool

variable {S : Type}

def pcanfdSetInit (sys : System S) (s : S) (fd : Int) (pfdi : PcanfdInit) : S × Int :=
  let done := sys.setInit s fd { pfdi with flags := pfdi.flags &&& ofdPcanfdMask }
  (done.1, -(done.2 : Int))

def pcanfdToBittiming (btr0btr1 : U16) : PcanBittiming :=
  let tseg1 := 1 + (btr0btr1 &&& 0x000f).setWidth 32
  let tseg2 := 1 + ((btr0btr1 &&& 0x0070) >>> 4).setWidth 32
  { PcanBittiming.zero with
    sjw := 1 + ((btr0btr1 &&& 0xc000) >>> 14).setWidth 32
    brp := 1 + ((btr0btr1 &&& 0x3f00) >>> 8).setWidth 32
    tsam := ((btr0btr1 &&& 0x0080) >>> 7).setWidth 32
    tseg1, tseg2
    samplePoint := 10000 * (1 + tseg1) / (1 + tseg1 + tseg2) }

def vaArg : StateM (List U32) U32 := modifyGet fun args => (args.headD 0, args.tail)

/-- The timing of one phase, and the clock and the flags if it is given as BTR0BTR1. -/
def openTiming (given : U32) (flags : U32) (clock : U32) :
    StateM (List U32) (PcanBittiming × U32 × U32) := do
  if flags &&& given = 0 then return (PcanBittiming.zero, flags, clock)
  else if flags &&& ofdBtr0btr1 ≠ 0 then
    let word ← vaArg
    return (pcanfdToBittiming (word.setWidth 16), flags &&& ~~~ofdClockhz, 8000000)
  else if flags &&& ofdBrptsegsjw ≠ 0 then
    let brp ← vaArg
    let tseg1 ← vaArg
    let tseg2 ← vaArg
    let sjw ← vaArg
    return ({ PcanBittiming.zero with brp, tseg1, tseg2, sjw }, flags, clock)
  else
    let bitrate ← vaArg
    if flags &&& ofdSamplept ≠ 0 then
      let samplePoint ← vaArg
      return ({ PcanBittiming.zero with bitrate, samplePoint }, flags, clock)
    return ({ PcanBittiming.zero with bitrate }, flags, clock)

/-- The settings that `pcanfd_open` makes of its arguments. -/
def openSettings (flags : U32) : StateM (List U32) PcanfdInit := do
  let (nominal, flags, clock) ← openTiming ofdBitrate flags 0
  let (data, flags, clock) ← openTiming ofdDbitrate flags clock
  let flags := if flags &&& ofdDbitrate ≠ 0 then flags ||| pcanfdInitFd else flags
  let clock ← if flags &&& ofdClockhz ≠ 0 then vaArg else pure clock
  return { flags := flags &&& ofdPcanfdMask, clockHz := clock, nominal, data }

def pcanfdOpen (sys : System S) (s : S) (devPcan : String) (flags : U32) (args : List U32) :
    S × Int :=
  let opened := sys.openFile s devPcan
    ⟨flags &&& pcanfdInitListenOnly ≠ 0, flags &&& ofdNonblocking ≠ 0⟩
  if opened.2 < 0 then opened
  else
    let done := pcanfdSetInit sys opened.1 opened.2 ((openSettings flags).run args).1
    if done.2 ≠ 0 then (sys.closeFile done.1 opened.2, done.2) else (done.1, opened.2)

theorem pcanfdSetInit_err (sys : System S) (s : S) (fd : Int) (pfdi : PcanfdInit) :
    (pcanfdSetInit sys s fd pfdi).2 ≤ 0 := by
  unfold pcanfdSetInit
  exact Int.neg_nonpos_of_nonneg (Int.natCast_nonneg _)

theorem pcanfdOpen_cases (sys : System S) (s : S) (devPcan : String) (flags : U32)
    (args : List U32) :
    ∃ mode init, let opened := sys.openFile s devPcan mode
      let done := pcanfdSetInit sys opened.1 opened.2 init
      (opened.2 < 0 ∧ pcanfdOpen sys s devPcan flags args = opened) ∨
      (0 ≤ opened.2 ∧ done.2 < 0 ∧
        pcanfdOpen sys s devPcan flags args = (sys.closeFile done.1 opened.2, done.2)) ∨
      (0 ≤ opened.2 ∧ done.2 = 0 ∧
        pcanfdOpen sys s devPcan flags args = (done.1, opened.2)) := by
  refine ⟨⟨flags &&& pcanfdInitListenOnly ≠ 0, flags &&& ofdNonblocking ≠ 0⟩,
    ((openSettings flags).run args).1, ?_⟩
  unfold pcanfdOpen
  dsimp only
  split
  next refused => exact .inl ⟨refused, rfl⟩
  next opened =>
    split
    next failed =>
      have negative := Int.lt_iff_le_and_ne.mpr ⟨pcanfdSetInit_err sys _ _ _, failed⟩
      exact .inr (.inl ⟨Int.not_lt.mp opened, negative, rfl⟩)
    next done => exact .inr (.inr ⟨Int.not_lt.mp opened, not_not.mp done, rfl⟩)

end System

section Source

structure PcanbasicChannel where
  channel : U16
  btr0btr1 : U16
  bitratefd : Option (List U8)
  fd : Int
  fdFlags : U32
  bitrateAdapting : U8
  busoffReset : U8
  listenOnly : U8
  rcvStatus : U8
  pinfo : Pcaninfo
deriving Repr, DecidableEq

/-- `g_basiccore`, and the system that the application runs on. -/
structure Pcanbasic (S : Type) where
  initialized : Bool
  devices : List Pcaninfo
  channels : List PcanbasicChannel
  system : S

variable {S : Type} (sys : System S)

def pcanbasicRefreshHw (b : Pcanbasic S) : Pcanbasic S :=
  { b with devices := sys.pcaninfoGet b.system }

def pcanbasicInit (b : Pcanbasic S) : Pcanbasic S :=
  { pcanbasicRefreshHw sys { b with channels := [] } with initialized := true }

/-- A channel that is not `opened` may be asked for too. -/
def pcanbasicGetChannel (b : Pcanbasic S) (channel : U16) (opened : Bool) :
    Pcanbasic S × Option PcanbasicChannel :=
  if b.initialized then
    (b, (find PcanbasicChannel.channel channel b.channels).filter fun plist =>
      !opened || decide (-1 < plist.fd))
  else (pcanbasicInit sys b, none)

/-- The structure that `pchan` points to; those of the list are found by their channel. -/
def Pcanbasic.write (b : Pcanbasic S) (channel : U16)
    (change : PcanbasicChannel → PcanbasicChannel) : Pcanbasic S :=
  { b with channels := modify PcanbasicChannel.channel channel change b.channels }

def Pcanbasic.remove (b : Pcanbasic S) (channel : U16) : Pcanbasic S :=
  { b with channels := erase PcanbasicChannel.channel channel b.channels }

def Pcanbasic.insertHead (b : Pcanbasic S) (pchan : PcanbasicChannel) : Pcanbasic S :=
  { b with channels := pchan :: b.channels }

def pcanbasicFreeChannel (b : Pcanbasic S) (pchan : PcanbasicChannel) : Pcanbasic S :=
  if -1 < pchan.fd then { b with system := sys.closeFile b.system pchan.fd } else b

def Pcaninfo.zero : Pcaninfo := ⟨"", 0, 0, 0, 0, 0, 0, 0, 0, .none⟩

def newChannel (channel : U16) : PcanbasicChannel where
  channel := channel
  btr0btr1 := 0
  bitratefd := none
  fd := -1
  fdFlags := 0
  bitrateAdapting := pcanParameterOff
  busoffReset := 0
  listenOnly := pcanParameterOff
  rcvStatus := pcanParameterOn
  pinfo := Pcaninfo.zero

def pcanbasicCreateChannel (b : Pcanbasic S) (channel : U16) (addToList : Bool) :
    Pcanbasic S × Option PcanbasicChannel :=
  let allocated := sys.allocate b.system
  let b := { b with system := allocated.1 }
  if allocated.2 then
    (if addToList then b.insertHead (newChannel channel) else b, some (newChannel channel))
  else (b, none)

/-- What a call returns; `opening` is the answer of `pcanfd_open` if it was called, with the
    flags given to it. -/
structure BasicResult (S : Type) where
  b : Pcanbasic S
  status : Status
  opening : Option (U32 × Int)

def giveUp (b : Pcanbasic S) (pchan : PcanbasicChannel) (inserted : Bool) : Pcanbasic S :=
  pcanbasicFreeChannel sys (if inserted then b.remove pchan.channel else b) pchan

/-- The end of both functions that initialise a channel. -/
def openChannel (b : Pcanbasic S) (pchan : PcanbasicChannel) (inserted : Bool) (sts : Status)
    (fdFlags : U32) (args : List U32) : BasicResult S :=
  let fdFlags :=
    if pchan.listenOnly = pcanParameterOn then fdFlags ||| pcanfdInitListenOnly else fdFlags
  let opened := pcanfdOpen sys b.system pchan.pinfo.path fdFlags args
  let b := { b with system := opened.1 }
  let pchan := { pchan with fdFlags, fd := opened.2 }
  if pchan.fd < 0 then
    ⟨giveUp sys b pchan inserted, pcanErrorIlloperation, some (fdFlags, opened.2)⟩
  else
    let system := sys.delFilters b.system pchan.fd
    let pchan :=
      if sts = pcanErrorOk then { pchan with pinfo := sys.pcaninfoUpdate system pchan.pinfo }
      else pchan
    let b := { b with system }
    ⟨if inserted then b.write pchan.channel fun _ => pchan else b.insertHead pchan, sts,
      some (fdFlags, opened.2)⟩

def deviceOf (b : Pcanbasic S) (channel : U16) (hwtype base irq : U32) :
    Pcanbasic S × Option Pcaninfo :=
  let refreshed := if sys.outdated b.system then some (sys.pcaninfoGet b.system) else none
  let found := pcanbasicGetDevice refreshed b.devices channel hwtype base irq
  ({ b with devices := found.1 }, found.2)

/-- `pcanbasic_initialize` from the label behind the allocation on. -/
def initializeChannel (b : Pcanbasic S) (pchan : PcanbasicChannel) (inserted : Bool)
    (btr0btr1 : U16) (hwtype base irq : U32) : BasicResult S :=
  let device := deviceOf sys b pchan.channel hwtype base irq
  match device.2 with
  | none => ⟨giveUp sys device.1 pchan inserted, pcanErrorNodriver, none⟩
  | some pinfo =>
    let pchan := { pchan with btr0btr1, pinfo }
    if pinfo.busState ≠ 0 ∧ pchan.bitrateAdapting = 0 ∧ pinfo.btr0btr1 ≠ btr0btr1.setWidth 32 then
      ⟨giveUp sys device.1 pchan inserted, pcanErrorInitialize, none⟩
    else
      let sts := if pinfo.busState ≠ 0 ∧ pchan.bitrateAdapting ≠ 0 then pcanErrorCaution
        else pcanErrorOk
      openChannel sys device.1 pchan inserted sts (ofdBitrate ||| ofdBtr0btr1 ||| ofdNonblocking)
        [pchan.btr0btr1.setWidth 32]

def pcanbasicInitialize (b : Pcanbasic S) (channel btr0btr1 : U16) (hwtype : U8) (base : U32)
    (irq : U16) : BasicResult S :=
  let got := pcanbasicGetChannel sys b channel false
  match got.2 with
  | some pchan =>
    if -1 < pchan.fd then
      ⟨got.1, if pchan.btr0btr1 ≠ btr0btr1 ∧ pchan.bitrateAdapting ≠ 0 then pcanErrorCaution
        else pcanErrorInitialize, none⟩
    else
      initializeChannel sys got.1 pchan true btr0btr1 (hwtype.setWidth 32) base (irq.setWidth 32)
  | none =>
    match pcanbasicCreateChannel sys got.1 channel false with
    | (b, none) => ⟨b, pcanErrorUnknown, none⟩
    | (b, some pchan) =>
      initializeChannel sys b pchan false btr0btr1 (hwtype.setWidth 32) base (irq.setWidth 32)

def initializeFdChannel (b : Pcanbasic S) (pchan : PcanbasicChannel) (inserted : Bool)
    (bitratefd : Option (List U8)) : Option (BasicResult S) :=
  let device := deviceOf sys b pchan.channel 0 0 0
  match device.2 with
  | none => some ⟨giveUp sys device.1 pchan inserted, pcanErrorNodriver, none⟩
  | some pinfo =>
    let copied := sys.allocate device.1.system
    let b := { device.1 with system := copied.1 }
    (pcanbasicParseFdInit copied.2 bitratefd).map fun (err, fdi) =>
      if err ≠ 0 then ⟨giveUp sys b pchan inserted, pcanErrorInitialize, none⟩
      else
        let duplicated := sys.allocate b.system
        let b := { b with system := duplicated.1 }
        let pchan :=
          { pchan with bitratefd := if duplicated.2 then bitratefd else none, pinfo }
        if pinfo.busState ≠ 0 ∧ pchan.bitrateAdapting = 0 ∧
            (pinfo.nomBitrate ≠ fdi.nominal.bitrate ∧ pinfo.dataBitrate ≠ fdi.data.bitrate) then
          ⟨giveUp sys b pchan inserted, pcanErrorInitialize, none⟩
        else
          let sts := if pinfo.busState ≠ 0 ∧ pchan.bitrateAdapting ≠ 0 then pcanErrorCaution
            else pcanErrorOk
          openChannel sys b pchan inserted sts
            (ofdBitrate ||| ofdDbitrate ||| ofdBrptsegsjw ||| ofdClockhz ||| ofdNonblocking)
            [fdi.nominal.brp, fdi.nominal.tseg1, fdi.nominal.tseg2, fdi.nominal.sjw,
              fdi.data.brp, fdi.data.tseg1, fdi.data.tseg2, fdi.data.sjw, fdi.clockHz]

/-- There is no result where `strcmp` is given a null pointer, or the parser does not end. -/
def pcanbasicInitializeFd (b : Pcanbasic S) (channel : U16) (bitratefd : Option (List U8)) :
    Option (BasicResult S) :=
  let got := pcanbasicGetChannel sys b channel false
  match got.2 with
  | some pchan =>
    if -1 < pchan.fd then
      if pchan.bitrateAdapting ≠ 0 then
        match pchan.bitratefd, bitratefd with
        | some before, some text =>
          some ⟨got.1, if before = text then pcanErrorCaution else pcanErrorInitialize, none⟩
        | _, _ => none
      else some ⟨got.1, pcanErrorInitialize, none⟩
    else initializeFdChannel sys got.1 pchan true bitratefd
  | none =>
    match pcanbasicCreateChannel sys got.1 channel false with
    | (b, none) => some ⟨b, pcanErrorUnknown, none⟩
    | (b, some pchan) => initializeFdChannel sys b pchan false bitratefd

/-- For `PCAN_NONEBUS`, which stands for all channels, `pcanbasic_atexit` walks entries that it
    has freed: the function is that of a channel. -/
def pcanbasicUninitialize (b : Pcanbasic S) (channel : U16) : BasicResult S :=
  let got := pcanbasicGetChannel sys b channel false
  match got.2 with
  | none => ⟨got.1, pcanErrorInitialize, none⟩
  | some pchan => ⟨pcanbasicFreeChannel sys (got.1.remove channel) pchan, pcanErrorOk, none⟩

def pcanbasicReset (b : Pcanbasic S) (channel : U16) : BasicResult S :=
  let got := pcanbasicGetChannel sys b channel true
  match got.2 with
  | none => ⟨got.1, pcanErrorInitialize, none⟩
  | some pchan =>
    let init := sys.getInit got.1.system pchan.fd
    let pfdinit :=
      if pchan.listenOnly ≠ 0 then
        { init.2 with flags := init.2.flags ||| pcanfdInitListenOnly }
      else init.2
    let opened := pcanfdOpen sys (sys.closeFile init.1 pchan.fd) pchan.pinfo.path ofdNonblocking []
    let b :=
      { got.1 with system := opened.1 }.write channel fun pchan => { pchan with fd := opened.2 }
    let opening := some (ofdNonblocking, opened.2)
    if opened.2 < 0 then ⟨b, pcanErrorIlloperation, opening⟩
    else
      let done := pcanfdSetInit sys b.system opened.2 pfdinit
      ⟨{ b with system := done.1 }, if done.2 < 0 then pcanErrorIlloperation else pcanErrorOk,
        opening⟩

/-- The parameters that can be set before a channel is initialised. -/
inductive PreInit where
  | listenOnly
  | receiveStatus
  | bitrateAdapting
deriving Repr, DecidableEq

def PreInit.set : PreInit → U8 → PcanbasicChannel → PcanbasicChannel
  | .listenOnly, value, pchan => { pchan with listenOnly := value }
  | .receiveStatus, value, pchan => { pchan with rcvStatus := value }
  | .bitrateAdapting, value, pchan => { pchan with bitrateAdapting := value }

/-- `pcanbasic_set_value` for these parameters. The first byte of the buffer is looked at,
    whatever its length is said to be. -/
def pcanbasicSetValue (b : Pcanbasic S) (channel : U16) (parameter : PreInit)
    (buffer : Option U8) : BasicResult S :=
  match buffer with
  | none => ⟨b, pcanErrorIllparamval, none⟩
  | some value =>
    if value ≠ pcanParameterOn ∧ value ≠ pcanParameterOff then ⟨b, pcanErrorIllparamval, none⟩
    else
      let got := pcanbasicGetChannel sys b channel false
      let made :=
        match got.2 with
        | some pchan => (got.1, some pchan)
        | none => pcanbasicCreateChannel sys got.1 channel true
      match made.2 with
      | none => ⟨made.1, pcanErrorUnknown, none⟩
      | some pchan =>
        let b := made.1.write channel (parameter.set value)
        if parameter = .listenOnly ∧ -1 < pchan.fd then pcanbasicReset sys b channel
        else ⟨b, pcanErrorOk, none⟩

end Source

section Opening
variable {S : Type} (sys : System S)

theorem openChannel_opening (b : Pcanbasic S) (pchan : PcanbasicChannel) (inserted : Bool)
    (sts : Status) (fdFlags : U32) (args : List U32) :
    ∃ fd, (openChannel sys b pchan inserted sts fdFlags args).opening = some
      (if pchan.listenOnly = pcanParameterOn then fdFlags ||| pcanfdInitListenOnly else fdFlags,
        fd) := by
  unfold openChannel
  dsimp only
  generalize (if pchan.listenOnly = pcanParameterOn then _ else _) = flags
  split <;> exact ⟨_, rfl⟩

theorem openChannel_status (b : Pcanbasic S) (pchan : PcanbasicChannel) (inserted : Bool)
    (sts : Status) (fdFlags : U32) (args : List U32) :
    (openChannel sys b pchan inserted sts fdFlags args).status = pcanErrorIlloperation ∨
      (openChannel sys b pchan inserted sts fdFlags args).status = sts := by
  unfold openChannel
  dsimp only
  generalize (if pchan.listenOnly = pcanParameterOn then _ else _) = flags
  split
  · exact .inl rfl
  · exact .inr rfl

end Opening

end PcanDriver

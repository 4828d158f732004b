import PcanDriver.BasicDevices
import PcanDriver.InfoStrings
import PcanDriver.Lib.KeyedWrites
import PcanDriver.Netdev

/-!
The files of a device under `/sys/class/pcan`: what the driver lets be read from them
(`pcan_main.c`, built without network devices) and what `pcaninfo.c` makes of them.
-/
namespace PcanDriver
open KeyedWrites
variable {P : Type}

section Driver

structure NameText where
  chars : List U8
  line : ∀ c ∈ chars, c ≠ newline ∧ c ≠ 0
  short : chars.length < 256

/-- `struct pcan_version`, which may end early. -/
structure PcanVersion where
  major : Int
  minor : Int
  subminor : Int
deriving Repr, DecidableEq

/-- What is shown of a device beside the members of `Pcandev`. `massStorageMode` is what the
    option answers. -/
structure ClassDevice (P : Type) where
  pdev : Pcandev P
  type : NameText
  wType : U16
  nMinor : U32
  adapterName : NameText
  adapterIndex : U32
  hwVer : Option PcanVersion
  usbIndex : U32
  usbCanCount : U32
  dwPort : U32
  deviceAltNum : U32
  hasDeviceId : Bool
  massStorageMode : Except Int U32
  wIrq : U16
  dwInterruptCounter : U32
  readTotal : U32
  writeTotal : U32

def showU32 (v : U32) : List U8 := unsignedText v ++ [newline]

def showInt (v : U32) : List U8 := signedText v ++ [newline]

def showStr (str : NameText) : List U8 := str.chars ++ [newline]

/-- `"0x%0*x\n"`. -/
def showHex (width : Nat) (v : U32) : List U8 :=
  ascii "0x" ++ padded width (chr '0') (numeralText 16 v.toNat) ++ [newline]

/-- `"%u.%02u\n"`. -/
def showHundredths (whole part : U32) : List U8 :=
  unsignedText whole ++ chr '.' :: padded 2 (chr '0') (unsignedText part) ++ [newline]

def hwUsbX6 : U16 := 20

structure ClassFile where
  name : List U8
  content : Option (List U8)
deriving Repr, DecidableEq

variable (dev : ClassDevice P)

def ClassDevice.ctrlrNumber : U32 :=
  let c := BitVec.ofNat 32 dev.pdev.nChannel
  if dev.wType = hwUsbX6 then c + dev.usbIndex * dev.usbCanCount else c

def ClassDevice.devName : List U8 := ascii "/dev/" ++ ascii "pcan" ++ unsignedText dev.nMinor

/-- The parts that are not known end the number. -/
def PcanVersion.text (v : PcanVersion) : List U8 :=
  let part := fun n : Int => unsignedText (BitVec.ofInt 32 n)
  if v.major < 0 then []
  else part v.major ++ if v.minor < 0 then []
    else chr '.' :: part v.minor ++ if v.subminor < 0 then [] else chr '.' :: part v.subminor

def ClassDevice.btr0btr1 : Option U16 :=
  let nominal := dev.pdev.initSettings.nominal
  if dev.pdev.sysclockHz = 8 * mhz then some (pcanBittimingToBtr0btr1 nominal)
  else sja1000Bitrate nominal.bitrate nominal.samplePoint nominal.sjw

def showBusLoad : List U8 :=
  showHundredths (BitVec.ofInt 32 (dev.pdev.busLoad.tdiv 100))
    (BitVec.ofInt 32 (dev.pdev.busLoad.tmod 100))

def showFifoRatio {A : Type} (fifo : BoundedQueue A) : List U8 :=
  let ratio := BitVec.ofNat 32 (pcanFifoRatio fifo)
  showHundredths (ratio / 100) (ratio % 100)

def pcanDevSysfsAttrs : List ClassFile :=
  let settings := dev.pdev.initSettings
  [⟨ascii "hwtype", some (showU32 (dev.wType.setWidth 32))⟩,
    ⟨ascii "minor", some (showInt dev.nMinor)⟩,
    ⟨ascii "dev_name", some (dev.devName ++ [newline])⟩,
    ⟨ascii "ctrlr_number", some (showInt dev.ctrlrNumber)⟩,
    ⟨ascii "nom_bitrate", some (showU32 settings.nominal.bitrate)⟩,
    ⟨ascii "nom_sample_point", some (showU32 settings.nominal.samplePoint)⟩,
    ⟨ascii "nom_tq", some (showU32 settings.nominal.tq)⟩,
    ⟨ascii "nom_brp", some (showU32 settings.nominal.brp)⟩,
    ⟨ascii "nom_tseg1", some (showU32 settings.nominal.tseg1)⟩,
    ⟨ascii "nom_tseg2", some (showU32 settings.nominal.tseg2)⟩,
    ⟨ascii "nom_sjw", some (showU32 settings.nominal.sjw)⟩,
    ⟨ascii "init_flags", some (showHex 8 settings.flags)⟩,
    ⟨ascii "clock", some (showU32 settings.clockHz)⟩,
    ⟨ascii "bus_state", some (showU32 dev.pdev.busState.code)⟩,
    ⟨ascii "type", some (showStr dev.type)⟩,
    ⟨ascii "rx_fifo_ratio", some (showFifoRatio dev.pdev.readFifo)⟩,
    ⟨ascii "base", some (showHex 0 dev.dwPort)⟩,
    ⟨ascii "irq", some (showU32 (dev.wIrq.setWidth 32))⟩,
    ⟨ascii "btr0btr1", dev.btr0btr1.map fun word => showHex 4 (word.setWidth 32)⟩,
    ⟨ascii "read", some (showU32 dev.readTotal)⟩,
    ⟨ascii "write", some (showU32 dev.writeTotal)⟩,
    ⟨ascii "errors", some (showU32 dev.pdev.dwErrorCounter)⟩,
    ⟨ascii "irqs", some (showU32 dev.dwInterruptCounter)⟩,
    ⟨ascii "status", some (showHex 4 (dev.pdev.wCANStatus.setWidth 32))⟩,
    ⟨ascii "tx_fifo_ratio", some (showFifoRatio dev.pdev.writeFifo)⟩,
    ⟨ascii "clk_drift", some (showU32 (BitVec.ofInt 32 dev.pdev.timeSync.clockDrift))⟩,
    ⟨ascii "ts_fixed", some (showU32 dev.pdev.timeSync.tsFixed)⟩]

def pcanDevSysfsAdapterAttrs : List ClassFile :=
  [⟨ascii "adapter_number", some (showInt dev.adapterIndex)⟩,
    ⟨ascii "adapter_name", some (showStr dev.adapterName)⟩,
    ⟨ascii "adapter_version", some ((dev.hwVer.elim [] PcanVersion.text) ++ [newline])⟩]

def pcanDevSysfsFdAttrs : List ClassFile :=
  let data := dev.pdev.initSettings.data
  [⟨ascii "data_bitrate", some (showU32 data.bitrate)⟩,
    ⟨ascii "data_sample_point", some (showU32 data.samplePoint)⟩,
    ⟨ascii "data_tq", some (showU32 data.tq)⟩,
    ⟨ascii "data_brp", some (showU32 data.brp)⟩,
    ⟨ascii "data_tseg1", some (showU32 data.tseg1)⟩,
    ⟨ascii "data_tseg2", some (showU32 data.tseg2)⟩,
    ⟨ascii "data_sjw", some (showU32 data.sjw)⟩]

def pcanDevSysfsErrCntAttrs : List ClassFile :=
  [⟨ascii "rx_error_counter", some (showU32 (dev.pdev.rxErrorCounter.setWidth 32))⟩,
    ⟨ascii "tx_error_counter", some (showU32 (dev.pdev.txErrorCounter.setWidth 32))⟩]

def pcanDevMsdRdy : U32 := 0x00040000

/-- `pcan_sysfs_dev_node_create_ex`, less the files of the kind of device itself. -/
def ClassDevice.files : List ClassFile :=
  let has := fun flag : U32 => dev.pdev.flags &&& flag ≠ 0
  pcanDevSysfsAttrs dev ++ pcanDevSysfsAdapterAttrs dev ++
    (if has pcanDevFdRdy then pcanDevSysfsFdAttrs dev else []) ++
    (if has pcanDevBusloadRdy then [⟨ascii "bus_load", some (showBusLoad dev)⟩] else []) ++
    (if dev.hasDeviceId then [⟨ascii "devid", some (showU32 dev.deviceAltNum)⟩] else []) ++
    (if has pcanDevErrcntRdy then pcanDevSysfsErrCntAttrs dev else []) ++
    (if has pcanDevMsdRdy then
      [⟨ascii "mass_storage_mode", dev.massStorageMode.toOption.map showU32⟩] else [])

end Driver

section Reader

/-- The numbers of `struct pcaninfo` that are read from files. -/
inductive InfoNumber where
  | adapterNb | nomBitrate | btr0btr1 | clock | clkDrift | ctrlnb | dataBitrate | devid | errors
  | hwtype | initFlags | irqs | massStorageMode | minor | read | sn | status | write | base | irq
  | busLoad | busState | rxerr | txerr | rxFifoRatio | txFifoRatio | nomBrp | nomSamplePoint
  | nomSjw | nomTseg1 | nomTseg2 | nomTq | dataBrp | dataSamplePoint | dataSjw | dataTseg1
  | dataTseg2 | dataTq | tsFixed
deriving Repr, DecidableEq

inductive InfoText where
  | adapterName | adapterVersion | dev | devName | type
deriving Repr, DecidableEq

inductive InfoItem where
  | number (n : InfoNumber)
  | text (t : InfoText)
deriving Repr, DecidableEq

/-- A bit of `availflag` or of `availflag_ex`. -/
inductive InfoFlag where
  | flag (bit : Nat)
  | flagEx (bit : Nat)
deriving Repr, DecidableEq

/-- A comparison of `parse_file`: the name of a file, which older drivers may have with a prefix,
    and the flag for what is read. -/
structure FileRow where
  name : List U8
  legacy : Bool
  flag : InfoFlag
deriving Repr, DecidableEq

def InfoText.row : InfoText → FileRow
  | .adapterName => ⟨ascii "adapter_name", false, .flag 24⟩
  | .adapterVersion => ⟨ascii "adapter_version", false, .flag 25⟩
  | .dev => ⟨ascii "dev", true, .flag 5⟩
  | .devName => ⟨ascii "dev_name", false, .flagEx 10⟩
  | .type => ⟨ascii "type", false, .flag 14⟩

def InfoNumber.row : InfoNumber → FileRow
  | .adapterNb => ⟨ascii "adapter_number", false, .flag 23⟩
  | .nomBitrate => ⟨ascii "nom_bitrate", true, .flag 1⟩
  | .btr0btr1 => ⟨ascii "btr0btr1", false, .flag 2⟩
  | .clock => ⟨ascii "clock", true, .flag 3⟩
  | .clkDrift => ⟨ascii "clk_drift", false, .flagEx 16⟩
  | .ctrlnb => ⟨ascii "ctrlr_number", false, .flag 22⟩
  | .dataBitrate => ⟨ascii "data_bitrate", true, .flag 4⟩
  | .devid => ⟨ascii "devid", true, .flag 6⟩
  | .errors => ⟨ascii "errors", false, .flag 7⟩
  | .hwtype => ⟨ascii "hwtype", true, .flag 8⟩
  | .initFlags => ⟨ascii "init_flags", false, .flagEx 11⟩
  | .irqs => ⟨ascii "irqs", false, .flag 9⟩
  | .massStorageMode => ⟨ascii "mass_storage_mode", false, .flagEx 12⟩
  | .minor => ⟨ascii "minor", true, .flag 10⟩
  | .read => ⟨ascii "read", false, .flag 11⟩
  | .sn => ⟨ascii "serial_number", false, .flag 12⟩
  | .status => ⟨ascii "status", false, .flag 13⟩
  | .write => ⟨ascii "write", false, .flag 15⟩
  | .base => ⟨ascii "base", false, .flag 16⟩
  | .irq => ⟨ascii "irq", false, .flag 17⟩
  | .busLoad => ⟨ascii "bus_load", false, .flag 18⟩
  | .busState => ⟨ascii "bus_state", false, .flag 19⟩
  | .rxerr => ⟨ascii "rx_error_counter", false, .flag 20⟩
  | .txerr => ⟨ascii "tx_error_counter", false, .flag 21⟩
  | .rxFifoRatio => ⟨ascii "rx_fifo_ratio", false, .flag 26⟩
  | .txFifoRatio => ⟨ascii "tx_fifo_ratio", false, .flag 27⟩
  | .nomBrp => ⟨ascii "nom_brp", false, .flagEx 0⟩
  | .nomSamplePoint => ⟨ascii "nom_sample_point", false, .flagEx 13⟩
  | .nomSjw => ⟨ascii "nom_sjw", false, .flagEx 1⟩
  | .nomTseg1 => ⟨ascii "nom_tseg1", false, .flagEx 2⟩
  | .nomTseg2 => ⟨ascii "nom_tseg2", false, .flagEx 3⟩
  | .nomTq => ⟨ascii "nom_tq", false, .flagEx 14⟩
  | .dataBrp => ⟨ascii "data_brp", false, .flagEx 4⟩
  | .dataSamplePoint => ⟨ascii "data_sample_point", false, .flagEx 8⟩
  | .dataSjw => ⟨ascii "data_sjw", false, .flagEx 5⟩
  | .dataTseg1 => ⟨ascii "data_tseg1", false, .flagEx 6⟩
  | .dataTseg2 => ⟨ascii "data_tseg2", false, .flagEx 7⟩
  | .dataTq => ⟨ascii "data_tq", false, .flagEx 9⟩
  | .tsFixed => ⟨ascii "ts_fixed", false, .flagEx 15⟩

def InfoItem.row : InfoItem → FileRow
  | .number n => n.row
  | .text t => t.row

def parseItems : List InfoItem :=
  [.text .adapterName, .number .adapterNb, .text .adapterVersion, .number .nomBitrate,
    .number .btr0btr1, .number .clock, .number .clkDrift, .number .ctrlnb, .number .dataBitrate,
    .text .dev, .text .devName, .number .devid, .number .errors, .number .hwtype,
    .number .initFlags, .number .irqs, .number .massStorageMode, .number .minor, .number .read,
    .number .sn, .number .status, .text .type, .number .write, .number .base, .number .irq,
    .number .busLoad, .number .busState, .number .rxerr, .number .txerr, .number .rxFifoRatio,
    .number .txFifoRatio, .number .nomBrp, .number .nomSamplePoint, .number .nomSjw,
    .number .nomTseg1, .number .nomTseg2, .number .nomTq, .number .dataBrp,
    .number .dataSamplePoint, .number .dataSjw, .number .dataTseg1, .number .dataTseg2,
    .number .dataTq, .number .tsFixed]

def FileRow.isFor (row : FileRow) (filename : List U8) : Bool :=
  filename = row.name || (row.legacy && filename = ascii "pcan_" ++ row.name)

def fileItem (filename : List U8) : Option InfoItem :=
  parseItems.find? fun item => item.row.isFor filename

/-- `struct pcaninfo`. The texts are memory, what the path holds is a string. -/
structure PcaninfoRecord where
  name : List U8
  path : List U8
  availflag : U32
  availflagEx : U32
  number : InfoNumber → U32
  text : InfoText → Nat → U8
  hwcategory : PcaninfoHw

def InfoText.size : InfoText → Nat
  | .devName => 261
  | _ => 256

def stringIn (size : Nat) (buf : Nat → U8) : List U8 :=
  (Store.read buf 0 size).takeWhile (· ≠ 0)

def strncpy (dst : Nat → U8) (src : List U8) (len : Nat) : Nat → U8 := fun k =>
  if k < len then (src.takeWhile (· ≠ 0)).getD k 0 else dst k

/-- A line in a member of the record; its newline is taken off when all of it is there. -/
def storeLine (size : Nat) (old : Nat → U8) (line : List U8) : Nat → U8 :=
  let len := min size line.length
  let copied := strncpy old line len
  let ended := if 1 ≤ len ∧ copied (len - 1) = newline then Function.update copied (len - 1) 0
    else copied
  Function.update ended (size - 1) 0

def PcaninfoRecord.raise (pci : PcaninfoRecord) : InfoFlag → PcaninfoRecord
  | .flag bit => { pci with availflag := pci.availflag ||| 1 <<< bit }
  | .flagEx bit => { pci with availflagEx := pci.availflagEx ||| 1 <<< bit }

def PcaninfoRecord.has (pci : PcaninfoRecord) : InfoFlag → Bool
  | .flag bit => pci.availflag &&& 1 <<< bit ≠ 0
  | .flagEx bit => pci.availflagEx &&& 1 <<< bit ≠ 0

def PcaninfoRecord.store (pci : PcaninfoRecord) (line : List U8) : InfoItem → PcaninfoRecord
  | .number n =>
    { pci with number := Function.update pci.number n (strtoul (line.dropWhile isSpace)) }
  | .text t => { pci with text := Function.update pci.text t (storeLine t.size (pci.text t) line) }

/-- `getline`: the first line with its newline, if there is anything. -/
def firstLine (content : List U8) : Option (List U8) :=
  if content = [] then none
  else some (content.take ((content.takeWhile (· ≠ newline)).length + 1))

def parseFile (pci : PcaninfoRecord) (file : ClassFile) : PcaninfoRecord :=
  match file.content.bind firstLine, fileItem file.name with
  | some line, some item => (pci.store line item).raise item.row.flag
  | _, _ => pci

inductive DType where
  | reg
  | dir
  | other
deriving Repr, DecidableEq

structure DirEntry where
  dType : DType
  file : ClassFile
deriving Repr, DecidableEq

def classfileSelector (ent : DirEntry) : Bool :=
  ent.file.name ≠ ascii "." && ent.file.name ≠ ascii ".." && ent.dType ≠ .dir

/-- The path is the one that the driver tells, and with an older driver made of the name. -/
def PcaninfoRecord.located (pci : PcaninfoRecord) : PcaninfoRecord :=
  { pci with path := if pci.has (.flagEx 10) then stringIn 261 (pci.text .devName)
      else ascii "/dev/" ++ pci.name }

def loadEntry (pci : PcaninfoRecord) (ent : DirEntry) : PcaninfoRecord :=
  (if ent.dType = .reg ∧ ent.file.name ≠ ascii "uevent" then parseFile pci ent.file
    else pci).located

def hwCategory (hwtype : U32) : PcaninfoHw :=
  if hwtype = 1 ∨ hwtype = 9 then .isa
  else if hwtype = 5 ∨ hwtype = 6 ∨ hwtype = 7 ∨ hwtype = 8 then .dng
  else if hwtype = 10 ∨ hwtype = 19 then .pci
  else if hwtype = 11 ∨ hwtype = 13 ∨ hwtype = 17 ∨ hwtype = 18 ∨ hwtype = 20 then .usb
  else if hwtype = 12 then .pcc
  else .none

/-- The entries come in the order in which `scandir` has sorted them. -/
def loadDevinfo (pci : PcaninfoRecord) (ents : List DirEntry) : PcaninfoRecord :=
  let read := (ents.filter classfileSelector).foldl loadEntry pci
  { read with
    hwcategory := hwCategory (read.number .hwtype)
    availflag := read.availflag ||| pcaninfoFlagInitialized }

/-- The members that `pcaninfo_bitrate_to_init_string` uses. -/
def PcaninfoRecord.rates (pci : PcaninfoRecord) : PcaninfoRates where
  availflag := pci.availflag
  clock := pci.number .clock
  nomBrp := pci.number .nomBrp
  nomTseg1 := pci.number .nomTseg1
  nomTseg2 := pci.number .nomTseg2
  nomSjw := pci.number .nomSjw
  dataBrp := pci.number .dataBrp
  dataTseg1 := pci.number .dataTseg1
  dataTseg2 := pci.number .dataTseg2
  dataSjw := pci.number .dataSjw

end Reader

section Lines

def readNumber (content : List U8) : Option U32 :=
  (firstLine content).map fun line => strtoul (line.dropWhile isSpace)

def Solid (text : List U8) : Prop := text ≠ [] ∧ ∀ c ∈ text, isSpace c = false

theorem Plain.solid {text : List U8} (plain : Plain text) : Solid text :=
  ⟨plain.1, fun _ member => (plain.char member).1⟩

theorem firstLine_shown {text : List U8} (line : ∀ c ∈ text, c ≠ newline) :
    firstLine (text ++ [newline]) = some (text ++ [newline]) := by
  have before : (text ++ [newline]).takeWhile (· ≠ newline) = text := by
    rw [List.takeWhile_append_of_pos fun c member => decide_eq_true (line c member)]
    simp
  unfold firstLine
  rw [if_neg (by simp), before, List.take_of_length_le (by simp)]

theorem Solid.read {text : List U8} {v : U32} (solid : Solid text)
    (value : strtoul (text ++ [newline]) = v) : readNumber (text ++ [newline]) = some v := by
  have line : ∀ c ∈ text, c ≠ newline := fun c member same => by
    have blank := solid.2 c member
    rw [same] at blank
    exact absurd blank (by decide)
  obtain ⟨c, rest, rfl⟩ := List.exists_cons_of_ne_nil solid.1
  have starts : ¬isSpace c = true := by simp [solid.2 c List.mem_cons_self]
  rw [readNumber, firstLine_shown line, Option.map_some, List.cons_append,
    List.dropWhile_cons_of_neg starts, ← value, List.cons_append]

theorem endsNumber_newline : EndsNumber [newline] := by
  rintro c ⟨⟩
  decide

theorem read_showU32 (v : U32) : readNumber (showU32 v) = some v :=
  (numeral_plain v.toNat).solid.read (strtoul_unsigned v endsNumber_newline)

theorem read_showInt (v : U32) : readNumber (showInt v) = some v :=
  (signedText_plain v).solid.read (strtoul_signed v endsNumber_newline)

theorem read_showHundredths (whole part : U32) :
    readNumber (showHundredths whole part) = some whole := by
  have solid : Solid (unsignedText whole ++ chr '.' :: padded 2 (chr '0') (unsignedText part)) := by
    refine ⟨by simp, fun c member => ?_⟩
    rcases List.mem_append.mp member with digit | other
    · exact ((numeral_plain whole.toNat).char digit).1
    · rcases List.mem_cons.mp other with rfl | digit
      · decide
      · rcases List.mem_append.mp digit with zero | digit
        · rw [(List.mem_replicate.mp zero).2]
          decide
        · exact ((numeral_plain part.toNat).char digit).1
  have ends (rest : List U8) : EndsNumber (chr '.' :: rest) := by
    rintro c ⟨⟩
    decide
  apply solid.read
  rw [List.append_assoc, List.cons_append]
  exact strtoul_unsigned whole (ends _)

theorem hexDigit_solid : ∀ c : U8, isDigitOf 16 c = true → isSpace c = false := by
  decide +kernel

theorem strtoul_hex {digits : List U8} (some_ : digits ≠ [])
    (each : ∀ c ∈ digits, isDigitOf 16 c = true) (small : numeralValue 16 digits < 2 ^ 64) :
    strtoul (ascii "0x" ++ digits ++ [newline]) = BitVec.ofNat 32 (numeralValue 16 digits) := by
  have split : ascii "0x" ++ digits ++ [newline] = chr '0' :: chr 'x' :: (digits ++ [newline]) := rfl
  obtain ⟨d, rest, begins⟩ := List.exists_cons_of_ne_nil some_
  have marked : hexPrefix (chr '0' :: chr 'x' :: (digits ++ [newline])) = true := by
    have digit := each d (begins ▸ List.mem_cons_self)
    unfold hexPrefix
    rw [begins]
    have mark : (chr 'x' ||| 0x20) = chr 'x' := by decide
    exact Bool.and_eq_true_iff.mpr
      ⟨Bool.and_eq_true_iff.mpr ⟨decide_eq_true rfl, decide_eq_true mark⟩, digit⟩
  have taken : (digits ++ [newline]).takeWhile (isDigitOf 16) = digits := by
    rw [List.takeWhile_append_of_pos each, List.takeWhile_cons_of_neg (by decide), List.append_nil]
  have fits : ¬2 ^ 64 ≤ numeralValue 16 digits := Nat.not_le_of_lt small
  have unsigned : ¬(chr '0' = chr '-' ∨ chr '0' = chr '+') := by decide
  rw [numeralValue] at fits ⊢
  unfold strtoul
  simp only [split, List.headD_cons, if_neg unsigned, if_neg (not_or.mp unsigned).1, marked, if_true,
    List.drop_succ_cons, List.drop_zero, taken, if_neg fits]

theorem read_showHex (width : Nat) (v : U32) : readNumber (showHex width v) = some v := by
  obtain ⟨each, value⟩ := @padded_digits 16 (by decide) Nat.le.refl width v.toNat
  have some_ : padded width (chr '0') (numeralText 16 v.toNat) ≠ [] :=
    List.append_ne_nil_of_right_ne_nil _ (numeralText_ne_nil 16 v.toNat)
  have solid : Solid (ascii "0x" ++ padded width (chr '0') (numeralText 16 v.toNat)) := by
    refine ⟨List.append_ne_nil_of_right_ne_nil _ some_, fun c member => ?_⟩
    rcases List.mem_append.mp member with mark | digit
    · exact (by decide : ∀ c ∈ ascii "0x", isSpace c = false) c mark
    · exact hexDigit_solid c (each c digit)
  have small : numeralValue 16 (padded width (chr '0') (numeralText 16 v.toNat)) < 2 ^ 64 := by
    rw [value]
    exact Nat.lt_trans v.isLt (by decide)
  apply solid.read
  rw [strtoul_hex some_ each small, value, BitVec.ofNat_toNat, BitVec.setWidth_eq]

theorem stringIn_ended {size : Nat} {buf : Nat → U8} {chars : List U8}
    (held : Store.read buf 0 chars.length = chars) (plain : ∀ c ∈ chars, c ≠ 0)
    (ended : buf chars.length = 0) (short : chars.length < size) : stringIn size buf = chars := by
  obtain ⟨rest, rfl⟩ := Nat.exists_eq_add_of_lt short
  unfold stringIn
  rw [Nat.add_assoc, Nat.add_comm rest 1, Store.read_add, Store.read_add, held,
    List.takeWhile_append_of_pos fun c member => decide_eq_true (plain c member)]
  have stop : Store.read buf (0 + chars.length) 1 = [0] := by
    rw [Nat.zero_add]
    exact congrArg (fun c => [c]) ended
  rw [stop, List.singleton_append, List.takeWhile_cons_of_neg (by simp), List.append_nil]

theorem stringIn_storeLine {size : Nat} (old : Nat → U8) {chars : List U8}
    (line : ∀ c ∈ chars, c ≠ newline ∧ c ≠ 0) (short : chars.length < size) :
    stringIn size (storeLine size old (chars ++ [newline])) = chars := by
  have whole : (chars ++ [newline]).takeWhile (· ≠ 0) = chars ++ [newline] := by
    rw [List.takeWhile_append_of_pos fun c member => decide_eq_true (line c member).2]
    rfl
  have len : min size (chars ++ [newline]).length = chars.length + 1 := by
    rw [List.length_append, List.length_singleton]
    omega
  have copied (k : Nat) (inside : k < chars.length + 1) :
      strncpy old (chars ++ [newline]) (chars.length + 1) k = (chars ++ [newline]).getD k 0 := by
    rw [strncpy, if_pos inside, whole]
  have last : strncpy old (chars ++ [newline]) (chars.length + 1) (chars.length + 1 - 1) =
      newline := by
    rw [copied _ (by omega), Nat.add_sub_cancel]
    simp
  unfold storeLine
  rw [len]
  dsimp only
  rw [if_pos ⟨by omega, last⟩, Nat.add_sub_cancel]
  refine stringIn_ended ?_ (fun c member => (line c member).2) ?_ short
  · have same : ∀ k < chars.length, Function.update (Function.update
        (strncpy old (chars ++ [newline]) (chars.length + 1)) chars.length 0) (size - 1) 0 (0 + k) =
          chars.getD (0 + k) 0 := by
      intro k inside
      rw [Nat.zero_add, Function.update_of_ne (by omega), Function.update_of_ne (by omega),
        copied k (by omega), List.getD_eq_getElem?_getD, List.getElem?_append_left inside,
        ← List.getD_eq_getElem?_getD]
    refine (@Store.read_congr _ _ (chars.getD · 0) 0 chars.length same).trans ?_
    simp only [Store.read, Nat.zero_add]
    exact (Store.map_getD_range (Nat.le_refl _) 0).trans List.take_length
  · rw [Function.update_apply, Function.update_self, ite_self]

end Lines

section Record

inductive InfoValue where
  | number (v : U32)
  | text (buf : Nat → U8)

def PcaninfoRecord.value (pci : PcaninfoRecord) : InfoItem → InfoValue
  | .number n => .number (pci.number n)
  | .text t => .text (pci.text t)

/-- The value of an item and whether it is marked as known. -/
def PcaninfoRecord.held (item : InfoItem) (pci : PcaninfoRecord) : InfoValue × Bool :=
  (pci.value item, pci.has item.row.flag)

def InfoValue.stored (line : List U8) : InfoItem → InfoValue → InfoValue
  | .text t, .text buf => .text (storeLine t.size buf line)
  | _, _ => .number (strtoul (line.dropWhile isSpace))

def DirEntry.line (ent : DirEntry) : Option (List U8) :=
  if classfileSelector ent ∧ ent.dType = .reg ∧ ent.file.name ≠ ascii "uevent" then
    ent.file.content.bind firstLine
  else none

def DirEntry.item (ent : DirEntry) : Option InfoItem :=
  ent.line.bind fun _ => fileItem ent.file.name

def InfoFlag.bit : InfoFlag → Nat
  | .flag bit | .flagEx bit => bit

theorem rows_flags :
    (parseItems.map (·.row.flag)).Nodup ∧
      ∀ item ∈ parseItems, item.row.flag.bit < 32 ∧ item.row.flag ≠ .flag 0 := by
  decide +kernel

theorem fileItem_names : ∀ item ∈ parseItems, fileItem item.row.name = some item := by
  decide +kernel

theorem mem_parseItems (item : InfoItem) : item ∈ parseItems := by
  rcases item with n | t
  · cases n <;> decide
  · cases t <;> decide

theorem fileItem_name (item : InfoItem) : fileItem item.row.name = some item :=
  fileItem_names item (mem_parseItems item)

theorem row_flag (item : InfoItem) : item.row.flag.bit < 32 ∧ item.row.flag ≠ .flag 0 :=
  rows_flags.2 item (mem_parseItems item)

theorem row_flag_injective {item other : InfoItem} (same : item.row.flag = other.row.flag) :
    item = other :=
  List.inj_on_of_nodup_map rows_flags.1 (mem_parseItems item) (mem_parseItems other) same

theorem mask_bit (word : U32) (bit : Nat) :
    decide (word &&& 1 <<< bit ≠ 0) = word.getLsbD bit := by
  have masked : word &&& 1 <<< bit = if word.getLsbD bit then BitVec.twoPow 32 bit else 0 :=
    BitVec.and_twoPow word bit
  rw [masked]
  cases set : word.getLsbD bit with
  | false => simp
  | true =>
    have small : bit < 32 := BitVec.lt_of_getLsbD set
    have one : (BitVec.twoPow 32 bit).getLsbD bit = true := by simp [small]
    rw [if_pos rfl]
    refine decide_eq_true fun zero => ?_
    rw [zero] at one
    exact absurd one (by simp)

theorem bit_raised (word : U32) {bit bit' : Nat} (small : bit < 32) :
    decide ((word ||| 1 <<< bit) &&& 1 <<< bit' ≠ 0) =
      (decide (bit = bit') || decide (word &&& 1 <<< bit' ≠ 0)) := by
  have single : (1 <<< bit : U32).getLsbD bit' = decide (bit = bit') := by
    have found := @BitVec.getLsbD_twoPow 32 bit bit'
    rw [decide_eq_true small, Bool.true_and] at found
    exact found
  rw [mask_bit, mask_bit, BitVec.getLsbD_or, single, Bool.or_comm]

theorem has_raise (pci : PcaninfoRecord) {flag : InfoFlag} (small : flag.bit < 32)
    (flag' : InfoFlag) : (pci.raise flag).has flag' = (decide (flag = flag') || pci.has flag') := by
  cases flag with
  | flag bit =>
    cases flag' with
    | flag bit' =>
      have same : decide (InfoFlag.flag bit = .flag bit') = decide (bit = bit') := by simp
      rw [same]
      exact bit_raised pci.availflag small
    | flagEx bit' => rfl
  | flagEx bit =>
    cases flag' with
    | flag bit' => rfl
    | flagEx bit' =>
      have same : decide (InfoFlag.flagEx bit = .flagEx bit') = decide (bit = bit') := by simp
      rw [same]
      exact bit_raised pci.availflagEx small

@[simp] theorem raise_value (pci : PcaninfoRecord) (flag : InfoFlag) (item : InfoItem) :
    (pci.raise flag).value item = pci.value item := by
  cases flag <;> cases item <;> rfl

theorem store_value (pci : PcaninfoRecord) (line : List U8) (item item' : InfoItem) :
    (pci.store line item).value item' =
      if item = item' then (pci.value item).stored line item else pci.value item' := by
  rcases item with n | t <;> rcases item' with n' | t' <;>
    simp only [PcaninfoRecord.store, PcaninfoRecord.value, InfoValue.stored, Function.update_apply,
      reduceCtorEq, if_false, InfoItem.number.injEq, InfoItem.text.injEq]
  · by_cases same : n' = n
    · rw [if_pos same, if_pos same.symm]
    · rw [if_neg same, if_neg (Ne.symm same)]
  · by_cases same : t' = t
    · subst same
      simp
    · rw [if_neg same, if_neg (Ne.symm same)]

@[simp] theorem store_has (pci : PcaninfoRecord) (line : List U8) (item : InfoItem)
    (flag : InfoFlag) : (pci.store line item).has flag = pci.has flag := by
  cases item <;> cases flag <;> rfl

/-- `loadEntry` with the selection of the entries. -/
def loadSelected (pci : PcaninfoRecord) (ent : DirEntry) : PcaninfoRecord :=
  if classfileSelector ent then loadEntry pci ent else pci

theorem located_held (pci : PcaninfoRecord) (item : InfoItem) :
    pci.located.held item = pci.held item := by
  have known (flag : InfoFlag) : pci.located.has flag = pci.has flag := by cases flag <;> rfl
  have value : pci.located.value item = pci.value item := by cases item <;> rfl
  exact Prod.ext value (known _)

theorem parsed_held (pci : PcaninfoRecord) (line : List U8) (item item' : InfoItem) :
    ((pci.store line item).raise item.row.flag).held item' =
      if item = item' then ((pci.value item').stored line item', true) else pci.held item' := by
  unfold PcaninfoRecord.held
  rw [raise_value, store_value, has_raise _ (row_flag item).1, store_has]
  by_cases same : item = item'
  · rw [if_pos same, if_pos same, same, decide_eq_true rfl, Bool.true_or]
  · have other : ¬item.row.flag = item'.row.flag := fun equal => same (row_flag_injective equal)
    rw [if_neg same, if_neg same, decide_eq_false other, Bool.false_or]

theorem loadSelected_held (pci : PcaninfoRecord) (ent : DirEntry) (item : InfoItem) :
    (loadSelected pci ent).held item =
      if ent.item = some item then
        ((pci.value item).stored (ent.line.getD []) item, true)
      else pci.held item := by
  unfold loadSelected loadEntry DirEntry.item
  by_cases selected : classfileSelector ent = true
  · rw [if_pos selected, located_held]
    by_cases regular : ent.dType = .reg ∧ ent.file.name ≠ ascii "uevent"
    · have line : ent.line = ent.file.content.bind firstLine := if_pos ⟨selected, regular⟩
      rw [if_pos regular, line]
      unfold parseFile
      cases read : ent.file.content.bind firstLine with
      | none => rfl
      | some line =>
        cases fileItem ent.file.name with
        | none => rfl
        | some item =>
          dsimp only
          rw [parsed_held]
          simp
    · have line : ent.line = none := if_neg fun all => regular all.2
      rw [if_neg regular, line]
      rfl
  · have line : ent.line = none := if_neg fun all => selected all.1
    rw [if_neg selected, line]
    rfl

theorem loadSelected_writes : KeyedWrites.Writes loadSelected DirEntry.item PcaninfoRecord.held
    fun ent held => (match ent.item with
      | some item => held.1.stored (ent.line.getD []) item
      | none => held.1, true) where
  slot pci ent item named := by
    rw [loadSelected_held, if_pos named, named]
    rfl
  frame pci ent item other := by rw [loadSelected_held, if_neg other]

end Record

section Statement

/-- What a file of the driver says: a number, unless there is none, or a string. -/
inductive Told where
  | number (n : InfoNumber) (v : Option U32)
  | text (t : InfoText) (chars : List U8)

def Told.item : Told → InfoItem
  | .number n _ => .number n
  | .text t _ => .text t

def PcaninfoRecord.Holds (pci : PcaninfoRecord) : Told → Prop
  | .number n v => ∀ x ∈ v, pci.number n = x ∧ pci.has n.row.flag = true
  | .text t chars =>
    stringIn t.size (pci.text t) = chars ∧ pci.has t.row.flag = true

variable (dev : ClassDevice P)

def percent {A : Type} (fifo : BoundedQueue A) : U32 := BitVec.ofNat 32 (pcanFifoRatio fifo) / 100

def ClassDevice.toldAlways : List Told :=
  let settings := dev.pdev.initSettings
  [.number .hwtype (some (dev.wType.setWidth 32)),
    .number .minor (some dev.nMinor),
    .text .devName dev.devName,
    .number .ctrlnb (some dev.ctrlrNumber),
    .number .nomBitrate (some settings.nominal.bitrate),
    .number .nomSamplePoint (some settings.nominal.samplePoint),
    .number .nomTq (some settings.nominal.tq),
    .number .nomBrp (some settings.nominal.brp),
    .number .nomTseg1 (some settings.nominal.tseg1),
    .number .nomTseg2 (some settings.nominal.tseg2),
    .number .nomSjw (some settings.nominal.sjw),
    .number .initFlags (some settings.flags),
    .number .clock (some settings.clockHz),
    .number .busState (some dev.pdev.busState.code),
    .text .type dev.type.chars,
    .number .rxFifoRatio (some (percent dev.pdev.readFifo)),
    .number .base (some dev.dwPort),
    .number .irq (some (dev.wIrq.setWidth 32)),
    .number .btr0btr1 (dev.btr0btr1.map (·.setWidth 32)),
    .number .read (some dev.readTotal),
    .number .write (some dev.writeTotal),
    .number .errors (some dev.pdev.dwErrorCounter),
    .number .irqs (some dev.dwInterruptCounter),
    .number .status (some (dev.pdev.wCANStatus.setWidth 32)),
    .number .txFifoRatio (some (percent dev.pdev.writeFifo)),
    .number .clkDrift (some (BitVec.ofInt 32 dev.pdev.timeSync.clockDrift)),
    .number .tsFixed (some dev.pdev.timeSync.tsFixed)]

def ClassDevice.toldAdapter : List Told :=
  [.number .adapterNb (some dev.adapterIndex), .text .adapterName dev.adapterName.chars,
    .text .adapterVersion (dev.hwVer.elim [] PcanVersion.text)]

def ClassDevice.toldFd : List Told :=
  let data := dev.pdev.initSettings.data
  [.number .dataBitrate (some data.bitrate), .number .dataSamplePoint (some data.samplePoint),
    .number .dataTq (some data.tq), .number .dataBrp (some data.brp),
    .number .dataTseg1 (some data.tseg1), .number .dataTseg2 (some data.tseg2),
    .number .dataSjw (some data.sjw)]

/-- All that the driver tells of a device: the timings of the data only of a device for CAN FD,
    the bus load in whole percent. -/
def ClassDevice.told : List Told :=
  let has := fun flag : U32 => dev.pdev.flags &&& flag ≠ 0
  dev.toldAlways ++ dev.toldAdapter ++
    (if has pcanDevFdRdy then dev.toldFd else []) ++
    (if has pcanDevBusloadRdy then
      [.number .busLoad (some (BitVec.ofInt 32 (dev.pdev.busLoad.tdiv 100)))] else []) ++
    (if dev.hasDeviceId then [.number .devid (some dev.deviceAltNum)] else []) ++
    (if has pcanDevErrcntRdy then
      [.number .rxerr (some (dev.pdev.rxErrorCounter.setWidth 32)),
        .number .txerr (some (dev.pdev.txErrorCounter.setWidth 32))] else []) ++
    (if has pcanDevMsdRdy then
      [.number .massStorageMode dev.massStorageMode.toOption] else [])

end Statement

section Device
variable {dev : ClassDevice P} {name : List U8}

def FileTells (file : ClassFile) : Told → Prop
  | .number n v => file.name = n.row.name ∧
      ∀ x ∈ v, ∃ content, file.content = some content ∧ readNumber content = some x
  | .text t chars => file.name = t.row.name ∧
      file.content = some (chars ++ [newline]) ∧ (∀ c ∈ chars, c ≠ newline ∧ c ≠ 0) ∧
      chars.length < t.size

theorem tells_number {n : InfoNumber} {content : List U8} {v : U32} (named : name = n.row.name)
    (read : readNumber content = some v) :
    FileTells ⟨name, some content⟩ (.number n (some v)) := by
  refine ⟨named, ?_⟩
  rintro x ⟨⟩
  exact ⟨content, rfl, read⟩

theorem tells_optional {A : Type} {n : InfoNumber} {show_ : A → List U8} {word : A → U32}
    (named : name = n.row.name) (read : ∀ a, readNumber (show_ a) = some (word a))
    (v : Option A) : FileTells ⟨name, v.map show_⟩ (.number n (v.map word)) := by
  refine ⟨named, ?_⟩
  cases v with
  | none => exact fun x member => by cases member
  | some a =>
    rintro x ⟨⟩
    exact ⟨show_ a, rfl, read a⟩

theorem tells_name {t : InfoText} (named : name = t.row.name) (large : 256 ≤ t.size)
    (str : NameText) : FileTells ⟨name, some (showStr str)⟩ (.text t str.chars) :=
  ⟨named, rfl, str.line, Nat.lt_of_lt_of_le str.short large⟩

theorem plain_line {text : List U8} (plain : Plain text) : ∀ c ∈ text, c ≠ newline ∧ c ≠ 0 := by
  intro c member
  obtain ⟨blank, _, _, nul⟩ := plain.char member
  refine ⟨fun same => ?_, nul⟩
  rw [same] at blank
  exact absurd blank (by decide)

theorem devName_line (dev : ClassDevice P) :
    FileTells ⟨ascii "dev_name", some (dev.devName ++ [newline])⟩ (.text .devName dev.devName) := by
  have digits := unsignedText_length dev.nMinor
  refine ⟨rfl, rfl, fun c member => ?_, ?_⟩
  · unfold ClassDevice.devName at member
    rcases List.mem_append.mp member with start | digit
    · exact (by decide : ∀ c ∈ ascii "/dev/" ++ ascii "pcan", c ≠ newline ∧ c ≠ 0) c start
    · exact plain_line (numeral_plain _) c digit
  · have start : (ascii "/dev/" ++ ascii "pcan").length = 9 := rfl
    unfold ClassDevice.devName
    rw [List.length_append, start, InfoText.size]
    omega

theorem files_tell_always (dev : ClassDevice P) :
    List.Forall₂ FileTells (pcanDevSysfsAttrs dev) dev.toldAlways :=
    .cons (tells_number rfl (read_showU32 _)) <|
    .cons (tells_number rfl (read_showInt _)) <|
    .cons (devName_line dev) <|
    .cons (tells_number rfl (read_showInt _)) <|
    .cons (tells_number rfl (read_showU32 _)) <|
    .cons (tells_number rfl (read_showU32 _)) <|
    .cons (tells_number rfl (read_showU32 _)) <|
    .cons (tells_number rfl (read_showU32 _)) <|
    .cons (tells_number rfl (read_showU32 _)) <|
    .cons (tells_number rfl (read_showU32 _)) <|
    .cons (tells_number rfl (read_showU32 _)) <|
    .cons (tells_number rfl (read_showHex _ _)) <|
    .cons (tells_number rfl (read_showU32 _)) <|
    .cons (tells_number rfl (read_showU32 _)) <|
    .cons (tells_name (t := .type) rfl (by decide) _) <|
    .cons (tells_number rfl (read_showHundredths _ _)) <|
    .cons (tells_number rfl (read_showHex _ _)) <|
    .cons (tells_number rfl (read_showU32 _)) <|
    .cons (tells_optional (n := .btr0btr1) rfl (fun _ => read_showHex 4 _) _) <|
    .cons (tells_number rfl (read_showU32 _)) <|
    .cons (tells_number rfl (read_showU32 _)) <|
    .cons (tells_number rfl (read_showU32 _)) <|
    .cons (tells_number rfl (read_showU32 _)) <|
    .cons (tells_number rfl (read_showHex _ _)) <|
    .cons (tells_number rfl (read_showHundredths _ _)) <|
    .cons (tells_number rfl (read_showU32 _)) <|
    .cons (tells_number rfl (read_showU32 _)) <|
    .nil

theorem versionText_line (v : PcanVersion) :
    (∀ c ∈ v.text, c ≠ newline ∧ c ≠ 0) ∧ v.text.length < 256 := by
  have part (n : Int) : (∀ c ∈ unsignedText (BitVec.ofInt 32 n), c ≠ newline ∧ c ≠ 0) ∧
      (unsignedText (BitVec.ofInt 32 n)).length ≤ 10 :=
    ⟨plain_line (numeral_plain _), unsignedText_length _⟩
  have dotted {text : List U8} (line : ∀ c ∈ text, c ≠ newline ∧ c ≠ 0) :
      ∀ c ∈ chr '.' :: text, c ≠ newline ∧ c ≠ 0 :=
    List.forall_mem_cons.mpr ⟨by decide, line⟩
  have joined {front back : List U8} (line : ∀ c ∈ front, c ≠ newline ∧ c ≠ 0)
      (line' : ∀ c ∈ back, c ≠ newline ∧ c ≠ 0) : ∀ c ∈ front ++ back, c ≠ newline ∧ c ≠ 0 :=
    List.forall_mem_append.mpr ⟨line, line'⟩
  unfold PcanVersion.text
  dsimp only
  have major := part v.major
  have minor := part v.minor
  have subminor := part v.subminor
  split
  · exact ⟨List.forall_mem_nil _, by decide⟩
  · split
    · exact ⟨joined major.1 (List.forall_mem_nil _), by simp; omega⟩
    · split
      · exact ⟨joined major.1 (dotted (joined minor.1 (List.forall_mem_nil _))), by simp; omega⟩
      · exact ⟨joined major.1 (dotted (joined minor.1 (dotted subminor.1))), by simp; omega⟩

theorem files_tell_adapter (dev : ClassDevice P) :
    List.Forall₂ FileTells (pcanDevSysfsAdapterAttrs dev) dev.toldAdapter := by
  have version : FileTells
      ⟨ascii "adapter_version", some ((dev.hwVer.elim [] PcanVersion.text) ++ [newline])⟩
      (.text .adapterVersion (dev.hwVer.elim [] PcanVersion.text)) := by
    refine ⟨rfl, rfl, ?_⟩
    cases dev.hwVer with
    | none => exact ⟨List.forall_mem_nil _, by decide⟩
    | some v => exact versionText_line v
  exact .cons (tells_number rfl (read_showInt _)) <|
    .cons (tells_name (t := .adapterName) rfl (by decide) _) <| .cons version .nil

theorem files_tell_fd (dev : ClassDevice P) :
    List.Forall₂ FileTells (pcanDevSysfsFdAttrs dev) dev.toldFd :=
  .cons (tells_number rfl (read_showU32 _)) <| .cons (tells_number rfl (read_showU32 _)) <|
    .cons (tells_number rfl (read_showU32 _)) <| .cons (tells_number rfl (read_showU32 _)) <|
    .cons (tells_number rfl (read_showU32 _)) <| .cons (tells_number rfl (read_showU32 _)) <|
    .cons (tells_number rfl (read_showU32 _)) .nil

theorem tells_if {c : Prop} [Decidable c] {files : List ClassFile} {told : List Told}
    (all : List.Forall₂ FileTells files told) :
    List.Forall₂ FileTells (if c then files else []) (if c then told else []) := by
  split
  · exact all
  · exact .nil

theorem files_tell (dev : ClassDevice P) : List.Forall₂ FileTells dev.files dev.told := by
  have append {files files' : List ClassFile} {told told' : List Told}
      (first : List.Forall₂ FileTells files told) (second : List.Forall₂ FileTells files' told') :
      List.Forall₂ FileTells (files ++ files') (told ++ told') := List.rel_append first second
  have mode : FileTells ⟨ascii "mass_storage_mode", dev.massStorageMode.toOption.map showU32⟩
      (.number .massStorageMode dev.massStorageMode.toOption) := by
    have told := @tells_optional (ascii "mass_storage_mode") U32 .massStorageMode showU32 id rfl
      read_showU32 dev.massStorageMode.toOption
    rw [Option.map_id] at told
    exact told
  refine append (append (append (append (append (append (files_tell_always dev)
    (files_tell_adapter dev)) (tells_if (files_tell_fd dev))) (tells_if ?_)) (tells_if ?_))
    (tells_if ?_)) (tells_if (.cons mode .nil))
  · exact .cons (tells_number rfl (read_showHundredths _ _)) .nil
  · exact .cons (tells_number rfl (read_showU32 _)) .nil
  · exact .cons (tells_number rfl (read_showU32 _)) <|
      .cons (tells_number rfl (read_showU32 _)) .nil

end Device

section Reading
variable {dev : ClassDevice P} {pci : PcaninfoRecord} {ents others : List DirEntry}

theorem exists_of_forall₂ {A B : Type} {R : A → B → Prop} {as : List A} {bs : List B}
    (all : List.Forall₂ R as bs) {b : B} (member : b ∈ bs) : ∃ a ∈ as, R a b := by
  induction all with
  | nil => cases member
  | @cons a b' as bs here _ ih =>
    rcases List.mem_cons.mp member with rfl | later
    · exact ⟨a, List.mem_cons_self, here⟩
    · obtain ⟨a', present, related⟩ := ih later
      exact ⟨a', List.mem_cons_of_mem a present, related⟩

def alwaysItems : List InfoItem :=
  [.number .hwtype, .number .minor, .text .devName, .number .ctrlnb, .number .nomBitrate,
    .number .nomSamplePoint, .number .nomTq, .number .nomBrp, .number .nomTseg1, .number .nomTseg2,
    .number .nomSjw, .number .initFlags, .number .clock, .number .busState, .text .type,
    .number .rxFifoRatio, .number .base, .number .irq, .number .btr0btr1, .number .read,
    .number .write, .number .errors, .number .irqs, .number .status, .number .txFifoRatio,
    .number .clkDrift, .number .tsFixed, .number .adapterNb, .text .adapterName,
    .text .adapterVersion]

def fdItems : List InfoItem :=
  [.number .dataBitrate, .number .dataSamplePoint, .number .dataTq, .number .dataBrp,
    .number .dataTseg1, .number .dataTseg2, .number .dataSjw]

def tellable (fd : Bool) : List InfoItem :=
  alwaysItems ++ (if fd then fdItems else []) ++ [.number .busLoad] ++ [.number .devid] ++
    [.number .rxerr, .number .txerr] ++ [.number .massStorageMode]

theorem told_tellable (dev : ClassDevice P) :
    (dev.told.map (·.item)).Sublist (tellable (dev.pdev.flags &&& pcanDevFdRdy ≠ 0)) := by
  have optional {c : Prop} [Decidable c] (told : List Told) :
      ((if c then told else []).map (·.item)).Sublist (told.map (·.item)) := by
    split
    · exact List.Sublist.refl _
    · exact List.nil_sublist _
  have fd : ((if dev.pdev.flags &&& pcanDevFdRdy ≠ 0 then dev.toldFd else []).map
      (·.item)).Sublist
        (if decide (dev.pdev.flags &&& pcanDevFdRdy ≠ 0) = true then fdItems else []) := by
    simp only [decide_eq_true_eq]
    split
    · exact List.Sublist.refl _
    · exact List.Sublist.refl _
  unfold ClassDevice.told tellable
  simp only [List.map_append]
  exact (((((List.Sublist.refl alwaysItems).append fd).append (optional _)).append
    (optional _)).append (optional _)).append (optional _)

theorem told_once (dev : ClassDevice P) : (dev.told.map (·.item)).Nodup :=
  (by decide : ∀ fd, (tellable fd).Nodup) _ |>.sublist (told_tellable dev)

theorem names_selected : ∀ item ∈ parseItems, item.row.name ≠ ascii "." ∧
    item.row.name ≠ ascii ".." ∧ item.row.name ≠ ascii "uevent" := by
  decide +kernel

theorem named_selected {file : ClassFile} {item : InfoItem} (named : file.name = item.row.name) :
    classfileSelector (DirEntry.mk .reg file) = true := by
  obtain ⟨here, parent, _⟩ := names_selected item (mem_parseItems item)
  simp [classfileSelector, named, here, parent]

theorem line_of_named {file : ClassFile} {item : InfoItem} (named : file.name = item.row.name) :
    (DirEntry.mk .reg file).line = file.content.bind firstLine ∧
      fileItem file.name = some item := by
  have event := (names_selected item (mem_parseItems item)).2.2
  exact ⟨if_pos ⟨named_selected named, rfl, named ▸ event⟩, named ▸ fileItem_name item⟩

theorem FileTells.named {file : ClassFile} {t : Told} (tells : FileTells file t) :
    file.name = t.item.row.name := by
  cases t with
  | number n v => exact tells.1
  | text t chars => exact tells.1

theorem items_sublist {files : List ClassFile} {told : List Told}
    (all : List.Forall₂ FileTells files told) :
    ((files.map (DirEntry.mk .reg)).filterMap DirEntry.item).Sublist (told.map (·.item)) := by
  induction all with
  | nil => exact List.Sublist.refl _
  | @cons file t files told here _ ih =>
    obtain ⟨line, item⟩ := line_of_named here.named
    rw [List.map_cons, List.map_cons]
    cases read : (DirEntry.mk .reg file).line with
    | none =>
      rw [List.filterMap_cons_none (by rw [DirEntry.item, read]; rfl)]
      exact ih.cons _
    | some text =>
      have found : (DirEntry.mk .reg file).item = some t.item := by
        rw [DirEntry.item, read]
        exact item
      rw [List.filterMap_cons_some found]
      exact ih.cons_cons _

theorem FileTells.holds {file : ClassFile} {t : Told} (tells : FileTells file t)
    {after : PcaninfoRecord} (read : ∀ line, (DirEntry.mk .reg file).line = some line →
      after.held t.item = ((pci.value t.item).stored line t.item, true)) : after.Holds t := by
  cases t with
  | number n v =>
    intro x member
    obtain ⟨named, shown⟩ := tells
    obtain ⟨content, some_, number⟩ := shown x member
    obtain ⟨line, first, value⟩ := Option.map_eq_some_iff.mp number
    have content_line := (@line_of_named file (.number n) named).1
    have held := read line (by rw [content_line, some_]; exact first)
    have stored := congrArg Prod.fst held
    exact ⟨(InfoValue.number.inj stored).trans value, congrArg Prod.snd held⟩
  | text t chars =>
    obtain ⟨named, shown, line, short⟩ := tells
    have first := firstLine_shown fun c member => (line c member).1
    have content_line := (@line_of_named file (.text t) named).1
    have held := read (chars ++ [newline]) (by rw [content_line, shown]; exact first)
    have stored := InfoValue.text.inj (congrArg Prod.fst held)
    refine ⟨?_, congrArg Prod.snd held⟩
    rw [stored]
    exact stringIn_storeLine _ line short

theorem told_read (listed : ents.Perm (dev.files.map (DirEntry.mk .reg) ++ others)) {t : Told}
    (foreign : ∀ ent ∈ others, ent.item ≠ some t.item) (told : t ∈ dev.told) :
    (ents.foldl loadSelected pci).Holds t := by
  obtain ⟨file, present, tells⟩ := exists_of_forall₂ (files_tell dev) told
  have member : DirEntry.mk .reg file ∈ ents :=
    listed.mem_iff.mpr (List.mem_append_left _ (List.mem_map_of_mem present))
  have own : ((dev.files.map (DirEntry.mk .reg)).filterMap DirEntry.item).count t.item ≤ 1 :=
    List.nodup_iff_count_le_one.mp ((told_once dev).sublist (items_sublist (files_tell dev))) _
  have none_ : (others.filterMap DirEntry.item).count t.item = 0 :=
    List.count_eq_zero.mpr fun found =>
      let ⟨ent, other, same⟩ := List.mem_filterMap.mp found
      foreign ent other same
  have once : (ents.filterMap DirEntry.item).count t.item ≤ 1 := by
    rw [(listed.filterMap DirEntry.item).count_eq, List.filterMap_append, List.count_append, none_]
    exact own
  suffices held : ∀ line, (DirEntry.mk .reg file).line = some line →
      (ents.foldl loadSelected pci).held t.item = ((pci.value t.item).stored line t.item, true) from
    tells.holds held
  intro line read
  have item : (DirEntry.mk .reg file).item = some t.item := by
    rw [DirEntry.item, read]
    exact (line_of_named tells.named).2
  rw [loadSelected_writes.written once member item, item, read]
  rfl

theorem loadDevinfo_eq (pci : PcaninfoRecord) (ents : List DirEntry) :
    loadDevinfo pci ents =
      { ents.foldl loadSelected pci with
        hwcategory := hwCategory ((ents.foldl loadSelected pci).number .hwtype)
        availflag := (ents.foldl loadSelected pci).availflag ||| pcaninfoFlagInitialized } := by
  have read : (ents.filter classfileSelector).foldl loadEntry pci = ents.foldl loadSelected pci :=
    List.foldl_filter ..
  unfold loadDevinfo
  rw [read]

theorem loadDevinfo_held (pci : PcaninfoRecord) (ents : List DirEntry) (item : InfoItem) :
    (loadDevinfo pci ents).held item = (ents.foldl loadSelected pci).held item := by
  rw [loadDevinfo_eq]
  generalize ents.foldl loadSelected pci = read
  have known : (read.raise (.flag 0)).has item.row.flag = read.has item.row.flag := by
    rw [has_raise read (by decide), decide_eq_false (Ne.symm (row_flag item).2), Bool.false_or]
  have marked : ({ read with
      hwcategory := hwCategory (read.number .hwtype)
      availflag := read.availflag ||| pcaninfoFlagInitialized } : PcaninfoRecord).held item =
        (read.raise (.flag 0)).held item := by
    cases item <;> rfl
  exact marked.trans (Prod.ext (raise_value read _ item) known)

theorem Holds_of_held {read after : PcaninfoRecord}
    (same : ∀ item, after.held item = read.held item) {t : Told} (holds : read.Holds t) :
    after.Holds t := by
  have held := same t.item
  cases t with
  | number n v =>
    intro x member
    obtain ⟨value, known⟩ := holds x member
    exact ⟨(InfoValue.number.inj (congrArg Prod.fst held)).trans value,
      (congrArg Prod.snd held).trans known⟩
  | text t chars =>
    have buf := InfoValue.text.inj (congrArg Prod.fst held)
    refine ⟨?_, (congrArg Prod.snd held).trans holds.2⟩
    rw [buf]
    exact holds.1

theorem told_held (listed : ents.Perm (dev.files.map (DirEntry.mk .reg) ++ others)) {t : Told}
    (told : t ∈ dev.told) (foreign : ∀ ent ∈ others, ent.item ≠ some t.item) :
    (loadDevinfo pci ents).Holds t :=
  Holds_of_held (loadDevinfo_held pci ents) (told_read listed foreign told)

theorem untold_held {item : InfoItem} (untold : ∀ ent ∈ ents, ent.item ≠ some item) :
    (loadDevinfo pci ents).held item = pci.held item :=
  (loadDevinfo_held pci ents item).trans <| loadSelected_writes.untouched fun member =>
    let ⟨ent, present, same⟩ := List.mem_filterMap.mp member
    untold ent present same

theorem loaded_path (pci : PcaninfoRecord) {ents : List DirEntry} (some_ : ents ≠ []) :
    (ents.foldl loadEntry pci).located = ents.foldl loadEntry pci := by
  obtain ⟨front, last, rfl⟩ := (List.eq_nil_or_concat ents).resolve_left some_
  rw [List.concat_eq_append, List.foldl_append, List.foldl_cons, List.foldl_nil]
  rfl

theorem path_told (pci : PcaninfoRecord) {ents : List DirEntry} {ent : DirEntry}
    (present : ent ∈ ents) (selected : classfileSelector ent = true) {chars : List U8}
    (holds : (loadDevinfo pci ents).Holds (.text .devName chars)) :
    (loadDevinfo pci ents).path = chars := by
  have some_ : ents.filter classfileSelector ≠ [] :=
    List.ne_nil_of_mem (List.mem_filter.mpr ⟨present, selected⟩)
  have located := congrArg PcaninfoRecord.path (loaded_path pci some_)
  obtain ⟨string, known⟩ := holds
  have path : (loadDevinfo pci ents).located.path = (loadDevinfo pci ents).path := located
  rw [← path]
  exact (if_pos known).trans string

theorem devName_told (dev : ClassDevice P) : Told.text .devName dev.devName ∈ dev.told := by
  unfold ClassDevice.told ClassDevice.toldAlways
  simp

theorem hwtype_told (dev : ClassDevice P) :
    Told.number .hwtype (some (dev.wType.setWidth 32)) ∈ dev.told := by
  unfold ClassDevice.told ClassDevice.toldAlways
  simp

/-- In whatever order the directory is read, and whatever the record held before, it holds all
    that the driver tells of the device, and the path is the one to open the device at. What
    nothing in the directory tells stays as it was. -/
theorem class_files_read_back (dev : ClassDevice P) (pci : PcaninfoRecord)
    {ents others : List DirEntry}
    (listed : ents.Perm (dev.files.map (DirEntry.mk .reg) ++ others))
    (foreign : ∀ ent ∈ others, ∀ t ∈ dev.told, ent.item ≠ some t.item) :
    let read := loadDevinfo pci ents
    (∀ t ∈ dev.told, read.Holds t) ∧ read.path = dev.devName ∧
      read.hwcategory = hwCategory (dev.wType.setWidth 32) ∧
      ∀ item, (∀ ent ∈ ents, ent.item ≠ some item) → read.held item = pci.held item := by
  intro read
  have holds (t : Told) (told : t ∈ dev.told) : read.Holds t :=
    told_held listed told fun ent other => foreign ent other t told
  refine ⟨holds, ?_, ?_, fun item untold => untold_held untold⟩
  · obtain ⟨file, present, tells⟩ := exists_of_forall₂ (files_tell dev) (devName_told dev)
    have member : DirEntry.mk .reg file ∈ ents :=
      listed.mem_iff.mpr (List.mem_append_left _ (List.mem_map_of_mem present))
    exact path_told pci member (named_selected tells.named) (holds _ (devName_told dev))
  · have hwtype := (holds _ (hwtype_told dev) _ rfl).1
    rw [← hwtype]
    rfl

def sampleRates : FdField → U32
  | .clock => 80 * mhz
  | .nomBrp | .dataBrp => 2
  | .nomTseg1 => 63
  | .nomTseg2 | .nomSjw => 16
  | .dataTseg1 => 15
  | .dataTseg2 | .dataSjw => 4

def classDeviceSample : ClassDevice Unit where
  pdev := { openedChannel () 4 4 pcanDevFdRdy with initSettings := fdInitOf sampleRates }
  type := ⟨ascii "usbfd", by decide, by decide⟩
  wType := 17
  nMinor := 32
  adapterName := ⟨ascii "PCAN-USB FD", by decide, by decide⟩
  adapterIndex := 0
  hwVer := none
  usbIndex := 0
  usbCanCount := 1
  dwPort := 0
  deviceAltNum := 0
  hasDeviceId := true
  massStorageMode := .ok 0
  wIrq := 0
  dwInterruptCounter := 0
  readTotal := 0
  writeTotal := 0

def emptyRecord : PcaninfoRecord where
  name := ascii "pcanusbfd32"
  path := []
  availflag := 0
  availflagEx := 0
  number _ := 0
  text _ _ := 0
  hwcategory := .none

def ueventSample : DirEntry := ⟨.reg, ascii "uevent", some (ascii "DEVNAME=pcanusbfd32" ++ [newline])⟩

/-- The files in the opposite order, and one that is not the driver's. -/
def listingSample : List DirEntry :=
  (classDeviceSample.files.map (DirEntry.mk .reg) ++ [ueventSample]).reverse

theorem class_files_read_back_sample :
    (loadDevinfo emptyRecord listingSample).path = ascii "/dev/pcan32" ∧
      (loadDevinfo emptyRecord listingSample).hwcategory = .usb :=
  have read := class_files_read_back classDeviceSample emptyRecord
    (List.reverse_perm (_ ++ [ueventSample]))
    fun ent other _ _ => by
      rw [List.mem_singleton.mp other]
      exact nofun
  ⟨read.2.1.trans (by decide +kernel), read.2.2.1.trans (by decide)⟩

end Reading

section Settings
variable {dev : ClassDevice P} {pci : PcaninfoRecord} {ents others : List DirEntry}

/-- The number that a field of the init string is made of. -/
def rateNumber : FdField → InfoNumber
  | .clock => .clock
  | .nomBrp => .nomBrp
  | .nomTseg1 => .nomTseg1
  | .nomTseg2 => .nomTseg2
  | .nomSjw => .nomSjw
  | .dataBrp => .dataBrp
  | .dataTseg1 => .dataTseg1
  | .dataTseg2 => .dataTseg2
  | .dataSjw => .dataSjw

/-- The settings of a channel under the names of the init string, the ones for the data only with
    CAN FD. -/
def ClassDevice.rate (dev : ClassDevice P) (field : FdField) : U32 :=
  let settings := dev.pdev.initSettings
  let ofData := fun value : U32 => if dev.pdev.flags &&& pcanDevFdRdy ≠ 0 then value else 0
  match field with
  | .clock => settings.clockHz
  | .nomBrp => settings.nominal.brp
  | .nomTseg1 => settings.nominal.tseg1
  | .nomTseg2 => settings.nominal.tseg2
  | .nomSjw => settings.nominal.sjw
  | .dataBrp => ofData settings.data.brp
  | .dataTseg1 => ofData settings.data.tseg1
  | .dataTseg2 => ofData settings.data.tseg2
  | .dataSjw => ofData settings.data.sjw

theorem rates_value (pci : PcaninfoRecord) (field : FdField) :
    pci.rates.value field = pci.number (rateNumber field) := by
  cases field <;> rfl

theorem files_untold {item : InfoItem} (untold : item ∉ dev.told.map (·.item)) :
    ∀ ent ∈ dev.files.map (DirEntry.mk .reg), ent.item ≠ some item := fun _ present named =>
  untold <| (items_sublist (files_tell dev)).subset <|
    List.mem_filterMap.mpr ⟨_, present, named⟩

theorem clock_told (dev : ClassDevice P) :
    Told.number .clock (some dev.pdev.initSettings.clockHz) ∈ dev.told := by
  unfold ClassDevice.told ClassDevice.toldAlways
  simp

theorem rate_told (dev : ClassDevice P) (field : FdField) :
    Told.number (rateNumber field) (some (dev.rate field)) ∈ dev.told ∨
      .number (rateNumber field) ∉ dev.told.map (·.item) ∧ dev.rate field = 0 := by
  have always (t : Told) (first : t ∈ dev.toldAlways) : t ∈ dev.told := by
    unfold ClassDevice.told
    simp [first]
  by_cases fd : dev.pdev.flags &&& pcanDevFdRdy ≠ 0
  · have data {n : InfoNumber} {v told : U32} (same : v = told)
        (last : Told.number n (some told) ∈ dev.toldFd) : Told.number n (some v) ∈ dev.told := by
      subst same
      unfold ClassDevice.told
      dsimp only
      rw [if_pos fd]
      simp [last]
    left
    cases field
    case dataBrp => exact data (if_pos fd) (by simp [ClassDevice.toldFd, rateNumber])
    case dataTseg1 => exact data (if_pos fd) (by simp [ClassDevice.toldFd, rateNumber])
    case dataTseg2 => exact data (if_pos fd) (by simp [ClassDevice.toldFd, rateNumber])
    case dataSjw => exact data (if_pos fd) (by simp [ClassDevice.toldFd, rateNumber])
    all_goals exact always _ (by simp [ClassDevice.toldAlways, rateNumber, ClassDevice.rate])
  · have classic := told_tellable dev
    rw [decide_eq_false fd] at classic
    have untold (field : FdField) (data : InfoItem.number (rateNumber field) ∉ tellable false) :
        InfoItem.number (rateNumber field) ∉ dev.told.map (·.item) := fun member =>
      data (classic.subset member)
    cases field
    case dataBrp => exact .inr ⟨untold .dataBrp (by decide), if_neg fd⟩
    case dataTseg1 => exact .inr ⟨untold .dataTseg1 (by decide), if_neg fd⟩
    case dataTseg2 => exact .inr ⟨untold .dataTseg2 (by decide), if_neg fd⟩
    case dataSjw => exact .inr ⟨untold .dataSjw (by decide), if_neg fd⟩
    all_goals exact .inl (always _ (by simp [ClassDevice.toldAlways, rateNumber, ClassDevice.rate]))

/-- The settings of a channel come back through its files and the init string that is made of
    them, when the record was empty before. A channel without a clock has no init string. -/
theorem init_string_of_class_files (dev : ClassDevice P) {pci : PcaninfoRecord}
    {ents others : List DirEntry}
    (listed : ents.Perm (dev.files.map (DirEntry.mk .reg) ++ others))
    (foreign : ∀ ent ∈ others, ∀ field, ent.item ≠ some (.number (rateNumber field)))
    (empty : ∀ n, pci.number n = 0) :
    ∃ passes, ∀ more,
      pcanbasicParseFdInitRun true
          (some (pcaninfoBitrateToInitString (loadDevinfo pci ents).rates)) (passes + more) =
        .returned 0 (fdInitOf (if 0 < dev.pdev.initSettings.clockHz then dev.rate
          else fun _ => 0)) := by
  have value : (loadDevinfo pci ents).rates.value = dev.rate := by
    funext field
    rw [rates_value]
    rcases rate_told dev field with told | ⟨untold, zero⟩
    · exact (told_held listed told (fun ent other => foreign ent other field) _ rfl).1
    · have nowhere : ∀ ent ∈ ents, ent.item ≠ some (.number (rateNumber field)) := fun ent present =>
        (List.mem_append.mp (listed.mem_iff.mp present)).elim (files_untold untold ent)
          fun other => foreign ent other field
      have held : (loadDevinfo pci ents).held (.number (rateNumber field)) =
          pci.held (.number (rateNumber field)) := untold_held nowhere
      have same := congrArg Prod.fst held
      rw [zero, ← empty (rateNumber field)]
      exact InfoValue.number.inj same
  have clock : (loadDevinfo pci ents).rates.clock = dev.pdev.initSettings.clockHz :=
    congrFun value .clock
  have clocked : (loadDevinfo pci ents).rates.clocked ↔ 0 < dev.pdev.initSettings.clockHz := by
    have known : (loadDevinfo pci ents).has (.flag 3) = true :=
      (told_held listed (clock_told dev) (fun ent other => foreign ent other .clock) _ rfl).2
    unfold PcaninfoRates.clocked
    rw [clock]
    exact and_iff_right (of_decide_eq_true known)
  obtain ⟨passes, read⟩ := initString_parsed (loadDevinfo pci ents).rates
  refine ⟨passes, fun more => (read more).trans ?_⟩
  rw [value, if_congr clocked rfl rfl]

theorem init_string_of_class_files_sample :
    ∃ passes, ∀ more,
      pcanbasicParseFdInitRun true
          (some (pcaninfoBitrateToInitString (loadDevinfo emptyRecord listingSample).rates))
          (passes + more) = .returned 0 (fdInitOf sampleRates) := by
  obtain ⟨passes, read⟩ := init_string_of_class_files classDeviceSample
    (List.reverse_perm (_ ++ [ueventSample]))
    (fun ent other field => by
      rw [List.mem_singleton.mp other]
      exact nofun) (fun _ => rfl : ∀ n, emptyRecord.number n = 0)
  have same : classDeviceSample.rate = sampleRates := by
    funext field
    cases field <;> rfl
  refine ⟨passes, fun more => (read more).trans ?_⟩
  rw [same]
  rfl

end Settings

end PcanDriver

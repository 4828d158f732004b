import PcanDriver.Lib.CommandStream
import PcanDriver.OpenInit
import PcanDriver.TxCounter
import PcanDriver.UcanBuffer
import PcanDriver.UcanCommands
import PcanDriver.UsbOpenCount

/-!
Opening and stopping the channels of a PCAN-USB FD adapter: the commands that `pcanfd_ucan.c` and
`pcanfd_usb.c` build one by one, and the registers of the controllers that they are for.
-/
namespace PcanDriver
open CommandStream
variable {P : Type}

section Source

def ucanCmdResetMode : U16 := 0x001
def ucanCmdNormalMode : U16 := 0x002
def ucanCmdListenOnlyMode : U16 := 0x003
def ucanCmdTimingSlow : U16 := 0x004
def ucanCmdTimingFast : U16 := 0x005
def ucanCmdWrErrCnt : U16 := 0x00a
def ucanCmdSetEnOption : U16 := 0x00b
def ucanCmdClrDisOption : U16 := 0x00c
def ucanUsbCmdClkSet : U16 := 0x080
def ucanUsbCmdDevidSet : U16 := 0x081
def ucanUsbCmdLedSet : U16 := 0x086

def ucanWrerrcntTe : U16 := 0x4000
def ucanWrerrcntRe : U16 := 0x8000

def ucanOptionError : U16 := 0x0001
def ucanOptionBusload : U16 := 0x0002
def ucanOptionIsoMode : U16 := 0x0004
def ucanOption20abMode : U16 := 0x0010
def ucanUsbOptionFastFwd : U16 := 0x2000

def pcanDevListenOnly : U32 := 0x00000001

/-- A channel with the uCAN engine that is a member of it. -/
structure UcanChannel (P : Type) where
  dev : Pcandev P
  ucan : UcanDev

/-- `struct ucan_ops`, as far as commands go. -/
structure UcanOps where
  setClkDomain : UcanDev → U32 → Option (UcanDev × Int)
  sendCmd : UcanDev → Option (UcanDev × Int)

/-- `ucan_add_cmd` and what is written into the command if there is one. -/
def ucanAddFields (dev : UcanDev) (cmdOp : U16) (fields : Nat → List (Store U8)) :
    UcanDev × Option Nat :=
  match ucanAddCmd dev cmdOp with
  | (dev, none) => (dev, none)
  | (dev, some cmd) => (dev.stored (fields cmd), some cmd)

def ucanAddCmdResetMode (dev : UcanDev) : UcanDev × Option Nat :=
  ucanAddFields dev ucanCmdResetMode fun _ => []

def ucanAddCmdNormalMode (dev : UcanDev) : UcanDev × Option Nat :=
  ucanAddFields dev ucanCmdNormalMode fun _ => []

def ucanAddCmdListenOnlyMode (dev : UcanDev) : UcanDev × Option Nat :=
  ucanAddFields dev ucanCmdListenOnlyMode fun _ => []

def ucanAddTimingSlow (dev : UcanDev) (pbr : PcanBittiming) : UcanDev × Option Nat :=
  let timing := ucanAddCmdTimingSlow pbr
  ucanAddFields dev ucanCmdTimingSlow fun cmd =>
    [⟨cmd + 3, [timing.sjwT]⟩, ⟨cmd + 5, [timing.tseg1]⟩, ⟨cmd + 4, [timing.tseg2]⟩,
      ⟨cmd + 6, le16 timing.brp⟩, ⟨cmd + 2, [timing.ewl]⟩]

def ucanAddTimingFast (dev : UcanDev) (pbr : PcanBittiming) : UcanDev × Option Nat :=
  let timing := ucanAddCmdTimingFast pbr
  ucanAddFields dev ucanCmdTimingFast fun cmd =>
    [⟨cmd + 3, [timing.sjw]⟩, ⟨cmd + 5, [timing.tseg1]⟩, ⟨cmd + 4, [timing.tseg2]⟩,
      ⟨cmd + 6, le16 timing.brp⟩]

def ucanAddCmdWrErrCnt (dev : UcanDev) (selMask : U16) (txCounter rxCounter : U8) :
    UcanDev × Option Nat :=
  ucanAddFields dev ucanCmdWrErrCnt fun cmd =>
    [⟨cmd + 2, le16 selMask⟩, ⟨cmd + 4, [txCounter]⟩, ⟨cmd + 5, [rxCounter]⟩]

def ucanAddCmdSetEnOption (dev : UcanDev) (mask : U16) : UcanDev × Option Nat :=
  ucanAddFields dev ucanCmdSetEnOption fun cmd => [⟨cmd + 2, le16 mask⟩]

def ucanAddCmdClrDisOption (dev : UcanDev) (mask : U16) : UcanDev × Option Nat :=
  ucanAddFields dev ucanCmdClrDisOption fun cmd => [⟨cmd + 2, le16 mask⟩]

/-- One command is sent, unless there was no room for it. -/
def UcanChannel.sendAdded (ops : UcanOps) (ch : UcanChannel P) (added : UcanDev × Option Nat) :
    Option (UcanChannel P × Int) :=
  match added.2 with
  | none => some ({ ch with ucan := added.1 }, -einval)
  | some _ => (ops.sendCmd added.1).map fun sent => ({ ch with ucan := sent.1 }, sent.2)

def unlessFailed (step : Option (UcanChannel P × Int))
    (next : UcanChannel P → Option (UcanChannel P × Int)) : Option (UcanChannel P × Int) :=
  match step with
  | none => none
  | some (ch, err) => if err ≠ 0 then some (ch, err) else next ch

/-- A step whose result nobody looks at. -/
def unheeded (step : Option (UcanChannel P × Int)) : Option (UcanChannel P × Int) :=
  step.map fun done => (done.1, 0)

variable (ops : UcanOps) (ch : UcanChannel P)

def ucanClrErrCounters : Option (UcanChannel P × Int) :=
  let added := ucanAddCmdWrErrCnt (ucanInitCmd ch.ucan) (ucanWrerrcntTe ||| ucanWrerrcntRe) 0 0
  match added.2 with
  | none => some ({ ch with ucan := added.1 }, -einval)
  | some _ =>
    ({ ch with dev := { ch.dev with txErrorCounter := 0, rxErrorCounter := 0 } }).sendAdded ops added

def ucanSetBusOn : Option (UcanChannel P × Int) :=
  let added := if ch.dev.flags &&& pcanDevListenOnly ≠ 0
    then ucanAddCmdListenOnlyMode (ucanInitCmd ch.ucan)
    else ucanAddCmdNormalMode (ucanInitCmd ch.ucan)
  (ch.sendAdded ops added).map fun (ch, err) =>
    (if err = 0 then { ch with dev := { ch.dev with flags := ch.dev.flags ||| pcanDevBusOn } }
      else ch, err)

/-- `ucan_set_bus_off` with the command that it sends. -/
def ucanSetBusOffAt : Option (UcanChannel P × Int) :=
  (ch.sendAdded ops (ucanAddCmdResetMode (ucanInitCmd ch.ucan))).map fun (ch, err) =>
    (if err = 0 then { ch with dev := { ch.dev with flags := ch.dev.flags &&& ~~~pcanDevBusOn } }
      else ch, err)

def ucanSetOptions (optMask : U16) : Option (UcanChannel P × Int) :=
  ch.sendAdded ops (ucanAddCmdSetEnOption (ucanInitCmd ch.ucan) optMask)

def ucanClrOptions (optMask : U16) : Option (UcanChannel P × Int) :=
  ch.sendAdded ops (ucanAddCmdClrDisOption (ucanInitCmd ch.ucan) optMask)

def ucanSetTimingSlowAt (pbr : PcanBittiming) : Option (UcanChannel P × Int) :=
  ch.sendAdded ops (ucanAddTimingSlow (ucanInitCmd ch.ucan) pbr)

def ucanSetTimingFast (pbr : PcanBittiming) : Option (UcanChannel P × Int) :=
  ch.sendAdded ops (ucanAddTimingFast (ucanInitCmd ch.ucan) pbr)

/-- The default clock, and the timings for it by the bitrates. -/
def ucanDefaultClock (pfdi : PcanfdInit) : Option PcanfdInit := do
  let clockHz := 80 * mhz
  let (_, nominal) ← pcanBitrateToBittiming pfdi.nominal ucanSlowCapabilities clockHz
  let (_, data) ← if pfdi.flags &&& pcanfdInitFd ≠ 0
    then pcanBitrateToBittiming pfdi.data ucanFastCapabilities clockHz else some (0, pfdi.data)
  return { pfdi with clockHz, nominal, data }

def ucanSetClockDomain (pfdi : PcanfdInit) : Option (UcanChannel P × Int × PcanfdInit) :=
  match ops.setClkDomain ch.ucan pfdi.clockHz with
  | none => none
  | some (ucan, err) =>
    if err = -einval then
      match ucanDefaultClock pfdi with
      | none => none
      | some pfdi =>
        (ops.setClkDomain ucan pfdi.clockHz).map fun set => ({ ch with ucan := set.1 }, set.2, pfdi)
    else some ({ ch with ucan }, err, pfdi)

def ucanSetAllFilter (fuel : Nat) : Option (UcanChannel P × Int) :=
  (ucanSetAllAcceptanceFilter ops.sendCmd fuel ch.ucan).map fun set => ({ ch with ucan := set.1 }, set.2)

/-- The part of `ucan_device_open_fd` that depends on CAN FD. -/
def ucanOpenFormat (pfdi : PcanfdInit) : Option (UcanChannel P × Int) :=
  if pfdi.flags &&& pcanfdInitFd ≠ 0 then
    unlessFailed (if pfdi.flags &&& pcanfdInitFdNonIso ≠ 0 then ucanClrOptions ops ch ucanOptionIsoMode
      else ucanSetOptions ops ch ucanOptionIsoMode) fun ch =>
    unlessFailed (ucanSetTimingFast ops ch pfdi.data) fun ch =>
    unheeded (ucanClrOptions ops ch ucanOption20abMode)
  else unheeded (ucanSetOptions ops ch ucanOption20abMode)

def ucanOpenClocked (fuel : Nat) (pfdi : PcanfdInit) : Option (UcanChannel P × Int) :=
  unlessFailed (ucanClrErrCounters ops ch) fun ch =>
  unlessFailed (ucanOpenFormat ops ch pfdi) fun ch =>
  unlessFailed (ucanSetTimingSlowAt ops ch pfdi.nominal) fun ch =>
  unlessFailed (ucanSetAllFilter ops ch fuel) fun ch =>
  some ({ ch with dev := { ch.dev with
    flags := if pfdi.flags &&& pcanfdInitListenOnly ≠ 0 then ch.dev.flags ||| pcanDevListenOnly
      else ch.dev.flags &&& ~~~pcanDevListenOnly } }, 0)

def ucanDeviceOpenFd (fuel : Nat) (pfdi : PcanfdInit) :
    Option (UcanChannel P × Int × PcanfdInit) :=
  match ucanSetClockDomain ops ch pfdi with
  | none => none
  | some (ch, err, pfdi) =>
    if err ≠ 0 then some (ch, err, pfdi)
    else (ucanOpenClocked ops ch fuel pfdi).map fun opened => (opened.1, opened.2, pfdi)

/-- The codes of the clocks of `pcan_usbfd_set_clk_domain`. -/
def ucanUsbClk (clockHz : U32) : Option U8 :=
  if clockHz = 20000000 then some 5
  else if clockHz = 24000000 then some 4
  else if clockHz = 30000000 then some 3
  else if clockHz = 40000000 then some 2
  else if clockHz = 60000000 then some 1
  else if clockHz = 80000000 then some 0
  else none

def ucanUsbSetClckDomain (send : UcanDev → Option (UcanDev × Int)) (dev : UcanDev) (mode : U8) :
    Option (UcanDev × Int) :=
  send (ucanAddFields (ucanInitCmd dev) ucanUsbCmdClkSet fun cmd => [⟨cmd + 2, [mode]⟩]).1

/-- What the command came to is not told. -/
def pcanUsbfdSetClkDomain (send : UcanDev → Option (UcanDev × Int)) (dev : UcanDev) (clockHz : U32) :
    Option (UcanDev × Int) :=
  match ucanUsbClk clockHz with
  | none => some (dev, -einval)
  | some mode => (ucanUsbSetClckDomain send dev mode).map fun sent => (sent.1, 0)

def pcanUsbfdUcanOps (bulk : Nat → Int) (fuel : Nat) : UcanOps where
  setClkDomain := pcanUsbfdSetClkDomain (pcanUsbfdSendUcanCmd bulk fuel)
  sendCmd := pcanUsbfdSendUcanCmd bulk fuel

/-- The mask of the USB options goes behind the other one. -/
def UcanDev.withUsbMask (usbMask : U16) : UcanDev × Option Nat → UcanDev
  | (dev, none) => dev
  | (dev, some cmd) => dev.stored [⟨cmd + 6, le16 usbMask⟩]

def ucanUsbSetEnOption (mask usbMask : U16) : Option (UcanChannel P × Int) :=
  (ops.sendCmd (UcanDev.withUsbMask usbMask (ucanAddCmdSetEnOption (ucanInitCmd ch.ucan) mask))).map
    fun sent => ({ ch with ucan := sent.1 }, sent.2)

def ucanUsbClrDisOption (mask usbMask : U16) : Option (UcanChannel P × Int) :=
  (ops.sendCmd (UcanDev.withUsbMask usbMask (ucanAddCmdClrDisOption (ucanInitCmd ch.ucan) mask))).map
    fun sent => ({ ch with ucan := sent.1 }, sent.2)

def ucanUsbSetCanLed (mode : U8) : Option (UcanChannel P × Int) :=
  (ops.sendCmd (ucanAddFields (ucanInitCmd ch.ucan) ucanUsbCmdLedSet fun cmd => [⟨cmd + 2, [mode]⟩]).1).map
    fun sent => ({ ch with ucan := sent.1 }, sent.2)

def pcanUsbfdSetDeviceNr (deviceNr : U32) : Option (UcanChannel P × Int) :=
  (ops.sendCmd (ucanAddFields (ucanInitCmd ch.ucan) ucanUsbCmdDevidSet fun cmd =>
    [⟨cmd + 4, le32 deviceNr⟩]).1).map fun sent => ({ ch with ucan := sent.1 }, sent.2)

/-- `fastFwd` is the parameter of the module. -/
def pcanUsbfdOpenComplete (fastFwd : Bool) (pfdi : PcanfdInit) (err : Int) :
    Option (UcanChannel P × Int) :=
  if err ≠ 0 then some (ch, err)
  else
    let usbMask := if fastFwd then ucanUsbOptionFastFwd else 0
    let optMask := if pfdi.flags &&& pcanfdInitBusLoadInfo ≠ 0 then ucanOptionError ||| ucanOptionBusload
      else ucanOptionError
    unlessFailed (if fastFwd then some (ch, 0)
      else ucanUsbClrDisOption ops ch 0 ucanUsbOptionFastFwd) fun ch =>
    unlessFailed (if optMask &&& ucanOptionBusload ≠ 0 then some (ch, 0)
      else ucanUsbClrDisOption ops ch ucanOptionBusload 0) fun ch =>
    ucanUsbSetEnOption ops ch optMask usbMask

def pcanUsbfdOpenFd (fuel : Nat) (fastFwd : Bool) (pfdi : PcanfdInit) :
    Option (UcanChannel P × Int) :=
  match ucanDeviceOpenFd ops ch fuel pfdi with
  | none => none
  | some (ch, err, pfdi) => pcanUsbfdOpenComplete ops ch fastFwd pfdi err

/-- `pcan_usb_device_open_fd`, less the counter of the interface. -/
def usbfdDeviceOpenFd (fuel : Nat) (fastFwd : Bool) (pfdi : PcanfdInit) :
    Option (UcanChannel P × Int) :=
  unlessFailed (ucanSetBusOffAt ops ch) fun ch =>
  unlessFailed (pcanUsbfdOpenFd ops ch fuel fastFwd pfdi) fun ch =>
  ucanSetBusOn ops ch

/-- `pcan_usbfd_close`, less what regards the whole interface. -/
def usbfdClose (fastFwd : Bool) : Option (UcanChannel P × Int) :=
  ucanUsbClrDisOption ops ch (ucanOptionError ||| ucanOptionBusload)
    (if fastFwd then ucanUsbOptionFastFwd else 0)

def usbfdStop (fastFwd : Bool) : Option (UcanChannel P × Int) :=
  if ch.dev.flags &&& pcanDevCleaned ≠ 0 then some (ch, 0)
  else if ch.dev.flags &&& pcanDevOpened = 0 then some (ch, 0)
  else
    match usbfdClose ops ch fastFwd with
    | none => none
    | some (ch, _) => ucanSetBusOffAt ops ch

end Source

section Registers

inductive UcanMode where
  | reset
  | normal
  | listenOnly
deriving Repr, DecidableEq

structure UcanRegs where
  mode : UcanMode
  slow : UcanTimingSlow
  fast : UcanTimingFast
  txCounter : U8
  rxCounter : U8
  options : U16
  usbOptions : U16
  stdFilter : U8 → U32
  clock : U8

variable (cmd : UcanCommand)

/-- A word of the fields, by its place in the command. -/
def UcanCommand.u8 (offset : Nat) : U8 := cmd.fields.toList.getD (offset - 2) 0

def UcanCommand.u16 (offset : Nat) : U16 := u16At cmd.u8 offset

def UcanCommand.u32 (offset : Nat) : U32 := u32At cmd.u8 offset

/-- What the commands are for, by the names and the fields of `pcanfd_ucan.h` and
    `pcanfd_usb_fw.h`. The end of a collection asks for nothing. -/
def UcanRegs.exec (regs : UcanRegs) (cmd : UcanCommand) : UcanRegs :=
  if cmd.opcode = ucanCmdResetMode then { regs with mode := .reset }
  else if cmd.opcode = ucanCmdNormalMode then { regs with mode := .normal }
  else if cmd.opcode = ucanCmdListenOnlyMode then { regs with mode := .listenOnly }
  else if cmd.opcode = ucanCmdTimingSlow then
    { regs with slow := ⟨cmd.u8 2, cmd.u8 3, cmd.u8 4, cmd.u8 5, cmd.u16 6⟩ }
  else if cmd.opcode = ucanCmdTimingFast then
    { regs with fast := ⟨cmd.u8 3, cmd.u8 4, cmd.u8 5, cmd.u16 6⟩ }
  else if cmd.opcode = ucanCmdSetStdFilter then
    { regs with stdFilter := Function.update regs.stdFilter (cmd.u8 3) (cmd.u32 4) }
  else if cmd.opcode = ucanCmdWrErrCnt then
    { regs with
      txCounter := if cmd.u16 2 &&& ucanWrerrcntTe ≠ 0 then cmd.u8 4 else regs.txCounter
      rxCounter := if cmd.u16 2 &&& ucanWrerrcntRe ≠ 0 then cmd.u8 5 else regs.rxCounter }
  else if cmd.opcode = ucanCmdSetEnOption then
    { regs with options := regs.options ||| cmd.u16 2, usbOptions := regs.usbOptions ||| cmd.u16 6 }
  else if cmd.opcode = ucanCmdClrDisOption then
    { regs with
      options := regs.options &&& ~~~cmd.u16 2, usbOptions := regs.usbOptions &&& ~~~cmd.u16 6 }
  else if cmd.opcode = ucanUsbCmdClkSet then { regs with clock := cmd.u8 2 }
  else regs

/-- `UCAN_CMD_CHANNEL` and `UCAN_CMD_OPCODE` of the eight bytes of a command. -/
def readCommand (bytes : List U8) : Nat × UcanCommand :=
  let opcodeChannel := u16At (fun k => bytes.getD k 0) 0
  ((opcodeChannel >>> 12).toNat,
    ⟨opcodeChannel &&& 0x3ff, Vector.ofFn fun i : Fin 6 => bytes.getD (2 + i) 0⟩)

/-- The controllers of an adapter, behind what they have been sent. -/
def ucanExecute : (Nat → UcanRegs) → List U8 → Nat → UcanRegs :=
  execute 8 readCommand (atUnit UcanRegs.exec)

end Registers

section Packets

theorem ucanSendPackets_cut (bulk : Nat → Int) (fuel packetPtr packetLen i : Nat) (dev : UcanDev)
    (positive : 0 < packetLen) (within : packetLen ≤ dev.cmdLen)
    (cut : packetLen = dev.cmdLen ∨ packetLen = pcanUfdLospdPktSize) (aligned : 8 ∣ dev.cmdLen)
    (few : i < 3) (enough : dev.cmdLen + 3 ≤ fuel + i) :
    ∃ calls cmdLen err done, ucanSendPackets bulk fuel packetPtr packetLen i dev =
        some ({ dev with bulks := dev.bulks ++ calls, cmdLen := cmdLen }, err) ∧
      transferred calls = Store.read dev.cmdHead packetPtr done ∧
      8 ∣ done ∧ done ≤ dev.cmdLen ∧ (err = 0 → done = dev.cmdLen) ∧
      (packetLen = dev.cmdLen → err ≠ 0 → done = 0) ∧
      ((∀ c ∈ calls, c.err = 0) → err = 0) := by
  induction fuel generalizing packetPtr packetLen i dev with
  | zero => omega
  | succ fuel ih =>
    generalize result : bulk dev.bulks.length = err
    generalize call : (⟨packetPtr, Store.read dev.cmdHead packetPtr packetLen, err⟩ : BulkCall) = c
    have packet : c.packet = Store.read dev.cmdHead packetPtr packetLen := by rw [← call]
    have outcome : c.err = err := by rw [← call]
    rw [ucanSendPackets]
    dsimp only
    rw [result, call]
    by_cases failed : err ≠ 0
    · rw [if_pos failed]
      have lost := outcome ▸ failed
      by_cases again : err = -etimedout ∧ i + 1 < 3
      · rw [if_pos again, if_pos positive]
        obtain ⟨calls, cmdLen, last, done, run, sent, whole, inside, all, single, clean⟩ :=
          ih packetPtr packetLen (i + 1) { dev with bulks := dev.bulks ++ [c] } positive within cut
            aligned again.2 (by dsimp only; omega)
        refine ⟨c :: calls, cmdLen, last, done, ?_, (transferred_failed lost).trans sent, whole, inside,
          all, single, fun ok => absurd (ok c List.mem_cons_self) lost⟩
        rw [run]
        simp only [List.append_assoc, List.singleton_append]
      · rw [if_neg again]
        exact ⟨[c], dev.cmdLen, err, 0, rfl, transferred_failed lost, ⟨0, rfl⟩, Nat.zero_le _,
          fun zero => absurd zero failed, fun _ _ => rfl,
          fun ok => absurd (ok c List.mem_cons_self) lost⟩
    · have zero : err = 0 := not_not.mp failed
      rw [if_neg failed, zero]
      generalize next : (if dev.cmdLen - packetLen < pcanUfdLospdPktSize then
        dev.cmdLen - packetLen else packetLen) = smaller
      obtain ⟨_, fits, size, ends⟩ := next_packet within cut next
      have eight : 8 ∣ packetLen := by
        rcases cut with rfl | rfl
        · exact aligned
        · exact ⟨8, rfl⟩
      have through : transferred [c] = Store.read dev.cmdHead packetPtr packetLen := by
        rw [transferred_sent (outcome.trans zero), packet]
        exact List.append_nil _
      by_cases more : smaller > 0
      · rw [if_pos more]
        obtain ⟨calls, cmdLen, last, done, run, sent, whole, inside, all, _, clean⟩ :=
          ih (packetPtr + packetLen) smaller i
            { dev with bulks := dev.bulks ++ [c], cmdLen := dev.cmdLen - packetLen } more fits size
            (Nat.dvd_sub aligned eight) few (by dsimp only; omega)
        dsimp only at sent inside all
        refine ⟨c :: calls, cmdLen, last, packetLen + done, ?_, ?_, Nat.dvd_add eight whole, by omega,
          fun zero => ?_, fun one => ?_, fun ok => clean fun d later => ok d (List.mem_cons_of_mem _ later)⟩
        · rw [run]
          simp only [List.append_assoc, List.singleton_append]
        · rw [transferred_sent (outcome.trans zero), packet, sent, Store.read_add]
        · have rest := all zero
          omega
        · omega
      · rw [if_neg more]
        refine ⟨[c], dev.cmdLen - packetLen, 0, packetLen, rfl, through, eight, within, fun _ => ?_,
          fun _ nonzero => absurd rfl nonzero, fun _ => rfl⟩
        have none_left := (ends (by omega)).resolve_left (by omega)
        omega

end Packets

section Telling
variable {dev dev' dev'' : UcanDev} {calls calls' : List BulkCall} {cmds cmds' : List UcanCommand}

/-- Between two states of an engine, the adapter has been told as much as by these commands. -/
structure UcanDev.Told (dev dev' : UcanDev) (calls : List BulkCall) (cmds : List UcanCommand) :
    Prop where
  frame : ∃ head cmdLen,
    dev' = { dev with bulks := dev.bulks ++ calls, cmdHead := head, cmdLen := cmdLen }
  stream : ∃ sent : List UcanCommand,
    transferred calls = sent.flatMap (UcanCommand.bytes dev.nChannel) ∧
      (∀ cmd ∈ sent, cmd.opcode ≤ 0x3ff) ∧
      ∀ regs : UcanRegs, sent.foldl UcanRegs.exec regs = cmds.foldl UcanRegs.exec regs

theorem UcanDev.Told.silent (head : Nat → U8) (cmdLen : Nat) :
    dev.Told { dev with cmdHead := head, cmdLen := cmdLen } [] [] where
  frame := ⟨head, cmdLen, by rw [List.append_nil]⟩
  stream := ⟨[], rfl, List.forall_mem_nil _, fun _ => rfl⟩

theorem UcanDev.Told.nChannel (told : dev.Told dev' calls cmds) : dev'.nChannel = dev.nChannel := by
  obtain ⟨head, cmdLen, rfl⟩ := told.frame
  rfl

theorem UcanDev.Told.cmdSize (told : dev.Told dev' calls cmds) : dev'.cmdSize = dev.cmdSize := by
  obtain ⟨head, cmdLen, rfl⟩ := told.frame
  rfl

theorem UcanDev.Told.isPlugged (told : dev.Told dev' calls cmds) :
    dev'.isPlugged = dev.isPlugged := by
  obtain ⟨head, cmdLen, rfl⟩ := told.frame
  rfl

theorem UcanDev.Told.trans (first : dev.Told dev' calls cmds)
    (second : dev'.Told dev'' calls' cmds') : dev.Told dev'' (calls ++ calls') (cmds ++ cmds') := by
  obtain ⟨sent, bytes, small, meant⟩ := first.stream
  obtain ⟨sent', bytes', small', meant'⟩ := second.stream
  rw [first.nChannel] at bytes'
  obtain ⟨head, cmdLen, rfl⟩ := first.frame
  obtain ⟨head', cmdLen', rfl⟩ := second.frame
  constructor
  · exact ⟨head', cmdLen', by rw [← List.append_assoc]⟩
  · refine ⟨sent ++ sent', ?_, List.forall_mem_append.mpr ⟨small, small'⟩, fun regs => ?_⟩
    · rw [transferred_append, bytes, bytes', List.flatMap_append]
    · rw [List.foldl_append, List.foldl_append, meant, meant']

theorem exec_endOfCollection (regs : UcanRegs) : regs.exec endOfCollection = regs := by
  simp [UcanRegs.exec, endOfCollection, ucanCmdEndOfCollection, ucanCmdResetMode,
    ucanCmdNormalMode, ucanCmdListenOnlyMode, ucanCmdTimingSlow, ucanCmdTimingFast,
    ucanCmdSetStdFilter, ucanCmdWrErrCnt, ucanCmdSetEnOption, ucanCmdClrDisOption,
    ucanUsbCmdClkSet]

/-- What the send function of an interface does with a list of commands. -/
structure UcanDelivery (send : UcanDev → Option (UcanDev × Int)) (dev : UcanDev)
    (cmds : List UcanCommand) (dev' : UcanDev) (err : Int) (calls : List BulkCall)
    (sent : List UcanCommand) : Prop where
  ends : send dev = some (dev', err)
  told : dev.Told dev' calls sent
  first : sent <+: cmds
  all : err = 0 → sent = cmds
  single : cmds.length ≤ 1 → err ≠ 0 → sent = []
  present : err = 0 → dev.isPlugged
  clean : dev.isPlugged → (∀ c ∈ calls, c.err = 0) → err = 0

/-- Where a command list is cut, the end of the collection does not count. -/
theorem cut_collection (terminated : Bool) (count : Nat) (regs : UcanRegs) :
    ((cmds ++ if terminated then [endOfCollection] else []).take count).foldl UcanRegs.exec regs =
      (cmds.take count).foldl UcanRegs.exec regs := by
  rw [List.take_append, List.foldl_append]
  cases terminated with
  | false => rw [if_neg (by decide), List.take_nil, List.foldl_nil]
  | true =>
    rw [if_pos rfl]
    cases count - cmds.length with
    | zero => rfl
    | succ more =>
      rw [List.take_succ_cons, List.take_nil]
      exact exec_endOfCollection _

theorem usb_delivers (bulk : Nat → Int) {fuel : Nat} (room : 8 ≤ dev.cmdSize)
    (enough : dev.cmdSize + 3 ≤ fuel) (small : ∀ cmd ∈ cmds, cmd.opcode ≤ 0x3ff)
    (holds : dev.Holds (cmds.flatMap (UcanCommand.bytes dev.nChannel))) :
    ∃ dev' err calls sent,
      UcanDelivery (pcanUsbfdSendUcanCmd bulk fuel) dev cmds dev' err calls sent := by
  unfold pcanUsbfdSendUcanCmd
  by_cases absent : (!dev.isPlugged) = true
  · refine ⟨dev, -enodev, [], [], if_pos absent, .silent _ _, List.nil_prefix, nofun,
      fun _ _ => rfl, nofun, fun present => ?_⟩
    rw [present] at absent
    exact absurd absent Bool.false_ne_true
  · obtain ⟨head, cmdLen, terminated, held⟩ := terminated_holds holds
    have positive := collection_positive room cmds
    have length := held.length
    have fits := held.fits
    dsimp only at length fits
    generalize ended : decide (8 * cmds.length + 8 ≤ dev.cmdSize) = terminates
    have whole : collection dev cmds =
        (cmds ++ if terminates then [endOfCollection] else []).flatMap
          (UcanCommand.bytes dev.nChannel) := by
      unfold collection
      rw [List.flatMap_append, ← ended]
      by_cases room' : 8 * cmds.length + 8 ≤ dev.cmdSize
      · rw [if_pos room', if_pos (decide_eq_true room'), List.flatMap_singleton]
      · rw [if_neg room', if_neg (by simpa using room'), List.flatMap_nil]
    have aligned : 8 ∣ cmdLen := by
      rw [length, whole, commands_length]
      exact ⟨_, rfl⟩
    generalize first : (if (!dev.highSpeed) = true ∧ cmdLen > pcanUfdLospdPktSize then
      pcanUfdLospdPktSize else cmdLen) = packetLen
    have cut : 0 < packetLen ∧ packetLen ≤ cmdLen ∧
        (packetLen = cmdLen ∨ packetLen = pcanUfdLospdPktSize) ∧
        (cmdLen ≤ pcanUfdLospdPktSize → packetLen = cmdLen) := by
      rw [← first]
      by_cases low : (!dev.highSpeed) = true ∧ cmdLen > pcanUfdLospdPktSize
      · rw [if_pos low]
        exact ⟨by decide, Nat.le_of_lt low.2, .inr rfl, fun short => by omega⟩
      · rw [if_neg low]
        exact ⟨by omega, Nat.le_refl _, .inl rfl, fun _ => rfl⟩
    obtain ⟨calls, later, err, done, run, sent, eight, inside, all, single, clean⟩ :=
      ucanSendPackets_cut bulk fuel 0 packetLen 0
        { dev with cmdHead := head, cmdLen := cmdLen } cut.1 cut.2.1 cut.2.2.1 aligned (by decide)
        (by dsimp only; omega)
    obtain ⟨count, rfl⟩ := eight
    dsimp only at sent inside all single
    have bytes : transferred calls =
        ((cmds ++ if terminates then [endOfCollection] else []).take count).flatMap
          (UcanCommand.bytes dev.nChannel) := by
      obtain ⟨rest, total⟩ := Nat.exists_eq_add_of_le inside
      rw [← encoded_take (fun cmd _ => UcanCommand.bytes_length dev.nChannel cmd), ← whole, sent,
        ← held.read, ← length, total, Store.read_add, List.take_left' (Store.read_length _ _ _)]
    have all_small : ∀ cmd ∈ (cmds ++ if terminates then [endOfCollection] else []).take count,
        cmd.opcode ≤ 0x3ff := by
      intro cmd member
      rcases List.mem_append.mp (List.mem_of_mem_take member) with own | ending
      · exact small cmd own
      · split at ending
        · rw [List.mem_singleton.mp ending]
          decide
        · cases ending
    refine ⟨_, err, calls, cmds.take count, ?_, ⟨⟨head, later, rfl⟩, _, bytes, all_small,
      cut_collection terminates count⟩, List.take_prefix _ _, fun zero => ?_, fun one failed => ?_,
      fun _ => by simpa using absent, fun _ => clean⟩
    · rw [if_neg absent, terminated]
      dsimp only
      rw [first]
      exact run
    · have most := all zero
      have long : cmdLen = 8 * (cmds ++ if terminates then [endOfCollection] else []).length := by
        rw [length, whole, commands_length]
      rw [List.length_append] at long
      exact List.take_of_length_le (by omega)
    · have short : cmdLen ≤ pcanUfdLospdPktSize := by
        rw [length, whole, commands_length, List.length_append]
        unfold pcanUfdLospdPktSize
        split
        · rw [List.length_singleton]
          omega
        · rw [List.length_nil]
          omega
      have none_ := single (cut.2.2.2 short) failed
      have zero : count = 0 := by omega
      rw [zero, List.take_zero]

end Telling

section Commands
variable {dev : UcanDev} {stores : List (Store U8)} {fields : Nat → List (Store U8)}
  {cmd : UcanCommand}

/-- What is written into a blank command makes it this one. -/
structure UcanCommand.WrittenBy (cmd : UcanCommand) (stores : List (Store U8)) : Prop where
  inside : ∀ s ∈ stores, s.Inside 0 8
  patched : ∀ lo hi : U8, stores.foldl (fun xs s => Store.patch xs s.addr s.bytes)
    (lo :: hi :: List.replicate 6 0) = lo :: hi :: cmd.fields.toList

structure UcanDev.Built (dev built : UcanDev) (cmd : UcanCommand) : Prop where
  frame : ∃ head cmdLen, built = { dev with cmdHead := head, cmdLen := cmdLen }
  holds : built.Holds ([cmd].flatMap (UcanCommand.bytes built.nChannel))

theorem ucanAddFields_init (room : 8 ≤ dev.cmdSize) (stores : List (Store U8))
    (written : cmd.WrittenBy (fields 0 ++ stores)) :
    ∃ built, ucanAddFields (ucanInitCmd dev) cmd.opcode fields = (built, some 0) ∧
      dev.Built (built.stored stores) cmd := by
  obtain ⟨added, adds, ⟨head, cmdLen, rfl⟩, stored⟩ :=
    ucanAddCmd_holds (ucanInitCmd_holds dev) (by rw [List.length_nil]; exact room) cmd.opcode
  unfold ucanAddFields
  rw [adds]
  refine ⟨_, rfl, ⟨_, cmdLen, rfl⟩, ?_⟩
  have held := stored (fields 0 ++ stores) written.inside
  have bytes := written.patched ((ucanCmdOpcodeChannel dev.nChannel cmd.opcode).setWidth 8)
    ((ucanCmdOpcodeChannel dev.nChannel cmd.opcode >>> 8).setWidth 8)
  have value : [cmd].flatMap (UcanCommand.bytes dev.nChannel) =
      (fields 0 ++ stores).foldl (fun xs s => Store.patch xs s.addr s.bytes)
        (le16 (ucanCmdOpcodeChannel dev.nChannel cmd.opcode) ++ List.replicate 6 0) := by
    rw [List.flatMap_singleton]
    exact bytes.symm
  have twice : ∀ d : UcanDev, (d.stored (fields 0)).stored stores = d.stored (fields 0 ++ stores) := by
    intro d
    unfold UcanDev.stored
    rw [Store.run_append]
  change UcanDev.Holds (UcanDev.stored (UcanDev.stored _ (fields 0)) stores)
    ([cmd].flatMap (UcanCommand.bytes dev.nChannel))
  rw [twice, value]
  exact held

def modeCommand (opcode : U16) : UcanCommand := ⟨opcode, Vector.replicate 6 0⟩

def slowCommand (pbr : PcanBittiming) : UcanCommand :=
  let timing := ucanAddCmdTimingSlow pbr
  ⟨ucanCmdTimingSlow, #v[timing.ewl, timing.sjwT, timing.tseg2, timing.tseg1,
    timing.brp.setWidth 8, (timing.brp >>> 8).setWidth 8]⟩

def fastCommand (pbr : PcanBittiming) : UcanCommand :=
  let timing := ucanAddCmdTimingFast pbr
  ⟨ucanCmdTimingFast, #v[0, timing.sjw, timing.tseg2, timing.tseg1,
    timing.brp.setWidth 8, (timing.brp >>> 8).setWidth 8]⟩

def errCountCommand (selMask : U16) (txCounter rxCounter : U8) : UcanCommand :=
  ⟨ucanCmdWrErrCnt, #v[selMask.setWidth 8, (selMask >>> 8).setWidth 8, txCounter, rxCounter, 0, 0]⟩

def optionCommand (opcode mask usbMask : U16) : UcanCommand :=
  ⟨opcode, #v[mask.setWidth 8, (mask >>> 8).setWidth 8, 0, 0,
    usbMask.setWidth 8, (usbMask >>> 8).setWidth 8]⟩

def clockCommand (mode : U8) : UcanCommand := ⟨ucanUsbCmdClkSet, #v[mode, 0, 0, 0, 0, 0]⟩

def ledCommand (mode : U8) : UcanCommand := ⟨ucanUsbCmdLedSet, #v[mode, 0, 0, 0, 0, 0]⟩

def deviceNrCommand (deviceNr : U32) : UcanCommand :=
  ⟨ucanUsbCmdDevidSet, #v[0, 0, deviceNr.setWidth 8, (deviceNr >>> 8).setWidth 8,
    (deviceNr >>> 16).setWidth 8, (deviceNr >>> 24).setWidth 8]⟩

theorem inside_command {stores : List (Store U8)}
    (places : stores.all (fun s => s.addr + s.bytes.length ≤ 8) = true) :
    ∀ s ∈ stores, s.Inside 0 8 := fun s member =>
  ⟨Nat.zero_le _, of_decide_eq_true (List.all_eq_true.mp places s member)⟩

theorem resetMode_built (room : 8 ≤ dev.cmdSize) :
    ∃ built, ucanAddCmdResetMode (ucanInitCmd dev) = (built, some 0) ∧
      dev.Built built (modeCommand ucanCmdResetMode) :=
  @ucanAddFields_init dev _ (modeCommand ucanCmdResetMode) room [] ⟨inside_command rfl, fun _ _ => rfl⟩

theorem normalMode_built (room : 8 ≤ dev.cmdSize) :
    ∃ built, ucanAddCmdNormalMode (ucanInitCmd dev) = (built, some 0) ∧
      dev.Built built (modeCommand ucanCmdNormalMode) :=
  @ucanAddFields_init dev _ (modeCommand ucanCmdNormalMode) room [] ⟨inside_command rfl, fun _ _ => rfl⟩

theorem listenOnlyMode_built (room : 8 ≤ dev.cmdSize) :
    ∃ built, ucanAddCmdListenOnlyMode (ucanInitCmd dev) = (built, some 0) ∧
      dev.Built built (modeCommand ucanCmdListenOnlyMode) :=
  @ucanAddFields_init dev _ (modeCommand ucanCmdListenOnlyMode) room []
    ⟨inside_command rfl, fun _ _ => rfl⟩

theorem timingSlow_built (room : 8 ≤ dev.cmdSize) (pbr : PcanBittiming) :
    ∃ built, ucanAddTimingSlow (ucanInitCmd dev) pbr = (built, some 0) ∧
      dev.Built built (slowCommand pbr) :=
  @ucanAddFields_init dev _ (slowCommand pbr) room [] ⟨inside_command rfl, fun _ _ => rfl⟩

theorem timingFast_built (room : 8 ≤ dev.cmdSize) (pbr : PcanBittiming) :
    ∃ built, ucanAddTimingFast (ucanInitCmd dev) pbr = (built, some 0) ∧
      dev.Built built (fastCommand pbr) :=
  @ucanAddFields_init dev _ (fastCommand pbr) room [] ⟨inside_command rfl, fun _ _ => rfl⟩

theorem wrErrCnt_built (room : 8 ≤ dev.cmdSize) (selMask : U16) (txCounter rxCounter : U8) :
    ∃ built, ucanAddCmdWrErrCnt (ucanInitCmd dev) selMask txCounter rxCounter = (built, some 0) ∧
      dev.Built built (errCountCommand selMask txCounter rxCounter) :=
  @ucanAddFields_init dev _ (errCountCommand selMask txCounter rxCounter) room []
    ⟨inside_command rfl, fun _ _ => rfl⟩

theorem setEnOption_built (room : 8 ≤ dev.cmdSize) (mask : U16) :
    ∃ built, ucanAddCmdSetEnOption (ucanInitCmd dev) mask = (built, some 0) ∧
      dev.Built built (optionCommand ucanCmdSetEnOption mask 0) :=
  @ucanAddFields_init dev _ (optionCommand ucanCmdSetEnOption mask 0) room []
    ⟨inside_command rfl, fun _ _ => rfl⟩

theorem clrDisOption_built (room : 8 ≤ dev.cmdSize) (mask : U16) :
    ∃ built, ucanAddCmdClrDisOption (ucanInitCmd dev) mask = (built, some 0) ∧
      dev.Built built (optionCommand ucanCmdClrDisOption mask 0) :=
  @ucanAddFields_init dev _ (optionCommand ucanCmdClrDisOption mask 0) room []
    ⟨inside_command rfl, fun _ _ => rfl⟩

theorem usbSetEnOption_built (room : 8 ≤ dev.cmdSize) (mask usbMask : U16) :
    dev.Built (UcanDev.withUsbMask usbMask (ucanAddCmdSetEnOption (ucanInitCmd dev) mask))
      (optionCommand ucanCmdSetEnOption mask usbMask) := by
  obtain ⟨built, adds, has⟩ := @ucanAddFields_init dev (fun cmd => [⟨cmd + 2, le16 mask⟩])
    (optionCommand ucanCmdSetEnOption mask usbMask) room [⟨0 + 6, le16 usbMask⟩]
    ⟨inside_command rfl, fun _ _ => rfl⟩
  have added : ucanAddCmdSetEnOption (ucanInitCmd dev) mask = (built, some 0) := adds
  rw [added]
  exact has

theorem usbClrDisOption_built (room : 8 ≤ dev.cmdSize) (mask usbMask : U16) :
    dev.Built (UcanDev.withUsbMask usbMask (ucanAddCmdClrDisOption (ucanInitCmd dev) mask))
      (optionCommand ucanCmdClrDisOption mask usbMask) := by
  obtain ⟨built, adds, has⟩ := @ucanAddFields_init dev (fun cmd => [⟨cmd + 2, le16 mask⟩])
    (optionCommand ucanCmdClrDisOption mask usbMask) room [⟨0 + 6, le16 usbMask⟩]
    ⟨inside_command rfl, fun _ _ => rfl⟩
  have added : ucanAddCmdClrDisOption (ucanInitCmd dev) mask = (built, some 0) := adds
  rw [added]
  exact has

theorem clckDomain_built (room : 8 ≤ dev.cmdSize) (mode : U8) :
    ∃ built, (ucanAddFields (ucanInitCmd dev) ucanUsbCmdClkSet fun cmd => [⟨cmd + 2, [mode]⟩]) =
        (built, some 0) ∧ dev.Built built (clockCommand mode) :=
  @ucanAddFields_init dev _ (clockCommand mode) room [] ⟨inside_command rfl, fun _ _ => rfl⟩

theorem canLed_built (room : 8 ≤ dev.cmdSize) (mode : U8) :
    ∃ built, (ucanAddFields (ucanInitCmd dev) ucanUsbCmdLedSet fun cmd => [⟨cmd + 2, [mode]⟩]) =
        (built, some 0) ∧ dev.Built built (ledCommand mode) :=
  @ucanAddFields_init dev _ (ledCommand mode) room [] ⟨inside_command rfl, fun _ _ => rfl⟩

theorem deviceNr_built (room : 8 ≤ dev.cmdSize) (deviceNr : U32) :
    ∃ built, (ucanAddFields (ucanInitCmd dev) ucanUsbCmdDevidSet fun cmd =>
        [⟨cmd + 4, le32 deviceNr⟩]) = (built, some 0) ∧ dev.Built built (deviceNrCommand deviceNr) :=
  @ucanAddFields_init dev _ (deviceNrCommand deviceNr) room [] ⟨inside_command rfl, fun _ _ => rfl⟩

variable (regs : UcanRegs)

theorem exec_reset : regs.exec (modeCommand ucanCmdResetMode) = { regs with mode := .reset } := rfl

theorem exec_normal : regs.exec (modeCommand ucanCmdNormalMode) = { regs with mode := .normal } := rfl

theorem exec_listenOnly :
    regs.exec (modeCommand ucanCmdListenOnlyMode) = { regs with mode := .listenOnly } := rfl

theorem exec_slow (pbr : PcanBittiming) :
    regs.exec (slowCommand pbr) = { regs with slow := ucanAddCmdTimingSlow pbr } :=
  congrArg (fun brp => { regs with slow := { ucanAddCmdTimingSlow pbr with brp := brp } })
    (bytes_join (ucanAddCmdTimingSlow pbr).brp)

theorem exec_fast (pbr : PcanBittiming) :
    regs.exec (fastCommand pbr) = { regs with fast := ucanAddCmdTimingFast pbr } :=
  congrArg (fun brp => { regs with fast := { ucanAddCmdTimingFast pbr with brp := brp } })
    (bytes_join (ucanAddCmdTimingFast pbr).brp)

theorem exec_errCount :
    regs.exec (errCountCommand (ucanWrerrcntTe ||| ucanWrerrcntRe) 0 0) =
      { regs with txCounter := 0, rxCounter := 0 } := by
  rfl

theorem exec_setEnOption (mask usbMask : U16) :
    regs.exec (optionCommand ucanCmdSetEnOption mask usbMask) =
      { regs with options := regs.options ||| mask, usbOptions := regs.usbOptions ||| usbMask } :=
  congrArg₂ (fun mask usbMask =>
    { regs with options := regs.options ||| mask, usbOptions := regs.usbOptions ||| usbMask })
    (bytes_join mask) (bytes_join usbMask)

theorem exec_clrDisOption (mask usbMask : U16) :
    regs.exec (optionCommand ucanCmdClrDisOption mask usbMask) =
      { regs with
        options := regs.options &&& ~~~mask, usbOptions := regs.usbOptions &&& ~~~usbMask } :=
  congrArg₂ (fun mask usbMask =>
    { regs with options := regs.options &&& ~~~mask, usbOptions := regs.usbOptions &&& ~~~usbMask })
    (bytes_join mask) (bytes_join usbMask)

theorem exec_clock (mode : U8) : regs.exec (clockCommand mode) = { regs with clock := mode } := rfl

theorem exec_filterRow (i : Nat) :
    regs.exec (filterRow i) = { regs with
      stdFilter := Function.update regs.stdFilter (BitVec.ofNat 8 i) 0xffffffff } := by
  have ones : u32At (fun _ => 0xff) 0 = 0xffffffff := by decide
  exact congrArg (fun mask => { regs with
    stdFilter := Function.update regs.stdFilter (BitVec.ofNat 8 i) mask }) ones

end Commands

end PcanDriver

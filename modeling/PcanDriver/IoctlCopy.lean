import PcanDriver.InitErrors
import PcanDriver.ListIoctl
import PcanDriver.Options
import PcanDriver.UsbDecode

/-!
What the ioctls do when their argument cannot be copied from the user: the commands of
`__pcan_ioctl` and `pcan_compat_ioctl` (`pcan_fops_linux.c`), the handlers behind them
(`pcan_fops.c`) and the set functions of the options (`pcan_main.c`). What a command does
with an argument that it has got is an operation here, except for the settings.
-/
namespace PcanDriver
variable {P : Type}

def enotty : Int := 25

def pcanDevTxpauseRdy : U32 := 0x00080000
def pcanDevHwtsRdy : U32 := 0x00100000
def pcanDevHwtscRdy : U32 := 0x00200000

section Copies

/-- The bytes that a copy of so many from an address gets before it meets one that cannot
    be read. -/
abbrev UserMemory := Nat → Nat → List U8

/-- What is in the kernel's structure after a copy, and whether `copy_from_user` has
    returned nonzero. -/
structure UserCopy where
  bytes : List U8
  fault : Bool
deriving Repr, DecidableEq

def copyFromUser (user : UserMemory) (addr n : Nat) : UserCopy :=
  let got := (user addr n).take n
  ⟨got ++ List.replicate (n - got.length) 0, got.length < n⟩

def wordAt (bytes : List U8) (offset : Nat) : U32 := u32At (fun k => bytes.getD k 0) offset

/-- A command's result: no error where the call does not come back, the copies from the
    user that it has made, and what it has done with its buffer. -/
structure IoctlResult (P : Type) where
  dev : Pcandev P
  err : Option Int
  copies : List UserCopy
  buffers : List (Ledger.Entry Unit)

def ended (done : Pcandev P × Int) : IoctlResult P := ⟨done.1, some done.2, [], []⟩

def copyThen (user : UserMemory) (up n : Nat) (dev : Pcandev P)
    (next : List U8 → IoctlResult P) : IoctlResult P :=
  let c := copyFromUser user up n
  if c.fault then ⟨dev, some (-efault), [c], []⟩
  else { next c.bytes with copies := c :: (next c.bytes).copies }

end Copies

section Options

structure Copying (P : Type) where
  dev : Pcandev P
  copies : List UserCopy

abbrev CopiedOperation (P : Type) := List U8 → Pcandev P → Pcandev P × Int

/-- A set function that has the value copied into a member of the device: `store`. -/
def setMember (user : UserMemory) (n : Nat) (store : Pcandev P → List U8 → Pcandev P)
    (finish : Pcandev P → Pcandev P) : OptionCallback (Copying P) := fun state opt =>
  let c := copyFromUser user opt.value.toNat n
  let stored := store state.dev c.bytes
  if c.fault then ⟨⟨stored, state.copies ++ [c]⟩, opt.size, -efault⟩
  else ⟨⟨finish stored, state.copies ++ [c]⟩, opt.size, 0⟩

/-- A set function that has it copied into a variable of its own. -/
def setLocal (user : UserMemory) (n : Nat) (apply : CopiedOperation P) :
    OptionCallback (Copying P) := fun state opt =>
  let c := copyFromUser user opt.value.toNat n
  if c.fault then ⟨⟨state.dev, state.copies ++ [c]⟩, opt.size, -efault⟩
  else
    let done := apply c.bytes state.dev
    ⟨⟨done.1, state.copies ++ [c]⟩, opt.size, done.2⟩

def storeAllowedMsgs (dev : Pcandev P) (bytes : List U8) : Pcandev P :=
  { dev with allowedMsgs := wordAt bytes 0 }

def pcanSetAllowedMsgs (user : UserMemory) : OptionCallback (Copying P) :=
  setMember user 4 storeAllowedMsgs id

/-- `value64` is the mask, then the code. -/
def accFilterAt (bytes : List U8) : AccFilter := ⟨wordAt bytes 0, wordAt bytes 4⟩

def storeAcc29b (dev : Pcandev P) (bytes : List U8) : Pcandev P :=
  { dev with acc29b := accFilterAt bytes }

def setAccFilter29bOption (user : UserMemory) : OptionCallback (Copying P) :=
  setMember user 8 storeAcc29b fun dev => pcanSetAccFilter29b dev dev.acc29b

def storeAcc11b (dev : Pcandev P) (bytes : List U8) : Pcandev P :=
  { dev with acc11b := accFilterAt bytes }

def setAccFilter11bOption (user : UserMemory) : OptionCallback (Copying P) :=
  setMember user 8 storeAcc11b fun dev => pcanSetAccFilter11b dev dev.acc11b

def storeIfrmDelay (dev : Pcandev P) (bytes : List U8) : Pcandev P :=
  { dev with txIframeDelayUs := wordAt bytes 0 }

def pcanSetIfrmDelayUs (user : UserMemory) : OptionCallback (Copying P) := fun state opt =>
  if state.dev.flags &&& pcanDevTxpauseRdy = 0 then ⟨state, opt.size, -eopnotsupp⟩
  else setMember user 4 storeIfrmDelay id state opt

/-- The switch of `pcan_set_ts_mode`. -/
def applyTsMode : CopiedOperation P := fun bytes dev =>
  let ready := dev.flags &&& pcanDevHwtsRdy ≠ 0
  let set := fun mode : HwTimestamp => ({ dev with tsMode := mode }, 0)
  match (wordAt bytes 0).toNat with
  | 0 => set .off
  | 1 => if ready then set .on else (dev, -eopnotsupp)
  | 2 =>
    if ready then set (if dev.flags &&& pcanDevHwtscRdy = 0 then .on else .cooked)
    else (dev, -eopnotsupp)
  | 3 => if ready then set .raw else (dev, -eopnotsupp)
  | _ => (dev, -einval)

def pcanSetTsMode (user : UserMemory) : OptionCallback (Copying P) := setLocal user 4 applyTsMode

/-- The set functions of the driver. Those of USB devices refuse the option before they
    read its value, or have it copied into a variable. -/
inductive SetFunction (P : Type) where
  | allowedMsgs
  | accFilter29b
  | accFilter11b
  | ifrmDelayUs
  | tsMode
  | usb (refused : Pcandev P → PcanfdOption → Option Int) (apply : CopiedOperation P)

def SetFunction.call (user : UserMemory) : SetFunction P → OptionCallback (Copying P)
  | .allowedMsgs => pcanSetAllowedMsgs user
  | .accFilter29b => setAccFilter29bOption user
  | .accFilter11b => setAccFilter11bOption user
  | .ifrmDelayUs => pcanSetIfrmDelayUs user
  | .tsMode => pcanSetTsMode user
  | .usb refused apply => fun state opt =>
    match refused state.dev opt with
    | some err => ⟨state, opt.size, err⟩
    | none => setLocal user 4 apply state opt

/-- An entry of `dev->option`. -/
structure OptionFunctions (P : Type) where
  reqSize : Int
  get : Option (OptionCallback (Pcandev P))
  set : Option (SetFunction P)

/-- A get function copies nothing from the user. -/
def Copying.gets (get : OptionCallback (Pcandev P)) : OptionCallback (Copying P) :=
  fun state opt =>
    let answer := get state.dev opt
    ⟨⟨answer.dev, state.copies⟩, answer.size, answer.err⟩

def optionTable (user : UserMemory) (functions : Int → OptionFunctions P) :
    OptionTable (Copying P) := fun name =>
  ⟨(functions name).reqSize, (functions name).get.map Copying.gets,
    (functions name).set.map (·.call user)⟩

def pcanfdOptionAt (bytes : List U8) : PcanfdOption :=
  ⟨(wordAt bytes 0).toInt, (wordAt bytes 4).toInt, wordAt bytes 12 ++ wordAt bytes 8⟩

def pcanfdOption32At (bytes : List U8) : PcanfdOption32 :=
  ⟨(wordAt bytes 0).toInt, (wordAt bytes 4).toInt, wordAt bytes 8⟩

def optionEnded (result : OptionResult (Copying P)) : IoctlResult P :=
  ⟨result.dev.dev, some result.err, result.dev.copies, []⟩

end Options

section Commands

structure IoctlOperations (P : Type) where
  init : CopiedOperation P
  deviceParams : Option (CopiedOperation P)
  sendMsg : CopiedOperation P
  sendMsgs : List (List U8) → Pcandev P → Pcandev P × Int
  recvMsgs : CopiedOperation P
  getAvClocks : CopiedOperation P
  getBittimingRanges : CopiedOperation P
  addFilters : List U8 → Option FilterChain → Option FilterChain × Int
  getFilters : CopiedOperation P
  filtersCount : Pcandev P → Int

/-- What a call meets: the user's memory and whether the driver can write there, what the
    kernel has memory for, and the channel's hardware. -/
structure IoctlEnv (P : Type) where
  user : UserMemory
  writable : Bool
  memory : Nat → Bool
  operations : IoctlOperations P
  options : Int → OptionFunctions P
  hw : TimingDevice
  moments : OpenMoments

structure InitFunctions (P : Type) where
  deviceRelease : Pcandev P → Pcandev P
  openFunctions : OpenFunctions P

variable (env : IoctlEnv P) (up : Nat) (dev : Pcandev P)

/-- The end of commands that give something back to the user in any case. -/
def copyBack (done : Pcandev P × Int) : IoctlResult P :=
  ended (done.1, if env.writable then done.2 else -efault)

def pcanIoctlInit : IoctlResult P :=
  copyThen env.user up 4 dev fun init => ended (env.operations.init init dev)

def pcanIoctlWrite : IoctlResult P :=
  copyThen env.user up 16 dev fun msg =>
    if 8 < (msg.getD 5 0).toNat then ended (dev, -einval)
    else ended (env.operations.sendMsg msg dev)

def btr0btr1Ioctl : IoctlResult P :=
  copyThen env.user up 8 dev fun btr0btr1 =>
    match pcanIoctlBtr0btr1 (wordAt btr0btr1 0) with
    | none => ⟨dev, none, [], []⟩
    | some word => if word = 0 then ended (dev, -einval) else copyBack env (dev, 0)

def pcanIoctlMsgFilter : IoctlResult P :=
  if up = 0 then ended ({ dev with filter := pcanDeleteFilterAll dev.filter }, 0)
  else
    copyThen env.user up 12 dev fun filter =>
      let added := pcanAddFilter dev.filter
        ⟨wordAt filter 0, wordAt filter 4, (filter.getD 8 0).setWidth 32⟩
      ended ({ dev with filter := added.1 }, added.2)

def pcanIoctlExtraParameters : IoctlResult P :=
  copyThen env.user up 8 dev fun params =>
    match env.operations.deviceParams with
    | none => ended (dev, -einval)
    | some deviceParams =>
      let done := deviceParams params dev
      if done.2 ≠ 0 then ended done else copyBack env done

def pcanBittimingAt (bytes : List U8) (offset : Nat) : PcanBittiming where
  brp := wordAt bytes offset
  tseg1 := wordAt bytes (offset + 4)
  tseg2 := wordAt bytes (offset + 8)
  sjw := wordAt bytes (offset + 12)
  tsam := wordAt bytes (offset + 16)
  bitrate := wordAt bytes (offset + 20)
  samplePoint := wordAt bytes (offset + 24)
  tq := wordAt bytes (offset + 28)
  bitrateReal := wordAt bytes (offset + 32)

def pcanfdInitAt (bytes : List U8) : PcanfdInit :=
  ⟨wordAt bytes 0, wordAt bytes 4, pcanBittimingAt bytes 8, pcanBittimingAt bytes 44⟩

/-- `PCANFD_SET_INIT`: the error of the copy is overwritten by that of the settings. -/
def setInitCommand (functions : InitFunctions P) : IoctlResult P :=
  let c := copyFromUser env.user up 80
  match setInitOn functions.deviceRelease functions.openFunctions env.moments env.hw dev
      (pcanfdInitAt c.bytes) with
  | none => ⟨dev, none, [c], []⟩
  | some done => ⟨done.1, some done.2, [c], []⟩

/-- `PCANFD_ADD_FILTERS`: the branch of the failed copy frees the list, and then all do. -/
def addFiltersIoctl : IoctlResult P :=
  if up = 0 then ended ({ dev with filter := pcanDeleteFilterAll dev.filter }, 0)
  else
    copyThen env.user up 4 dev fun head =>
      if wordAt head 0 = 0 then ended (dev, 0)
      else
        match pcanMalloc env.memory (listLength pcanfdMsgFilters (wordAt head 0)) with
        | none => ended (dev, -enomem)
        | some l =>
          let c := copyFromUser env.user up l
          let freed := if c.fault then [Ledger.Entry.release ()] else []
          let added :=
            if c.fault then (dev.filter, -efault)
            else env.operations.addFilters c.bytes dev.filter
          ⟨{ dev with filter := added.1 }, some added.2, [c],
            .acquire () :: (freed ++ [.release ()])⟩

/-- The list commands other than `PCANFD_ADD_FILTERS`: their buffer is freed at the end. -/
def withList (layout : ListLayout) (count : U32) (next : IoctlResult P) : IoctlResult P :=
  if count = 0 then ended (dev, 0)
  else
    match pcanMalloc env.memory (listLength layout count) with
    | none => ended (dev, -enomem)
    | some _ => { next with buffers := .acquire () :: (next.buffers ++ [.release ()]) }

def getFiltersIoctl : IoctlResult P :=
  if up = 0 then ended (dev, env.operations.filtersCount dev)
  else
    copyThen env.user up 4 dev fun head =>
      withList env dev pcanfdMsgFilters (wordAt head 0)
        (copyBack env (env.operations.getFilters head dev))

def sendMsgCommand : IoctlResult P :=
  copyThen env.user up 104 dev fun msg => ended (env.operations.sendMsg msg dev)

/-- The copies of `left` messages of so many bytes, from the `i`-th on. -/
def copyMessages (user : UserMemory) (list elem : Nat) : Nat → Nat → List UserCopy
  | 0, _ => []
  | left + 1, i =>
    let c := copyFromUser user (list + i * elem) elem
    if c.fault then [c] else c :: copyMessages user list elem left (i + 1)

/-- `handle_pcanfd_send_msgs` for messages of `elem` bytes. -/
def sendMsgsIoctl (elem : Nat) : IoctlResult P :=
  copyThen env.user up 8 dev fun head =>
    let copies := copyMessages env.user (up + 8) elem (wordAt head 0).toNat 0
    withList env dev pcanfdTxmsgs (wordAt head 0) <|
      if copies.any (·.fault) then ⟨dev, some (-efault), copies, []⟩
      else
        { copyBack env (env.operations.sendMsgs (copies.map (·.bytes)) dev) with
          copies := copies }

def recvMsgsIoctl : IoctlResult P :=
  copyThen env.user up 8 dev fun head =>
    withList env dev pcanfdRxmsgs (wordAt head 0)
      (copyBack env (env.operations.recvMsgs head dev))

def handlePcanfdGetAvClocks : IoctlResult P :=
  copyThen env.user up 4 dev fun head => copyBack env (env.operations.getAvClocks head dev)

def handlePcanfdGetBittimingRanges : IoctlResult P :=
  copyThen env.user up 4 dev fun head => copyBack env (env.operations.getBittimingRanges head dev)

def getOptionIoctl : IoctlResult P :=
  let c := copyFromUser env.user up 16
  optionEnded (handlePcanfdGetOption (optionTable env.user env.options)
    ⟨pcanfdOptionAt c.bytes, !c.fault, env.writable⟩ ⟨dev, [c]⟩)

def setOptionIoctl : IoctlResult P :=
  let c := copyFromUser env.user up 16
  optionEnded (handlePcanfdSetOption (optionTable env.user env.options)
    ⟨pcanfdOptionAt c.bytes, !c.fault, env.writable⟩ ⟨dev, [c]⟩)

def getOption32Ioctl : IoctlResult P :=
  let c := copyFromUser env.user up 12
  optionEnded (handlePcanfdGetOption32 (optionTable env.user env.options)
    ⟨pcanfdOption32At c.bytes, !c.fault, env.writable⟩ ⟨dev, [c]⟩)

def setOption32Ioctl : IoctlResult P :=
  let c := copyFromUser env.user up 12
  optionEnded (handlePcanfdSetOption32 (optionTable env.user env.options)
    ⟨pcanfdOption32At c.bytes, !c.fault, env.writable⟩ ⟨dev, [c]⟩)

/-- The bytes of the 32-bit message that are not copied in are left to the operation. -/
def sendMsg32Command : IoctlResult P :=
  copyThen env.user up 88 dev fun msg => ended (env.operations.sendMsg msg dev)

/-- The commands; those that take nothing from the user only give it an answer, if they can
    write it. -/
inductive IoctlCommand (P : Type) where
  | init
  | writeMsg
  | btr0btr1
  | msgFilter
  | extraParams
  | setInit
  | addFilters
  | getFilters
  | sendMsg
  | sendMsgs
  | recvMsgs
  | getAvailableClocks
  | getBittimingRanges
  | getOption
  | setOption
  | sendMsg32
  | sendMsgs32
  | recvMsgs32
  | getOption32
  | setOption32
  | answering (answer : Bool → Pcandev P → Pcandev P × Int)
  | unsupported

def pcanIoctl (functions : InitFunctions P) : IoctlCommand P → IoctlResult P
  | .init => pcanIoctlInit env up dev
  | .writeMsg => pcanIoctlWrite env up dev
  | .btr0btr1 => btr0btr1Ioctl env up dev
  | .msgFilter => pcanIoctlMsgFilter env up dev
  | .extraParams => pcanIoctlExtraParameters env up dev
  | .setInit => setInitCommand env up dev functions
  | .addFilters => addFiltersIoctl env up dev
  | .getFilters => getFiltersIoctl env up dev
  | .sendMsg => sendMsgCommand env up dev
  | .sendMsgs => sendMsgsIoctl env up dev 104
  | .recvMsgs => recvMsgsIoctl env up dev
  | .getAvailableClocks => handlePcanfdGetAvClocks env up dev
  | .getBittimingRanges => handlePcanfdGetBittimingRanges env up dev
  | .getOption => getOptionIoctl env up dev
  | .setOption => setOptionIoctl env up dev
  | .sendMsg32 => sendMsg32Command env up dev
  | .sendMsgs32 => sendMsgsIoctl env up dev 88
  | .recvMsgs32 => recvMsgsIoctl env up dev
  | .getOption32 => getOption32Ioctl env up dev
  | .setOption32 => setOption32Ioctl env up dev
  | .answering answer => ended (answer env.writable dev)
  | .unsupported => ended (dev, -enotty)

end Commands

section Statement

def Faulted (result : IoctlResult P) : Prop := ∃ c ∈ result.copies, c.fault = true

structure FaultMet (dev : Pcandev P) (result : IoctlResult P) : Prop where
  err : result.err = some (-efault)
  dev : result.dev = dev
  buffers : Ledger.Balanced result.buffers

def FaultHandled (dev : Pcandev P) (result : IoctlResult P) : Prop :=
  Faulted result → FaultMet dev result

/-- The value can be copied, or what is copied of it, with zeros for the rest, is what the
    member holds already. -/
def SetFunction.FaultSafe (user : UserMemory) (dev : Pcandev P) (opt : PcanfdOption) :
    SetFunction P → Prop
  | .allowedMsgs =>
    let c := copyFromUser user opt.value.toNat 4
    c.fault = true → wordAt c.bytes 0 = dev.allowedMsgs
  | .accFilter29b =>
    let c := copyFromUser user opt.value.toNat 8
    c.fault = true → accFilterAt c.bytes = dev.acc29b
  | .accFilter11b =>
    let c := copyFromUser user opt.value.toNat 8
    c.fault = true → accFilterAt c.bytes = dev.acc11b
  | .ifrmDelayUs =>
    let c := copyFromUser user opt.value.toNat 4
    dev.flags &&& pcanDevTxpauseRdy ≠ 0 → c.fault = true → wordAt c.bytes 0 = dev.txIframeDelayUs
  | .tsMode | .usb .. => True

/-- The same of a request: `sized` says that the handler does not refuse its size. -/
def OptionFaultSafe (env : IoctlEnv P) (dev : Pcandev P) (opt : PcanfdOption) (sized : Prop) :
    Prop :=
  opt.name < pcanfdOptMax → sized →
    ∀ set, (env.options opt.name).set = some set → set.FaultSafe env.user dev opt

/-- The commands and arguments whose failed copies are met: all but settings that cannot be
    copied, a filter list that cannot be copied behind its count, and values of options that
    are copied into the device. -/
def IoctlCommand.FaultSafe (env : IoctlEnv P) (up : Nat) (dev : Pcandev P) :
    IoctlCommand P → Prop
  | .setInit => (copyFromUser env.user up 80).fault = false
  | .addFilters =>
    let head := copyFromUser env.user up 4
    up ≠ 0 → head.fault = false → wordAt head.bytes 0 ≠ 0 →
      ∀ l, pcanMalloc env.memory (listLength pcanfdMsgFilters (wordAt head.bytes 0)) = some l →
        (copyFromUser env.user up l).fault = false
  | .setOption =>
    let c := copyFromUser env.user up 16
    let opt := pcanfdOptionAt c.bytes
    c.fault = false → OptionFaultSafe env dev opt
      (¬(0 < (env.options opt.name).reqSize ∧ opt.size < (env.options opt.name).reqSize))
  | .setOption32 =>
    let c := copyFromUser env.user up 12
    c.fault = false → OptionFaultSafe env dev (pcanfdOption32At c.bytes).native True
  | _ => True

end Statement

section Handled
variable {user : UserMemory} {up n : Nat} {dev : Pcandev P} {next : List U8 → IoctlResult P}

theorem handled_of_none {result : IoctlResult P} (none : result.copies = []) :
    FaultHandled dev result := by
  rintro ⟨c, member, _⟩
  rw [none] at member
  cases member

theorem ended_handled (done : Pcandev P × Int) : FaultHandled dev (ended done) :=
  handled_of_none rfl

theorem copyBack_handled (env : IoctlEnv P) (done : Pcandev P × Int) :
    FaultHandled dev (copyBack env done) := handled_of_none rfl

theorem copyThen_handled :
    FaultHandled dev (copyThen user up n dev next) ↔
      ((copyFromUser user up n).fault = false →
        FaultHandled dev (next (copyFromUser user up n).bytes)) := by
  unfold copyThen
  simp only
  generalize copyFromUser user up n = c
  cases fault : c.fault with
  | true => exact iff_of_true (fun _ => ⟨rfl, rfl, fun _ => rfl⟩) nofun
  | false =>
    rw [if_neg Bool.false_ne_true]
    have same : Faulted { next c.bytes with copies := c :: (next c.bytes).copies } ↔
        Faulted (next c.bytes) := by
      simp [Faulted, fault]
    constructor
    · intro handled _ faulted
      have met := handled (same.mpr faulted)
      exact ⟨met.err, met.dev, met.buffers⟩
    · intro handled faulted
      have met := handled rfl (same.mp faulted)
      exact ⟨met.err, met.dev, met.buffers⟩

theorem copyThen_handled_all (each : ∀ bytes, FaultHandled dev (next bytes)) :
    FaultHandled dev (copyThen user up n dev next) :=
  copyThen_handled.mpr fun _ => each _

theorem balanced_pair : Ledger.Balanced [Ledger.Entry.acquire (), .release ()] := fun _ => rfl

theorem withList_handled (env : IoctlEnv P) (layout : ListLayout) (count : U32)
    {result : IoctlResult P} (handled : FaultHandled dev result) (none : result.buffers = []) :
    FaultHandled dev (withList env dev layout count result) := by
  unfold withList
  split
  · exact ended_handled _
  · split
    · exact ended_handled _
    · intro faulted
      have met := handled faulted
      refine ⟨met.err, met.dev, ?_⟩
      simp only [none, List.nil_append]
      exact balanced_pair

theorem sendMsgsIoctl_handled (env : IoctlEnv P) (elem : Nat) :
    FaultHandled dev (sendMsgsIoctl env up dev elem) := by
  apply copyThen_handled_all
  intro head
  apply withList_handled
  · split
    · exact fun _ => ⟨rfl, rfl, fun _ => rfl⟩
    · rename_i read
      rintro ⟨c, member, fault⟩
      exact absurd (List.any_eq_true.mpr ⟨c, member, fault⟩) read
  · split <;> rfl

theorem pcanIoctlWrite_handled (env : IoctlEnv P) :
    FaultHandled dev (pcanIoctlWrite env up dev) := by
  apply copyThen_handled_all
  intro msg
  split <;> exact ended_handled _

theorem btr0btr1Ioctl_handled (env : IoctlEnv P) :
    FaultHandled dev (btr0btr1Ioctl env up dev) := by
  apply copyThen_handled_all
  intro btr0btr1
  split
  · exact handled_of_none rfl
  · split
    · exact ended_handled _
    · exact copyBack_handled env _

theorem pcanIoctlMsgFilter_handled (env : IoctlEnv P) :
    FaultHandled dev (pcanIoctlMsgFilter env up dev) := by
  unfold pcanIoctlMsgFilter
  split
  · exact ended_handled _
  · exact copyThen_handled_all fun _ => ended_handled _

theorem pcanIoctlExtraParameters_handled (env : IoctlEnv P) :
    FaultHandled dev (pcanIoctlExtraParameters env up dev) := by
  apply copyThen_handled_all
  intro params
  split
  · exact ended_handled _
  · simp only
    split
    · exact ended_handled _
    · exact copyBack_handled env _

theorem getFiltersIoctl_handled (env : IoctlEnv P) :
    FaultHandled dev (getFiltersIoctl env up dev) := by
  unfold getFiltersIoctl
  split
  · exact ended_handled _
  · exact copyThen_handled_all fun _ => withList_handled env _ _ (copyBack_handled env _) rfl

theorem recvMsgsIoctl_handled (env : IoctlEnv P) :
    FaultHandled dev (recvMsgsIoctl env up dev) :=
  copyThen_handled_all fun _ => withList_handled env _ _ (copyBack_handled env _) rfl

theorem addFilters_handled_iff (env : IoctlEnv P) :
    FaultHandled dev (addFiltersIoctl env up dev) ↔
      IoctlCommand.FaultSafe env up dev .addFilters := by
  unfold addFiltersIoctl IoctlCommand.FaultSafe
  by_cases absent : up = 0
  · rw [if_pos absent]
    exact iff_of_true (ended_handled _) fun there => absurd absent there
  rw [if_neg absent, copyThen_handled]
  simp only [ne_eq, absent, not_false_eq_true, forall_const]
  refine imp_congr_right fun _ => ?_
  by_cases empty : wordAt (copyFromUser env.user up 4).bytes 0 = 0
  · rw [if_pos empty]
    exact iff_of_true (ended_handled _) fun counted => absurd empty counted
  rw [if_neg empty]
  simp only [empty, not_false_eq_true, forall_const]
  cases pcanMalloc env.memory
      (listLength pcanfdMsgFilters (wordAt (copyFromUser env.user up 4).bytes 0)) with
  | none => exact iff_of_true (ended_handled _) nofun
  | some l =>
    simp only [Option.some.injEq, forall_eq']
    generalize copyFromUser env.user up l = c
    cases fault : c.fault with
    | false =>
      refine iff_of_true ?_ rfl
      rintro ⟨c', member, faulted⟩
      rw [List.mem_singleton.mp member, fault] at faulted
      cases faulted
    | true =>
      refine iff_of_false ?_ nofun
      intro handled
      have met := handled ⟨c, List.mem_singleton.mpr rfl, fault⟩
      have twice : Ledger.Balanced [Ledger.Entry.acquire (), .release (), .release ()] :=
        met.buffers
      exact absurd (twice ()) (by decide)

end Handled

section Settings

/-- Functions of a device that is opened whatever it is given. -/
def openingFunctions : InitFunctions P where
  deviceRelease dev := dev
  openFunctions := ⟨fun _ _ _ dev => (dev, 0), fun _ dev => (dev, 0)⟩

theorem setInitOn_opening {moments : OpenMoments} {hw : TimingDevice} {dev : Pcandev P}
    {pfdi : PcanfdInit} {done : Pcandev P × Int}
    (ended : setInitOn openingFunctions.deviceRelease openingFunctions.openFunctions moments hw
      dev pfdi = some done) : InitError done.2 := by
  unfold setInitOn at ended
  simp only at ended
  split at ended
  next failed => exact absurd rfl failed
  · obtain ⟨result, checked, same⟩ := Option.map_eq_some_iff.mp ended
    subst same
    cases result with
    | refused err => exact pcanfdDevOpen_error checked
    | deviceOpen => exact .inl rfl
    | deviceOpenFd => exact .inl rfl

theorem setInit_handled_iff (env : IoctlEnv P) (up : Nat) (dev : Pcandev P) :
    (∀ functions, FaultHandled dev (setInitCommand env up dev functions)) ↔
      IoctlCommand.FaultSafe env up dev .setInit := by
  unfold setInitCommand IoctlCommand.FaultSafe
  generalize copyFromUser env.user up 80 = c
  cases fault : c.fault with
  | false =>
    refine iff_of_true (fun functions => ?_) rfl
    rintro ⟨c', member, faulted⟩
    have only : c' = c := by
      simp only at member
      split at member <;> exact List.mem_singleton.mp member
    rw [only, fault] at faulted
    cases faulted
  | true =>
    refine iff_of_false (fun handled => ?_) nofun
    have met := handled openingFunctions
    simp only at met
    split at met
    · have error := (met ⟨c, List.mem_singleton.mpr rfl, fault⟩).err
      cases error
    · rename_i done ended
      have error := (met ⟨c, List.mem_singleton.mpr rfl, fault⟩).err
      have possible := setInitOn_opening ended
      rw [Option.some.inj error] at possible
      exact absurd possible (by unfold InitError; decide)

end Settings

section SetFunctions
variable {user : UserMemory} {dev : Pcandev P} {c : UserCopy}

theorem answered_handled {left : OptionResult (Copying P)} {answer : OptionAnswer (Copying P)}
    (read : c.fault = false) (more : List UserCopy) (copies : answer.dev.copies = [c] ++ more)
    (met : (∃ c' ∈ more, c'.fault = true) → answer.err = -efault ∧ answer.dev.dev = dev) :
    FaultHandled dev (optionEnded (left.answered answer)) := by
  rintro ⟨c', member, fault⟩
  simp only [optionEnded, OptionResult.answered, copies, List.singleton_append,
    List.mem_cons] at member
  rcases member with first | later
  · rw [first, read] at fault
    cases fault
  · obtain ⟨err, same⟩ := met ⟨c', later, fault⟩
    exact ⟨congrArg some err, same, fun _ => rfl⟩

theorem setMember_handled_iff (read : c.fault = false) {left : OptionResult (Copying P)} (n : Nat)
    (store : Pcandev P → List U8 → Pcandev P) (finish : Pcandev P → Pcandev P)
    (opt : PcanfdOption) :
    FaultHandled dev (optionEnded (left.answered (setMember user n store finish ⟨dev, [c]⟩ opt))) ↔
      ((copyFromUser user opt.value.toNat n).fault = true →
        store dev (copyFromUser user opt.value.toNat n).bytes = dev) := by
  unfold setMember
  simp only
  generalize copyFromUser user opt.value.toNat n = value
  cases fault : value.fault with
  | false =>
    refine iff_of_true ?_ fun faulted => absurd faulted Bool.false_ne_true
    rw [if_neg Bool.false_ne_true]
    apply answered_handled read [value] rfl
    rintro ⟨c', member, faulted⟩
    rw [List.mem_singleton.mp member, fault] at faulted
    cases faulted
  | true =>
    simp only [if_true, forall_const]
    constructor
    · intro handled
      exact (handled ⟨value, by simp [optionEnded, OptionResult.answered], fault⟩).dev
    · intro same
      exact answered_handled read [value] rfl fun _ => ⟨rfl, same⟩

theorem setLocal_handled (read : c.fault = false) {left : OptionResult (Copying P)} (n : Nat)
    (apply : CopiedOperation P) (opt : PcanfdOption) :
    FaultHandled dev (optionEnded (left.answered (setLocal user n apply ⟨dev, [c]⟩ opt))) := by
  unfold setLocal
  simp only
  generalize copyFromUser user opt.value.toNat n = value
  cases fault : value.fault with
  | false =>
    rw [if_neg Bool.false_ne_true]
    apply answered_handled read [value] rfl
    rintro ⟨c', member, faulted⟩
    rw [List.mem_singleton.mp member, fault] at faulted
    cases faulted
  | true =>
    rw [if_pos rfl]
    exact answered_handled read [value] rfl fun _ => ⟨rfl, rfl⟩

theorem refused_handled (read : c.fault = false) {left : OptionResult (Copying P)} (size err : Int) :
    FaultHandled dev (optionEnded (left.answered ⟨⟨dev, [c]⟩, size, err⟩)) := by
  apply answered_handled read [] rfl
  rintro ⟨_, member, _⟩
  cases member

theorem storeAllowedMsgs_same {bytes : List U8} :
    storeAllowedMsgs dev bytes = dev ↔ wordAt bytes 0 = dev.allowedMsgs :=
  ⟨congrArg Pcandev.allowedMsgs, fun same => by rw [storeAllowedMsgs, same]⟩

theorem storeAcc29b_same {bytes : List U8} :
    storeAcc29b dev bytes = dev ↔ accFilterAt bytes = dev.acc29b :=
  ⟨congrArg Pcandev.acc29b, fun same => by rw [storeAcc29b, same]⟩

theorem storeAcc11b_same {bytes : List U8} :
    storeAcc11b dev bytes = dev ↔ accFilterAt bytes = dev.acc11b :=
  ⟨congrArg Pcandev.acc11b, fun same => by rw [storeAcc11b, same]⟩

theorem storeIfrmDelay_same {bytes : List U8} :
    storeIfrmDelay dev bytes = dev ↔ wordAt bytes 0 = dev.txIframeDelayUs :=
  ⟨congrArg Pcandev.txIframeDelayUs, fun same => by rw [storeIfrmDelay, same]⟩

theorem setFunction_handled_iff (read : c.fault = false) {left : OptionResult (Copying P)}
    (opt : PcanfdOption) (set : SetFunction P) :
    FaultHandled dev (optionEnded (left.answered (set.call user ⟨dev, [c]⟩ opt))) ↔
      set.FaultSafe user dev opt := by
  cases set with
  | allowedMsgs =>
    rw [SetFunction.call, pcanSetAllowedMsgs, setMember_handled_iff read]
    simp only [storeAllowedMsgs_same, SetFunction.FaultSafe]
  | accFilter29b =>
    rw [SetFunction.call, setAccFilter29bOption, setMember_handled_iff read]
    simp only [storeAcc29b_same, SetFunction.FaultSafe]
  | accFilter11b =>
    rw [SetFunction.call, setAccFilter11bOption, setMember_handled_iff read]
    simp only [storeAcc11b_same, SetFunction.FaultSafe]
  | ifrmDelayUs =>
    rw [SetFunction.call, pcanSetIfrmDelayUs]
    simp only [SetFunction.FaultSafe]
    by_cases ready : dev.flags &&& pcanDevTxpauseRdy = 0
    · rw [if_pos ready]
      exact iff_of_true (refused_handled read _ _) fun other => absurd ready other
    · rw [if_neg ready, setMember_handled_iff read]
      simp only [storeIfrmDelay_same, ne_eq, ready, not_false_eq_true, forall_const]
  | tsMode => exact iff_of_true (setLocal_handled read _ _ _) trivial
  | usb refused apply =>
    refine iff_of_true ?_ trivial
    simp only [SetFunction.call]
    split
    · exact refused_handled read _ _
    · exact setLocal_handled read _ _ _

end SetFunctions

section Main
variable (env : IoctlEnv P) (up : Nat) (dev : Pcandev P)

theorem option_only {c : UserCopy} {result : OptionResult (Copying P)}
    (copies : result.dev.copies = [c]) (met : c.fault = true → result.err = -efault ∧
      result.dev.dev = dev) : FaultHandled dev (optionEnded result) := by
  rintro ⟨c', member, fault⟩
  simp only [optionEnded, copies] at member
  rw [List.mem_singleton.mp member] at fault
  obtain ⟨err, same⟩ := met fault
  exact ⟨congrArg some err, same, fun _ => rfl⟩

theorem lblCpySize_dev (writable : Bool) (left : OptionResult (Copying P)) (size : Int) :
    (lblCpySize writable left size).dev = left.dev := by
  unfold lblCpySize
  split <;> rfl

theorem getOption_copies (opt : PcanfdOption) (writable : Bool) (left : OptionResult (Copying P)) :
    (getOption (optionTable env.user env.options) opt writable left).dev.copies =
      left.dev.copies := by
  unfold getOption optionTable
  cases (env.options opt.name).get with
  | none => rfl
  | some get =>
    simp only [Option.map_some]
    split
    · rw [lblCpySize_dev]
    · split
      · rfl
      · rw [lblCpySize_dev]
        rfl

theorem copyOption_faulted {readable : Bool} (unread : readable = false) (name : Int)
    (left : OptionResult (Copying P))
    (next : OptionResult (Copying P) → OptionResult (Copying P)) :
    copyOption readable name left next = { left with err := -efault } := by
  unfold copyOption
  rw [if_pos unread]

theorem copyOption_read {readable : Bool} (read : readable = true) (name : Int)
    (left : OptionResult (Copying P))
    (next : OptionResult (Copying P) → OptionResult (Copying P)) :
    copyOption readable name left next =
      if pcanfdOptMax ≤ name then { left with err := -einval }
      else next { left with consulted := [name] } := by
  unfold copyOption
  rw [if_neg (by rw [read]; exact Bool.noConfusion)]

theorem getOption_handled (c : UserCopy) (opt : PcanfdOption) (size : Int) :
    FaultHandled dev (optionEnded (copyOption (!c.fault) opt.name ⟨⟨dev, [c]⟩, 0, size, [], false⟩
      (getOption (optionTable env.user env.options) opt env.writable))) := by
  cases fault : c.fault with
  | true =>
    rw [copyOption_faulted Bool.not_true]
    exact option_only dev rfl fun _ => ⟨rfl, rfl⟩
  | false =>
    rw [copyOption_read Bool.not_false]
    split
    · exact option_only dev rfl fun faulted => absurd (fault.symm.trans faulted) Bool.false_ne_true
    · refine option_only dev (getOption_copies env opt _ _) fun faulted => ?_
      exact absurd (fault.symm.trans faulted) Bool.false_ne_true

/-- The set handlers come to the set function if they can copy the option, know its name
    and do not refuse its size. -/
theorem setOption_handled_iff (c : UserCopy) (opt : PcanfdOption) (size : Int)
    (next : OptionResult (Copying P) → OptionResult (Copying P)) (sized : Prop)
    (called : ∀ left : OptionResult (Copying P), left.dev = ⟨dev, [c]⟩ → c.fault = false →
      (FaultHandled dev (optionEnded (next left)) ↔
        (sized → ∀ set, (env.options opt.name).set = some set →
          set.FaultSafe env.user dev opt))) :
    FaultHandled dev (optionEnded (copyOption (!c.fault) opt.name ⟨⟨dev, [c]⟩, 0, size, [], false⟩
      next)) ↔ (c.fault = false → OptionFaultSafe env dev opt sized) := by
  cases fault : c.fault with
  | true =>
    rw [copyOption_faulted Bool.not_true]
    exact iff_of_true (option_only dev rfl fun _ => ⟨rfl, rfl⟩) nofun
  | false =>
    rw [copyOption_read Bool.not_false]
    unfold OptionFaultSafe
    by_cases known : opt.name < pcanfdOptMax
    · rw [if_neg (not_le.mpr known), called _ rfl fault]
      simp only [known, forall_const]
    · rw [if_pos (not_lt.mp known)]
      refine iff_of_true (option_only dev rfl fun faulted => ?_) fun _ other => absurd other known
      exact absurd (fault.symm.trans faulted) Bool.false_ne_true

theorem setOption_calls {c : UserCopy} (opt : PcanfdOption) (left : OptionResult (Copying P))
    (state : left.dev = ⟨dev, [c]⟩) (read : c.fault = false) :
    FaultHandled dev (optionEnded
        (setOption (optionTable env.user env.options) opt env.writable left)) ↔
      (¬(0 < (env.options opt.name).reqSize ∧ opt.size < (env.options opt.name).reqSize) →
        ∀ set, (env.options opt.name).set = some set → set.FaultSafe env.user dev opt) := by
  have nothing : ∀ result : OptionResult (Copying P), result.dev = left.dev →
      FaultHandled dev (optionEnded result) := by
    intro result same
    refine option_only dev (by rw [same, state]) fun faulted => ?_
    exact absurd (read.symm.trans faulted) Bool.false_ne_true
  unfold setOption optionTable
  cases (env.options opt.name).set with
  | none => exact iff_of_true (nothing _ rfl) nofun
  | some set =>
    simp only [Option.map_some]
    split
    next small =>
      exact iff_of_true (nothing _ (lblCpySize_dev _ _ _)) fun other => absurd small other
    next sized =>
      rw [state, setFunction_handled_iff read]
      simp only [sized, not_false_eq_true, Option.some.injEq, forall_eq', forall_const]

theorem setOption32_calls {c : UserCopy} (opt : PcanfdOption) (left : OptionResult (Copying P))
    (state : left.dev = ⟨dev, [c]⟩) (read : c.fault = false) :
    FaultHandled dev (optionEnded
        (setOption32 (optionTable env.user env.options) opt left)) ↔
      (True → ∀ set, (env.options opt.name).set = some set → set.FaultSafe env.user dev opt) := by
  unfold setOption32 optionTable
  cases (env.options opt.name).set with
  | none =>
    refine iff_of_true (option_only dev (congrArg Copying.copies state) fun faulted => ?_) nofun
    exact absurd (read.symm.trans faulted) Bool.false_ne_true
  | some set =>
    simp only [Option.map_some]
    rw [state, setFunction_handled_iff read]
    simp only [Option.some.injEq, forall_eq', forall_const]

/-- Whatever the device's own functions do, a command that cannot copy its argument fails
    with this error, leaves the channel alone and frees its buffer once, except for the
    commands of which `FaultSafe` asks that they can. -/
theorem ioctl_faults_iff (command : IoctlCommand P) :
    (∀ functions, FaultHandled dev (pcanIoctl env up dev functions command)) ↔
      command.FaultSafe env up dev := by
  have always : ∀ {result : IoctlResult P}, FaultHandled dev result →
      ((∀ _ : InitFunctions P, FaultHandled dev result) ↔ True) :=
    fun handled => iff_of_true (fun _ => handled) trivial
  have given : ∀ {handled safe : Prop}, (handled ↔ safe) →
      ((∀ _ : InitFunctions P, handled) ↔ safe) :=
    fun same => ⟨fun all => same.mp (all openingFunctions), fun safe _ => same.mpr safe⟩
  cases command with
  | init => exact always (copyThen_handled_all fun _ => ended_handled _)
  | writeMsg => exact always (pcanIoctlWrite_handled env)
  | btr0btr1 => exact always (btr0btr1Ioctl_handled env)
  | msgFilter => exact always (pcanIoctlMsgFilter_handled env)
  | extraParams => exact always (pcanIoctlExtraParameters_handled env)
  | setInit => exact setInit_handled_iff env up dev
  | addFilters => exact given (addFilters_handled_iff env)
  | getFilters => exact always (getFiltersIoctl_handled env)
  | sendMsg => exact always (copyThen_handled_all fun _ => ended_handled _)
  | sendMsgs => exact always (sendMsgsIoctl_handled env 104)
  | recvMsgs => exact always (recvMsgsIoctl_handled env)
  | getAvailableClocks => exact always (copyThen_handled_all fun _ => copyBack_handled env _)
  | getBittimingRanges => exact always (copyThen_handled_all fun _ => copyBack_handled env _)
  | getOption => exact always (getOption_handled env dev _ _ _)
  | setOption => exact given (setOption_handled_iff env dev _ _ _ _ _ (setOption_calls env dev _))
  | sendMsg32 => exact always (copyThen_handled_all fun _ => ended_handled _)
  | sendMsgs32 => exact always (sendMsgsIoctl_handled env 88)
  | recvMsgs32 => exact always (recvMsgsIoctl_handled env)
  | getOption32 => exact always (getOption_handled env dev _ (pcanfdOption32At _).native _)
  | setOption32 =>
    exact given (setOption_handled_iff env dev _ (pcanfdOption32At _).native _ _ _
      (setOption32_calls env dev _))
  | answering answer => exact always (ended_handled _)
  | unsupported => exact always (ended_handled _)

end Main

section Samples

def idleOperations : IoctlOperations Unit where
  init _ dev := (dev, 0)
  deviceParams := none
  sendMsg _ dev := (dev, 0)
  sendMsgs _ dev := (dev, 0)
  recvMsgs _ dev := (dev, 0)
  getAvClocks _ dev := (dev, 0)
  getBittimingRanges _ dev := (dev, 0)
  addFilters _ filter := (filter, 0)
  getFilters _ dev := (dev, 0)
  filtersCount _ := 0

/-- A classic controller with 500 kbit/s as the default, whose options are the allowed
    messages. -/
def copyingEnv (user : UserMemory) : IoctlEnv Unit where
  user := user
  writable := true
  memory _ := true
  operations := idleOperations
  options _ := ⟨4, none, some .allowedMsgs⟩
  hw := Controller.sja1000.device 0
    { (default : PcanfdInit) with nominal := { PcanBittiming.zero with bitrate := 500000 } }
  moments := epoch

/-- Memory in which only the first bytes at one address can be read. -/
def readableAt (addr : Nat) (bytes : List U8) : UserMemory :=
  fun a n => if a = addr then bytes.take n else []

/-- Settings that cannot be copied are replaced by the default ones: the channel is opened
    anew with these, and its frame lost. A filter list that ends behind its count is freed
    twice. A value of an option that cannot be copied becomes zero. -/
theorem failed_copies_missed :
    let set := pcanIoctl (copyingEnv (readableAt 4096 [])) 4096 classicChannel openingFunctions
      .setInit
    let added := pcanIoctl (copyingEnv (readableAt 4096 [2, 0, 0, 0])) 4096 classicChannel
      openingFunctions .addFilters
    let option : List U8 := [4, 0, 0, 0, 5, 0, 0, 0, 0, 0, 0, 0, 0, 0, 0, 0]
    let allowed := pcanIoctl (copyingEnv (readableAt 4096 option)) 4096 classicChannel
      openingFunctions .setOption
    (set.err, set.dev.writeFifo.items.length, set.dev.busState) = (some 0, 0, .unknown) ∧
      added.buffers = [.acquire (), .release (), .release ()] ∧
      (allowed.err, allowed.dev.allowedMsgs) = (some (-efault), 0) ∧
      ¬FaultHandled classicChannel set ∧ ¬FaultHandled classicChannel added ∧
      ¬FaultHandled classicChannel allowed := by
  intro set added option allowed
  have empty : classicChannel.allowedMsgs ≠ 0 := by decide
  refine ⟨by decide +kernel, by decide +kernel, by decide +kernel, ?_, ?_, ?_⟩
  · intro handled
    have met := (handled ⟨⟨List.replicate 80 0, true⟩, by decide +kernel, rfl⟩).err
    exact absurd met (by decide +kernel)
  · intro handled
    have met := handled ⟨⟨[2, 0, 0, 0] ++ List.replicate 24 0, true⟩, by decide +kernel, rfl⟩
    exact absurd (met.buffers ()) (by decide +kernel)
  · intro handled
    have met := handled ⟨⟨List.replicate 4 0, true⟩, by decide +kernel, rfl⟩
    have zeroed : allowed.dev.allowedMsgs = 0 := by decide +kernel
    exact empty ((congrArg Pcandev.allowedMsgs met.dev).symm.trans zeroed)

end Samples

end PcanDriver

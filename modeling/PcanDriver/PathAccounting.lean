import PcanDriver.OpenPaths
import PcanDriver.RxEffects

/-!
What is left of a first open that fails, and what the number of paths says about the
open handles over any sequence of opens and releases.
-/
namespace PcanDriver
open Ledger StepSystem
variable {P : Type}

/-- The calls of `pcan_open_path` that can fail. -/
inductive OpenStage where
  | allocateW
  | allocateR
  | interface
  | probe
  | irq
  | device
deriving Repr, DecidableEq

section Stages
variable (iface : PathInterface) (env : OpenEnv P) (d : PathDev P)

def PathDev.allocated : PathDev P :=
  { d with
    dev := { d.dev with
      writeFifo := .empty env.txqsize
      readFifo := .empty env.rxqsize }
    wMsg := true
    rMsg := true }

/-- The path after `dev->open`, after the probe, and after `req_irq`. -/
def openedPath : PathDev P :=
  (d.allocated env).setDev ((d.allocated env).dev.callIf iface.hasOpen env.interface).1

def probedPath : PathDev P :=
  (openedPath iface env d).setDev ((openedPath iface env d).dev.callIf iface.dongle env.probe).1

def requestedPath : PathDev P :=
  (probedPath iface env d).setDev ((probedPath iface env d).dev.callIf iface.hasReqIrq env.reqIrq).1

/-- The first of the calls to fail, each in the state in which it is made. -/
def failedStage : Option OpenStage :=
  if env.wMsg = false then some .allocateW
  else if env.rMsg = false then some .allocateR
  else if ((d.allocated env).dev.callIf iface.hasOpen env.interface).2 ≠ 0 then some .interface
  else if ((openedPath iface env d).dev.callIf iface.dongle env.probe).2 ≠ 0 then some .probe
  else if ((probedPath iface env d).dev.callIf iface.hasReqIrq env.reqIrq).2 ≠ 0 then some .irq
  else if ((resetCounted iface env (requestedPath iface env d).dev).called env.device).2 ≠ 0 then
    some .device
  else none

end Stages

section Paths

@[simp] theorem called_paths (dev : Pcandev P) (callback : DevCallback P) :
    (dev.called callback).1.nOpenPaths = dev.nOpenPaths := rfl

@[simp] theorem callIf_paths (dev : Pcandev P) (isSet : Bool) (callback : DevCallback P) :
    (dev.callIf isSet callback).1.nOpenPaths = dev.nOpenPaths := by
  cases isSet <;> rfl

theorem pcanfdDevReset_paths {release : Pcandev P → Pcandev P}
    (kept : ∀ dev, (release dev).nOpenPaths = dev.nOpenPaths) (dev : Pcandev P) :
    (pcanfdDevReset release dev).1.nOpenPaths = dev.nOpenPaths := by
  simp only [pcanfdDevReset, (pcanSetBusState_frame _ _).2.1]
  split
  · exact kept _
  · rfl

end Paths

section FirstOpen
variable {iface : PathInterface} {env : OpenEnv P} {d : PathDev P}

def freeCalls : List PathCall := [.release .rMsg, .release .wMsg]

/-- The calls around `pcanfd_dev_open`, up to its own. -/
def deviceCalls (iface : PathInterface) : List PathCall :=
  [.acquire .adapterCount, .acquire .pathCount] ++
    callEntry iface.hasDeviceRelease (.release .device)

def closeCalls (iface : PathInterface) : List PathCall :=
  [.release .pathCount, .release .adapterCount] ++ callEntry iface.hasFreeIrq (.release .irq) ++
    freeCalls

/-- The calls with both buffers allocated and the interface opened, followed by `rest`. -/
def interfaceCalls (iface : PathInterface) (rest : List PathCall) : List PathCall :=
  .acquire .wMsg :: .acquire .rMsg :: (callEntry iface.hasOpen (.acquire .interface) ++ rest)

def irqCalls (iface : PathInterface) (rest : List PathCall) : List PathCall :=
  interfaceCalls iface (callEntry iface.hasReqIrq (.acquire .irq) ++ rest)

def failedCalls (iface : PathInterface) : OpenStage → List PathCall
  | .allocateW => []
  | .allocateR => [.acquire .wMsg, .release .wMsg]
  | .interface => .acquire .wMsg :: .acquire .rMsg :: freeCalls
  | .probe => interfaceCalls iface (.release .interface :: freeCalls)
  | .irq => interfaceCalls iface freeCalls
  | .device => irqCalls iface (deviceCalls iface ++ closeCalls iface)

structure FailedWith (count paths : Int) (calls : List PathCall) (result : PathResult P) :
    Prop where
  err : result.err ≠ 0
  calls : result.calls = calls
  paths : result.d.dev.nOpenPaths = paths
  count : result.d.openedCount = count
  wMsg : result.d.wMsg = false
  rMsg : result.d.rMsg = false

structure OpenedWith (d : PathDev P) (calls : List PathCall) (result : PathResult P) : Prop where
  err : result.err = 0
  calls : result.calls = calls
  paths : result.d.dev.nOpenPaths = 1
  count : result.d.openedCount = d.openedCount + 1
  wMsg : result.d.wMsg = d.wMsg
  rMsg : result.d.rMsg = d.rMsg

theorem FailedWith.after {result : PathResult P} {calls : List PathCall} {count paths : Int}
    (failed : FailedWith count paths calls result) (more : List PathCall) :
    FailedWith count paths (more ++ calls) (result.after more) :=
  ⟨failed.err, congrArg (more ++ ·) failed.calls, failed.paths, failed.count, failed.wMsg,
    failed.rMsg⟩

theorem OpenedWith.after {result : PathResult P} {calls : List PathCall}
    (opened : OpenedWith d calls result) (more : List PathCall) :
    OpenedWith d (more ++ calls) (result.after more) :=
  ⟨opened.err, congrArg (more ++ ·) opened.calls, opened.paths, opened.count, opened.wMsg,
    opened.rMsg⟩

structure SamePath (d d' : PathDev P) : Prop where
  paths : d'.dev.nOpenPaths = d.dev.nOpenPaths
  count : d'.openedCount = d.openedCount
  wMsg : d'.wMsg = d.wMsg
  rMsg : d'.rMsg = d.rMsg

theorem SamePath.trans {d d' d'' : PathDev P} (first : SamePath d d') (second : SamePath d' d'') :
    SamePath d d'' :=
  ⟨second.paths.trans first.paths, second.count.trans first.count, second.wMsg.trans first.wMsg,
    second.rMsg.trans first.rMsg⟩

theorem FailedWith.from {d d' : PathDev P} {calls : List PathCall} {result : PathResult P}
    (failed : FailedWith d'.openedCount d'.dev.nOpenPaths calls result) (same : SamePath d d') :
    FailedWith d.openedCount d.dev.nOpenPaths calls result :=
  ⟨failed.err, failed.calls, failed.paths.trans same.paths, failed.count.trans same.count,
    failed.wMsg, failed.rMsg⟩

theorem OpenedWith.from {d d' : PathDev P} {calls : List PathCall} {result : PathResult P}
    (opened : OpenedWith d' calls result) (same : SamePath d d') : OpenedWith d calls result :=
  ⟨opened.err, opened.calls, opened.paths, by rw [opened.count, same.count],
    opened.wMsg.trans same.wMsg, opened.rMsg.trans same.rMsg⟩

theorem callIf_same (d : PathDev P) (isSet : Bool) (callback : DevCallback P) :
    SamePath d (d.setDev (d.dev.callIf isSet callback).1) :=
  ⟨callIf_paths d.dev isSet callback, rfl, rfl, rfl⟩

/-- The buffers are freed whatever has become of the channel. -/
theorem lblUnlockFreeAll_failed {dev : Pcandev P} {err : Int} (failed : err ≠ 0)
    (kept : dev.nOpenPaths = d.dev.nOpenPaths) :
    FailedWith d.openedCount d.dev.nOpenPaths freeCalls (lblUnlockFreeAll (d.setDev dev) err) :=
  ⟨failed, rfl, kept, rfl, rfl, rfl⟩

theorem resetCounted_paths (iface : PathInterface) (env : OpenEnv P) (dev : Pcandev P) :
    (resetCounted iface env dev).nOpenPaths = 1 :=
  pcanfdDevReset_paths (fun dev => callIf_paths dev _ _) _

theorem openDevice_failed (d : PathDev P)
    (failed : ((resetCounted iface env d.dev).called env.device).2 ≠ 0) :
    FailedWith d.openedCount 0 (deviceCalls iface ++ closeCalls iface) (openDevice iface env d) := by
  have paths := resetCounted_paths iface env d.dev
  unfold openDevice
  simp only
  rw [if_neg failed]
  constructor
  case err => exact failed
  case calls => simp [lblUnlockFreeAll, lblUnlockFreeW, PathResult.after, deviceCalls, closeCalls,
    freeCalls]
  case paths =>
    show (Pcandev.callIf _ _ _).1.nOpenPaths = 0
    rw [callIf_paths, called_paths, paths]
    rfl
  all_goals rfl

theorem openDevice_opened (d : PathDev P)
    (opened : ((resetCounted iface env d.dev).called env.device).2 = 0) :
    OpenedWith d (deviceCalls iface ++ [.acquire .device]) (openDevice iface env d) := by
  unfold openDevice
  simp only
  rw [if_pos opened]
  exact ⟨rfl, rfl, resetCounted_paths iface env d.dev, rfl, rfl, rfl⟩

theorem requestIrq_failed (d : PathDev P) (failed : (d.dev.callIf iface.hasReqIrq env.reqIrq).2 ≠ 0) :
    FailedWith d.openedCount d.dev.nOpenPaths freeCalls (requestIrq iface env d) := by
  unfold requestIrq
  simp only
  rw [if_pos failed]
  exact lblUnlockFreeAll_failed failed (callIf_paths d.dev _ _)

theorem requestIrq_passed (d : PathDev P)
    (passed : ¬(d.dev.callIf iface.hasReqIrq env.reqIrq).2 ≠ 0) :
    requestIrq iface env d = (openDevice iface env
      (d.setDev (d.dev.callIf iface.hasReqIrq env.reqIrq).1)).after
        (callEntry iface.hasReqIrq (.acquire .irq)) := by
  unfold requestIrq
  simp only
  rw [if_neg passed]

theorem probeDongle_failed (d : PathDev P) (failed : (d.dev.callIf iface.dongle env.probe).2 ≠ 0) :
    FailedWith d.openedCount d.dev.nOpenPaths (.release .interface :: freeCalls)
      (probeDongle iface env d) := by
  unfold probeDongle
  simp only
  rw [if_pos failed]
  have kept : ((d.dev.callIf iface.dongle env.probe).1.called env.release).1.nOpenPaths =
      d.dev.nOpenPaths := callIf_paths d.dev _ _
  exact FailedWith.after (lblUnlockFreeAll_failed failed kept) [.release .interface]

theorem probeDongle_passed (d : PathDev P) (passed : ¬(d.dev.callIf iface.dongle env.probe).2 ≠ 0) :
    probeDongle iface env d =
      requestIrq iface env (d.setDev (d.dev.callIf iface.dongle env.probe).1) := by
  unfold probeDongle
  simp only
  rw [if_neg passed]

theorem callOpen_failed (d : PathDev P) (failed : (d.dev.callIf iface.hasOpen env.interface).2 ≠ 0) :
    FailedWith d.openedCount d.dev.nOpenPaths freeCalls (callOpen iface env d) := by
  unfold callOpen
  simp only
  rw [if_pos failed]
  exact lblUnlockFreeAll_failed failed (callIf_paths d.dev _ _)

theorem callOpen_passed (d : PathDev P)
    (passed : ¬(d.dev.callIf iface.hasOpen env.interface).2 ≠ 0) :
    callOpen iface env d = (probeDongle iface env
      (d.setDev (d.dev.callIf iface.hasOpen env.interface).1)).after
        (callEntry iface.hasOpen (.acquire .interface)) := by
  unfold callOpen
  simp only
  rw [if_neg passed]

theorem pcanOpenPath_allocated (closed : ¬0 < d.dev.nOpenPaths) (w : env.wMsg = true)
    (r : env.rMsg = true) : pcanOpenPath iface env d =
      (callOpen iface env (d.allocated env)).after [.acquire .wMsg, .acquire .rMsg] := by
  unfold pcanOpenPath allocateReadFifo
  simp only
  rw [if_neg closed, if_pos w, if_pos r]
  rfl

theorem first_open_outcome (iface : PathInterface) (env : OpenEnv P)
    (closed : ¬0 < d.dev.nOpenPaths) (unallocated : d.rMsg = false) :
    match failedStage iface env d with
    | some stage => FailedWith d.openedCount (if stage = .device then 0 else d.dev.nOpenPaths)
        (failedCalls iface stage) (pcanOpenPath iface env d)
    | none => OpenedWith (d.allocated env) (irqCalls iface (deviceCalls iface ++ [.acquire .device]))
        (pcanOpenPath iface env d) := by
  have opened : SamePath (d.allocated env) (openedPath iface env d) := callIf_same _ _ _
  have probed : SamePath (d.allocated env) (probedPath iface env d) :=
    opened.trans (callIf_same _ _ _)
  have requested : SamePath (d.allocated env) (requestedPath iface env d) :=
    probed.trans (callIf_same _ _ _)
  unfold failedStage
  by_cases w : env.wMsg = false
  · rw [if_pos w]
    unfold pcanOpenPath
    rw [if_neg closed, w]
    exact ⟨by simp [enomem], rfl, rfl, rfl, rfl, unallocated⟩
  rw [if_neg w]
  rw [Bool.not_eq_false] at w
  by_cases r : env.rMsg = false
  · rw [if_pos r]
    unfold pcanOpenPath allocateReadFifo
    rw [if_neg closed, w, r]
    exact ⟨by simp [lblUnlockFreeW, PathResult.after, enomem], rfl, rfl, rfl, rfl, rfl⟩
  rw [if_neg r]
  rw [Bool.not_eq_false] at r
  rw [pcanOpenPath_allocated closed w r]
  by_cases interface : ((d.allocated env).dev.callIf iface.hasOpen env.interface).2 ≠ 0
  · rw [if_pos interface]
    have failed := callOpen_failed (d.allocated env) interface
    exact failed.after [.acquire .wMsg, .acquire .rMsg]
  rw [if_neg interface, callOpen_passed _ interface, ← openedPath]
  by_cases probe : ((openedPath iface env d).dev.callIf iface.dongle env.probe).2 ≠ 0
  · rw [if_pos probe]
    have failed := (probeDongle_failed _ probe).from opened
    exact (failed.after (callEntry iface.hasOpen (.acquire .interface))).after
      [.acquire .wMsg, .acquire .rMsg]
  rw [if_neg probe, probeDongle_passed _ probe, ← probedPath]
  by_cases irq : ((probedPath iface env d).dev.callIf iface.hasReqIrq env.reqIrq).2 ≠ 0
  · rw [if_pos irq]
    have failed := (requestIrq_failed _ irq).from probed
    exact (failed.after (callEntry iface.hasOpen (.acquire .interface))).after
      [.acquire .wMsg, .acquire .rMsg]
  rw [if_neg irq, requestIrq_passed _ irq, ← requestedPath]
  by_cases device :
      ((resetCounted iface env (requestedPath iface env d).dev).called env.device).2 ≠ 0
  · rw [if_pos device]
    have failed := openDevice_failed _ device
    rw [requested.count] at failed
    exact ((failed.after (callEntry iface.hasReqIrq (.acquire .irq))).after
      (callEntry iface.hasOpen (.acquire .interface))).after [.acquire .wMsg, .acquire .rMsg]
  · rw [if_neg device]
    have opened := (openDevice_opened _ (not_not.mp device)).from requested
    exact ((opened.after (callEntry iface.hasReqIrq (.acquire .irq))).after
      (callEntry iface.hasOpen (.acquire .interface))).after [.acquire .wMsg, .acquire .rMsg]

end FirstOpen

section Undone
variable {iface : PathInterface} {env : OpenEnv P} {d : PathDev P}

structure Undone (d : PathDev P) (result : PathResult P) : Prop where
  matched : Settled result.calls
  paths : result.d.dev.nOpenPaths = d.dev.nOpenPaths
  count : result.d.openedCount = d.openedCount
  wMsg : result.d.wMsg = d.wMsg
  rMsg : result.d.rMsg = d.rMsg

/-- Nothing releases the interface once it has been probed, and a device that fails to
    open leaves the number of paths at zero. -/
def UndoneWhen (iface : PathInterface) (env : OpenEnv P) (d : PathDev P) : Prop :=
  match failedStage iface env d with
  | some .irq => iface.hasOpen = false
  | some .device => iface.hasOpen = false ∧ d.dev.nOpenPaths = 0
  | _ => True

theorem mem_callEntry {isSet : Bool} {entry other : PathCall} :
    other ∈ callEntry isSet entry ↔ isSet = true ∧ other = entry := by
  cases isSet <;> simp [callEntry]

theorem callEntry_release_settled (isSet : Bool) (r : PathResource) :
    Settled (callEntry isSet (.release r)) := by
  cases isSet
  · exact settled_nil
  · exact settled_release r

theorem irqCalls_settled (iface : PathInterface) {log : List PathCall} (settled : Settled log) :
    Settled (callEntry iface.hasReqIrq (.acquire .irq) ++
      (log ++ callEntry iface.hasFreeIrq (.release .irq))) := by
  cases requested : iface.hasReqIrq with
  | false => exact settled.append (callEntry_release_settled iface.hasFreeIrq .irq)
  | true =>
    rw [iface.freesIrq requested]
    exact settled.wrap .irq

theorem buffers_settled {log : List PathCall} (settled : Settled log) :
    Settled (.acquire .wMsg :: .acquire .rMsg :: (log ++ freeCalls)) := by
  have inner := (settled.wrap .rMsg).wrap .wMsg
  simpa [freeCalls] using inner

theorem failedCalls_device_settled (iface : PathInterface) (unset : iface.hasOpen = false) :
    Settled (failedCalls iface .device) := by
  have reset := callEntry_release_settled iface.hasDeviceRelease .device
  have counted := (reset.wrap .pathCount).wrap .adapterCount
  have settled := buffers_settled (irqCalls_settled iface counted)
  simpa [failedCalls, irqCalls, interfaceCalls, unset, callEntry, deviceCalls, closeCalls] using settled

theorem failedCalls_settled (iface : PathInterface) (stage : OpenStage) :
    Settled (failedCalls iface stage) ↔
      (stage = .irq ∨ stage = .device → iface.hasOpen = false) := by
  constructor
  · intro settled late
    by_contra opened
    rw [Bool.not_eq_false] at opened
    revert settled
    rcases late with rfl | rfl
    · exact not_settled (r := .interface) (by simp [failedCalls, interfaceCalls, mem_callEntry, opened])
        (by simp [failedCalls, interfaceCalls, mem_callEntry, freeCalls])
    · exact not_settled (r := .interface)
        (by simp [failedCalls, irqCalls, interfaceCalls, mem_callEntry, opened])
        (by simp [failedCalls, irqCalls, interfaceCalls, deviceCalls, closeCalls, mem_callEntry, freeCalls])
  · intro unset
    cases stage with
    | allocateW => exact settled_nil
    | allocateR => exact settled_nil.wrap PathResource.wMsg
    | interface => exact buffers_settled settled_nil
    | probe =>
      cases opened : iface.hasOpen with
      | false =>
        simpa [failedCalls, interfaceCalls, callEntry, opened] using
          buffers_settled (settled_release .interface)
      | true =>
        simpa [failedCalls, interfaceCalls, callEntry, opened] using
          buffers_settled (settled_nil.wrap PathResource.interface)
    | irq =>
      simpa [failedCalls, interfaceCalls, callEntry, unset (.inl rfl)] using
        buffers_settled settled_nil
    | device => exact failedCalls_device_settled iface (unset (.inr rfl))

/-- What a failed first open leaves behind depends only on the call that failed, on the
    interface and on the number of paths before. -/
theorem failed_open_undone (iface : PathInterface) (env : OpenEnv P)
    (closed : ¬0 < d.dev.nOpenPaths) (noW : d.wMsg = false) (noR : d.rMsg = false)
    (failed : (pcanOpenPath iface env d).err ≠ 0) :
    Undone d (pcanOpenPath iface env d) ↔ UndoneWhen iface env d := by
  have outcome := first_open_outcome iface env closed noR
  unfold UndoneWhen
  cases found : failedStage iface env d with
  | none =>
    rw [found] at outcome
    exact absurd outcome.err failed
  | some stage =>
    rw [found] at outcome
    obtain ⟨_, calls, paths, count, w, r⟩ := outcome
    have undone : Undone d (pcanOpenPath iface env d) ↔
        (stage = .irq ∨ stage = .device → iface.hasOpen = false) ∧
          (stage = .device → d.dev.nOpenPaths = 0) := by
      rw [← failedCalls_settled, ← calls]
      constructor
      · intro undone
        refine ⟨undone.matched, ?_⟩
        intro device
        rw [← undone.paths, paths, if_pos device]
      · intro ⟨matched, zero⟩
        refine ⟨matched, ?_, count, w.trans noW.symm, r.trans noR.symm⟩
        rw [paths]
        split
        · exact (zero ‹_›).symm
        · rfl
    rw [undone]
    cases stage <;> simp

end Undone

section Runs
variable {iface : PathInterface} {d : PathDev P}

structure PathState (P : Type) where
  d : PathDev P
  handles : Nat
  calls : List PathCall

inductive PathOp (P : Type) where
  | openPath (env : OpenEnv P)
  | releasePath (env : ReleaseEnv P)

def pathStep (iface : PathInterface) (s : PathState P) : PathOp P → PathState P × Int
  | .openPath env =>
    let result := pcanOpenPath iface env s.d
    (⟨result.d, if result.err = 0 then s.handles + 1 else s.handles, s.calls ++ result.calls⟩,
      result.err)
  | .releasePath env =>
    let released := pcanReleasePath iface env s.d
    (⟨released.1, s.handles - 1, s.calls ++ released.2⟩, 0)

def ReleasesHandle (s : PathState P) : PathOp P → Prop
  | .openPath _ => True
  | .releasePath _ => 0 < s.handles

def KeepsHandle (s : PathState P) : PathOp P → Prop
  | .openPath _ => True
  | .releasePath _ => s.handles ≠ 1

instance (s : PathState P) : (op : PathOp P) → Decidable (ReleasesHandle s op)
  | .openPath _ => .isTrue trivial
  | .releasePath _ => inferInstanceAs (Decidable (0 < s.handles))

instance (s : PathState P) : (op : PathOp P) → Decidable (KeepsHandle s op)
  | .openPath _ => .isTrue trivial
  | .releasePath _ => inferInstanceAs (Decidable (s.handles ≠ 1))

structure CountsHandles (s : PathState P) : Prop where
  paths : s.d.dev.nOpenPaths = s.handles
  wMsg : s.d.wMsg = true ↔ 0 < s.handles
  rMsg : s.d.rMsg = true ↔ 0 < s.handles
  released : OnceBetween .device s.calls

structure PathDev.Fresh (d : PathDev P) : Prop where
  paths : d.dev.nOpenPaths = 0
  wMsg : d.wMsg = false
  rMsg : d.rMsg = false

def PathDev.start (d : PathDev P) : PathState P := ⟨d, 0, []⟩

/-- Releasing the last handle counts one path too many down, which the next open does not
    mind. -/
structure PathInv (s : PathState P) : Prop where
  closed : s.handles = 0 → (s.d.dev.nOpenPaths = 0 ∨ s.d.dev.nOpenPaths = -1) ∧
    s.d.wMsg = false ∧ s.d.rMsg = false
  opened : 0 < s.handles → s.d.dev.nOpenPaths = s.handles ∧ s.d.wMsg = true ∧ s.d.rMsg = true

theorem pcanReleasePath_last (iface : PathInterface) (env : ReleaseEnv P) (last : d.dev.nOpenPaths = 1) :
    let released := (pcanReleasePath iface env d).1
    released.dev.nOpenPaths = -1 ∧ released.wMsg = false ∧ released.rMsg = false := by
  have paths : (releaseFifos (releaseDevice iface env d)).dev.nOpenPaths = 0 := by
    simp [releaseFifos, releaseDevice, pcanSetTxEngine, (pcanSetBusState_frame _ _).2.1, last]
  simp only [pcanReleasePath, if_pos last, releaseCount, paths]
  exact ⟨rfl, rfl, rfl⟩

theorem pcanReleasePath_other (env : ReleaseEnv P) (more : 1 < d.dev.nOpenPaths) :
    pcanReleasePath iface env d =
      (d.setDev { d.dev with nOpenPaths := d.dev.nOpenPaths - 1 }, [.release .pathCount]) := by
  have positive : 0 ≤ d.dev.nOpenPaths := by omega
  rw [pcanReleasePath, if_neg (by omega), if_neg (by omega), releaseCount, if_pos positive]
  simp [callEntry, positive, PathDev.setDev]

theorem pcanOpenPath_more (env : OpenEnv P) (more : 0 < d.dev.nOpenPaths) :
    pcanOpenPath iface env d =
      ⟨d.setDev { d.dev with nOpenPaths := d.dev.nOpenPaths + 1 }, [.acquire .pathCount], 0⟩ := by
  rw [pcanOpenPath, if_pos more]
  rfl

theorem start_inv (fresh : d.Fresh) : PathInv d.start where
  closed _ := ⟨.inl fresh.paths, fresh.wMsg, fresh.rMsg⟩
  opened positive := absurd positive (Nat.lt_irrefl 0)

theorem openPath_inv (iface : PathInterface) {s : PathState P} (inv : PathInv s) (env : OpenEnv P) :
    PathInv (pathStep iface s (.openPath env)).1 := by
  rcases Nat.eq_zero_or_pos s.handles with none | some
  · obtain ⟨paths, w, r⟩ := inv.closed none
    have closed : ¬0 < s.d.dev.nOpenPaths := by omega
    have outcome := first_open_outcome iface env closed r
    cases found : failedStage iface env s.d with
    | none =>
      rw [found] at outcome
      obtain ⟨err, _, one, _, w', r'⟩ := outcome
      constructor
      · intro empty
        simp [pathStep, err] at empty
      · intro _
        simp only [pathStep, err, if_true]
        refine ⟨?_, w', r'⟩
        rw [one, none]
        rfl
    | some stage =>
      rw [found] at outcome
      obtain ⟨err, _, left, _, w', r'⟩ := outcome
      constructor
      · intro _
        refine ⟨?_, w', r'⟩
        simp only [pathStep, left]
        split
        · exact .inl rfl
        · exact paths
      · intro positive
        simp [pathStep, err, none] at positive
  · obtain ⟨paths, w, r⟩ := inv.opened some
    have more : 0 < s.d.dev.nOpenPaths := by omega
    simp only [pathStep, pcanOpenPath_more env more, if_true]
    constructor
    · intro empty
      exact absurd empty (Nat.succ_ne_zero _)
    · intro _
      refine ⟨?_, w, r⟩
      simp [PathDev.setDev, paths]

theorem releasePath_inv (iface : PathInterface) {s : PathState P} (inv : PathInv s) (env : ReleaseEnv P)
    (held : 0 < s.handles) : PathInv (pathStep iface s (.releasePath env)).1 := by
  obtain ⟨paths, w, r⟩ := inv.opened held
  by_cases last : s.handles = 1
  · have one : s.d.dev.nOpenPaths = 1 := by
      rw [paths, last]
      rfl
    obtain ⟨left, w', r'⟩ := pcanReleasePath_last iface env one
    constructor
    · intro _
      exact ⟨.inr left, w', r'⟩
    · intro positive
      simp [pathStep, last] at positive
  · have more : 1 < s.d.dev.nOpenPaths := by omega
    simp only [pathStep, pcanReleasePath_other env more]
    constructor
    · intro empty
      simp only at empty
      omega
    · intro _
      refine ⟨?_, w, r⟩
      simp only [PathDev.setDev, paths]
      omega

theorem pathStep_inv (iface : PathInterface) (s : PathState P) (op : PathOp P) (inv : PathInv s)
    (allowed : ReleasesHandle s op) : PathInv (pathStep iface s op).1 := by
  cases op with
  | openPath env => exact openPath_inv iface inv env
  | releasePath env => exact releasePath_inv iface inv env allowed

/-- As long as no last handle is released, the device is opened once at most. -/
structure OpenedOnce (s : PathState P) : Prop where
  inv : PathInv s
  paths : s.d.dev.nOpenPaths = s.handles
  few : s.calls.count (.acquire .device) ≤ 1
  unopened : s.handles = 0 → s.calls.count (.acquire .device) = 0

theorem failedCalls_device (iface : PathInterface) (stage : OpenStage) :
    (failedCalls iface stage).count (.acquire .device) = 0 := by
  rw [List.count_eq_zero]
  cases stage <;>
    simp [failedCalls, irqCalls, interfaceCalls, deviceCalls, closeCalls, freeCalls, mem_callEntry]

theorem openedCalls_device (iface : PathInterface) :
    (irqCalls iface (deviceCalls iface ++ [.acquire .device])).count (.acquire .device) = 1 := by
  have none : ∀ isSet r, r ≠ .device →
      (callEntry isSet (.acquire r)).count (.acquire PathResource.device) = 0 := by
    intro isSet r other
    rw [List.count_eq_zero, mem_callEntry]
    rintro ⟨_, same⟩
    cases same
    exact other rfl
  have released : (callEntry iface.hasDeviceRelease (.release .device)).count
      (.acquire PathResource.device) = 0 := by
    rw [List.count_eq_zero, mem_callEntry]
    rintro ⟨_, same⟩
    cases same
  simp [irqCalls, interfaceCalls, deviceCalls, List.count_append, none, released]

theorem OpenedOnce.counts {s : PathState P} (once : OpenedOnce s) : CountsHandles s where
  paths := once.paths
  wMsg := by
    rcases Nat.eq_zero_or_pos s.handles with none | some
    · simp [(once.inv.closed none).2.1, none]
    · simp [(once.inv.opened some).2.1, some]
  rMsg := by
    rcases Nat.eq_zero_or_pos s.handles with none | some
    · simp [(once.inv.closed none).2.2, none]
    · simp [(once.inv.opened some).2.2, some]
  released := onceBetween_of_count once.few

theorem openPath_once {s : PathState P} (once : OpenedOnce s) (env : OpenEnv P) :
    OpenedOnce (pathStep iface s (.openPath env)).1 := by
  have inv := openPath_inv iface once.inv env
  rcases Nat.eq_zero_or_pos s.handles with none | some
  · have zero : s.d.dev.nOpenPaths = 0 := by rw [once.paths, none]; rfl
    have outcome := first_open_outcome iface env (by omega) (once.inv.closed none).2.2
    have before := once.unopened none
    cases found : failedStage iface env s.d with
    | none =>
      rw [found] at outcome
      have count : (pathStep iface s (.openPath env)).1.calls.count (.acquire .device) = 1 := by
        rw [pathStep, List.count_append, outcome.calls, openedCalls_device, before]
      refine ⟨inv, ?_, count.le, ?_⟩
      · simp [pathStep, outcome.err, outcome.paths, none]
      · intro empty
        simp [pathStep, outcome.err] at empty
    | some stage =>
      rw [found] at outcome
      have count : (pathStep iface s (.openPath env)).1.calls.count (.acquire .device) = 0 := by
        rw [pathStep, List.count_append, outcome.calls, failedCalls_device, before]
      refine ⟨inv, ?_, by omega, fun _ => count⟩
      simp [pathStep, outcome.err, outcome.paths, none, zero]
  · have more : 0 < s.d.dev.nOpenPaths := by rw [once.paths]; omega
    have few := once.few
    have paths := once.paths
    refine ⟨inv, ?_, ?_, ?_⟩
    · simp [pathStep, pcanOpenPath_more env more, PathDev.setDev, paths]
    · simpa [pathStep, pcanOpenPath_more env more, List.count_append] using few
    · intro empty
      simp [pathStep, pcanOpenPath_more env more] at empty

theorem releasePath_once {s : PathState P} (once : OpenedOnce s) (env : ReleaseEnv P)
    (more : 1 < s.handles) : OpenedOnce (pathStep iface s (.releasePath env)).1 := by
  have inv := releasePath_inv iface once.inv env (by omega)
  have paths := once.paths
  have several : 1 < s.d.dev.nOpenPaths := by omega
  have few := once.few
  refine ⟨inv, ?_, ?_, ?_⟩
  · simp only [pathStep, pcanReleasePath_other env several, PathDev.setDev, paths]
    omega
  · simpa [pathStep, pcanReleasePath_other env several, List.count_append] using few
  · intro empty
    simp only [pathStep] at empty
    omega

theorem pathStep_once (iface : PathInterface) (s : PathState P) (op : PathOp P) (once : OpenedOnce s)
    (allowed : ReleasesHandle s op ∧ KeepsHandle s op) : OpenedOnce (pathStep iface s op).1 := by
  cases op with
  | openPath env => exact openPath_once once env
  | releasePath env =>
    obtain ⟨held, kept⟩ := allowed
    simp only [ReleasesHandle, KeepsHandle] at held kept
    exact releasePath_once once env (by omega)

theorem kept_of_counts (iface : PathInterface) (s : PathState P) (op : PathOp P) (inv : PathInv s)
    (allowed : ReleasesHandle s op) (counts : CountsHandles (pathStep iface s op).1) :
    KeepsHandle s op := by
  cases op with
  | openPath env => trivial
  | releasePath env =>
    intro last
    have one : s.d.dev.nOpenPaths = 1 := by
      rw [(inv.opened allowed).1, last]
      rfl
    have paths := counts.paths
    simp [pathStep, last, (pcanReleasePath_last iface env one).1] at paths

/-- The number of paths is that of the open handles, and the buffers of the FIFOs and the
    device go with it, exactly as long as the last handle is not released. -/
theorem open_paths_count_iff (iface : PathInterface) (d : PathDev P) (fresh : d.Fresh)
    (ops : List (PathOp P))
    (admitted : Admitted ReleasesHandle (pathStep iface) d.start ops) :
    (∀ s ∈ states (pathStep iface) d.start ops, CountsHandles s) ↔
      Admitted KeepsHandle (pathStep iface) d.start ops := by
  constructor
  · intro counts
    exact admitted_of_states (pathStep_inv iface) (kept_of_counts iface) (start_inv fresh) admitted
      counts
  · intro kept s mem
    have start : OpenedOnce d.start :=
      ⟨start_inv fresh, fresh.paths, Nat.zero_le _, fun _ => rfl⟩
    exact (states_invariant (pathStep_once iface) start (admitted.and kept) s mem).counts

/-- What the channel's users see of a first open that fails, whenever it is made. -/
theorem failed_open_undone_iff (iface : PathInterface) (d : PathDev P) (fresh : d.Fresh)
    (ops : List (PathOp P)) (admitted : Admitted ReleasesHandle (pathStep iface) d.start ops)
    (env : OpenEnv P) :
    let before := (run (pathStep iface) d.start ops).1.d
    let result := pcanOpenPath iface env before
    (result.err ≠ 0 → Undone before result) ↔
      0 < before.dev.nOpenPaths ∨ UndoneWhen iface env before := by
  simp only
  have inv := run_invariant (pathStep_inv iface) (start_inv fresh) admitted
  generalize (run (pathStep iface) d.start ops).1 = s at inv ⊢
  by_cases more : 0 < s.d.dev.nOpenPaths
  · simp [pcanOpenPath_more env more, more]
  rcases Nat.eq_zero_or_pos s.handles with none | some
  · obtain ⟨_, w, r⟩ := inv.closed none
    have undone := failed_open_undone iface env more w r
    by_cases failed : (pcanOpenPath iface env s.d).err = 0
    · have outcome := first_open_outcome iface env more r
      unfold UndoneWhen
      cases found : failedStage iface env s.d with
      | none => simp [failed]
      | some stage =>
        rw [found] at outcome
        exact absurd failed outcome.err
    · simp [failed, more, undone failed]
  · have positive := (inv.opened some).1
    omega

end Runs

section Samples

def dongleInterface : PathInterface where
  hasOpen := true
  hasRelease := true
  hasReqIrq := true
  hasFreeIrq := true
  hasDeviceRelease := true
  dongle := true
  releases _ := rfl
  freesIrq _ := rfl
  opensDongle _ := rfl

def unopenedPath : PathDev Unit where
  dev := { openedChannel () 4 4 0 with nOpenPaths := 0 }
  wMsg := false
  rMsg := false
  openedIndex := 0
  openedCount := 0

theorem unopenedPath_fresh : unopenedPath.Fresh := ⟨rfl, rfl, rfl⟩

def granted : DevCallback Unit := fun dev => (dev, 0)

def grantedOpen : OpenEnv Unit where
  txqsize := 4
  rxqsize := 4
  wMsg := true
  rMsg := true
  interface := granted
  probe := granted
  release := granted
  reqIrq := granted
  deviceRelease := granted
  device := granted
  freeIrq := granted

def grantedRelease : ReleaseEnv Unit := ⟨granted, granted, granted, granted⟩

def refusedIrq : OpenEnv Unit := { grantedOpen with reqIrq := fun dev => (dev, -ebusy) }

def reopening : List (PathOp Unit) :=
  [.openPath grantedOpen, .releasePath grantedRelease, .openPath grantedOpen]

def openedTwice : List (PathOp Unit) :=
  [.openPath grantedOpen, .openPath grantedOpen, .releasePath grantedRelease]

/-- Opening, closing and opening again counts one path too few in between, and releases
    the device twice. -/
theorem reopened_path_miscounts :
    (states (pathStep dongleInterface) unopenedPath.start reopening).map
        (fun s => (s.handles, s.d.dev.nOpenPaths)) = [(0, 0), (1, 1), (0, -1), (1, 1)] ∧
      (run (pathStep dongleInterface) unopenedPath.start reopening).1.calls.filter
        (· ∈ [.acquire .device, .release .device]) =
          [.release .device, .acquire .device, .release .device, .release .device,
            .acquire .device] ∧
      ¬∀ s ∈ states (pathStep dongleInterface) unopenedPath.start reopening, CountsHandles s := by
  have counted : (states (pathStep dongleInterface) unopenedPath.start reopening).map
      (fun s => (s.handles, s.d.dev.nOpenPaths)) = [(0, 0), (1, 1), (0, -1), (1, 1)] := by
    decide +kernel
  refine ⟨counted, by decide +kernel, ?_⟩
  intro counts
  have closed : ((0 : Nat), (-1 : Int)) ∈ [(0, 0), (1, 1), (0, -1), (1, 1)] := by decide
  rw [← counted] at closed
  obtain ⟨s, mem, same⟩ := List.mem_map.mp closed
  have paths := (counts s mem).paths
  simp only [Prod.mk.injEq] at same
  rw [same.1, same.2] at paths
  exact absurd paths (by decide)

theorem open_paths_count_two :
    (∀ s ∈ states (pathStep dongleInterface) unopenedPath.start openedTwice, CountsHandles s) ↔
      Admitted KeepsHandle (pathStep dongleInterface) unopenedPath.start openedTwice :=
  open_paths_count_iff dongleInterface unopenedPath unopenedPath_fresh openedTwice
    ⟨trivial, trivial, by decide +kernel, trivial⟩

/-- The port of a dongle stays claimed when its irq is refused. -/
theorem refused_irq_keeps_interface :
    (pcanOpenPath dongleInterface refusedIrq unopenedPath).err = -ebusy ∧
      ¬Undone unopenedPath (pcanOpenPath dongleInterface refusedIrq unopenedPath) := by
  refine ⟨by decide +kernel, ?_⟩
  intro undone
  exact not_settled (r := .interface) (by decide +kernel) (by decide +kernel) undone.matched

theorem failed_open_undone_dongle :
    ((pcanOpenPath dongleInterface refusedIrq unopenedPath).err ≠ 0 →
      Undone unopenedPath (pcanOpenPath dongleInterface refusedIrq unopenedPath)) ↔
      0 < unopenedPath.dev.nOpenPaths ∨ UndoneWhen dongleInterface refusedIrq unopenedPath :=
  failed_open_undone_iff dongleInterface unopenedPath unopenedPath_fresh [] trivial refusedIrq

end Samples

end PcanDriver

import PcanDriver.RxEffects

/-!
Which received frames reach the application: the allowed kinds of messages, the
acceptance codes set by `pcan_set_acc_filter_11b` and `pcan_set_acc_filter_29b`
(`pcan_main.c`), the filter chain, and the state of the receive queue.
-/
namespace PcanDriver
variable {P : Type}

def canMaxStandardId : U32 := 0x7ff
def canMaxExtendedId : U32 := 0x1fffffff

/-- What the setters keep of a code and a mask given by the application. -/
def AccFilter.sanitised (value : AccFilter) (maxId : U32) : AccFilter :=
  let mask := value.mask &&& maxId
  ⟨mask, value.code &&& ~~~mask⟩

def pcanSetAccFilter29b (dev : Pcandev P) (value : AccFilter) : Pcandev P :=
  { dev with acc29b := value.sanitised canMaxExtendedId }

def pcanSetAccFilter11b (dev : Pcandev P) (value : AccFilter) : Pcandev P :=
  { dev with acc11b := value.sanitised canMaxStandardId }

/-- `pcanfd_dev_open_init` accepts all ids. -/
def pcanfdDevOpenInitAcc (dev : Pcandev P) : Pcandev P :=
  { dev with acc11b := ⟨canMaxStandardId, 0⟩, acc29b := ⟨canMaxExtendedId, 0⟩ }

/-- The acceptance codes are those of the opening or of a setter. -/
structure AccConfigured (dev : Pcandev P) : Prop where
  acc11b : dev.acc11b = (pcanfdDevOpenInitAcc dev).acc11b ∨
    ∃ value, dev.acc11b = (pcanSetAccFilter11b dev value).acc11b
  acc29b : dev.acc29b = (pcanfdDevOpenInitAcc dev).acc29b ∨
    ∃ value, dev.acc29b = (pcanSetAccFilter29b dev value).acc29b

def accOf (dev : Pcandev P) (rx : PcanfdRxmsg) : AccFilter :=
  if rx.msg.flags &&& pcanfdMsgExt ≠ 0 then dev.acc29b else dev.acc11b

structure Accepted (dev : Pcandev P) (rx : PcanfdRxmsg) : Prop where
  can : dev.allowedMsgs &&& pcanfdAllowedMsgCan ≠ 0
  ext : rx.msg.flags &&& pcanfdMsgExt ≠ 0 → dev.allowedMsgs &&& pcanfdAllowedMsgExt ≠ 0
  rtr : rx.msg.flags &&& pcanfdMsgRtr ≠ 0 → dev.allowedMsgs &&& pcanfdAllowedMsgRtr ≠ 0
  code : ∀ i < 32, (accOf dev rx).mask.getLsbD i = false →
    rx.msg.id.getLsbD i = (accOf dev rx).code.getLsbD i
  filter : pcanDoFilter dev.filter rx = 0
  opened : 0 < dev.nOpenPaths
  clear : dev.overrun = false
  room : dev.readFifo.items.length < dev.readFifo.capacity

structure SameFrame (rx queued : PcanfdRxmsg) : Prop where
  type : queued.msg.type = rx.msg.type
  id : queued.msg.id = rx.msg.id
  dataLen : queued.msg.dataLen = rx.msg.dataLen
  data : queued.msg.data = rx.msg.data
  flags : queued.msg.flags &&& ~~~(pcanfdBusload ||| pcanfdErrcnt) =
    rx.msg.flags &&& ~~~(pcanfdBusload ||| pcanfdErrcnt)

section Codes

theorem sanitised_clean (value : AccFilter) (maxId : U32) :
    (value.sanitised maxId).code &&& (value.sanitised maxId).mask = 0 :=
  Masks.andNot_and_self _ _

theorem accOf_clean {dev : Pcandev P} (configured : AccConfigured dev) (rx : PcanfdRxmsg) :
    (accOf dev rx).code &&& (accOf dev rx).mask = 0 := by
  unfold accOf
  split
  · rcases configured.acc29b with initial | ⟨value, set⟩
    · rw [initial]
      exact (by decide : (0 : U32) &&& canMaxExtendedId = 0)
    · rw [set]
      exact sanitised_clean value canMaxExtendedId
  · rcases configured.acc11b with initial | ⟨value, set⟩
    · rw [initial]
      exact (by decide : (0 : U32) &&& canMaxStandardId = 0)
    · rw [set]
      exact sanitised_clean value canMaxStandardId

theorem masked_eq_iff {id mask code : U32} (clean : code &&& mask = 0) :
    id &&& ~~~mask = code ↔
      ∀ i < 32, mask.getLsbD i = false → id.getLsbD i = code.getLsbD i := by
  have bits : ∀ i < 32, (id &&& ~~~mask).getLsbD i = (id.getLsbD i && !mask.getLsbD i) := by
    intro i inside
    simp [inside]
  have covered : ∀ i, mask.getLsbD i = true → code.getLsbD i = false := by
    intro i masked
    have both := congrArg (BitVec.getLsbD · i) clean
    simpa [masked] using both
  constructor
  · intro same i inside unmasked
    rw [← same, bits i inside, unmasked]
    simp
  · intro agree
    apply BitVec.eq_of_getLsbD_eq
    intro i inside
    rw [bits i inside]
    cases masked : mask.getLsbD i with
    | false => simpa using agree i inside masked
    | true => simpa using (covered i masked).symm

end Codes

section Stamps

theorem stampRx_flags (host : Host) (dev : Pcandev P) (rx : PcanfdRxmsg) {bits : U32}
    (busload : pcanfdBusload &&& bits = 0) (errcnt : pcanfdErrcnt &&& bits = 0) :
    (stampRx host dev rx).msg.flags &&& bits = rx.msg.flags &&& bits := by
  simp only [stampRx, stampErrcnt, stampBusload]
  split <;> split <;>
    simp only [Masks.or_and_of_disjoint _ errcnt, Masks.andNot_and_of_disjoint _ errcnt,
      Masks.or_and_of_disjoint _ busload, Masks.andNot_and_of_disjoint _ busload]

theorem stampRx_frame (host : Host) (dev : Pcandev P) (rx : PcanfdRxmsg) :
    SameFrame rx (stampRx host dev rx) := by
  have content := stampRx_content host dev rx
  constructor
  case type => exact congrArg FrameContent.type content
  case id => exact congrArg FrameContent.id content
  case dataLen => exact congrArg FrameContent.dataLen content
  case data => exact congrArg FrameContent.data content
  case flags => exact stampRx_flags host dev rx (by decide) (by decide)

theorem pcanDoFilter_stamped (handle : Option FilterChain) (host : Host) (dev : Pcandev P)
    (rx : PcanfdRxmsg) : pcanDoFilter handle (stampRx host dev rx) = pcanDoFilter handle rx := by
  have same := stampRx_frame host dev rx
  have passes : ∀ f : FilterElement, f.passes (stampRx host dev rx).msg = f.passes rx.msg := by
    intro f
    simp only [FilterElement.passes, same.id,
      stampRx_flags host dev rx (show pcanfdBusload &&& pcanfdMsgRtr = 0 by decide) (by decide),
      stampRx_flags host dev rx (show pcanfdBusload &&& pcanfdMsgExt = 0 by decide) (by decide)]
  unfold pcanDoFilter
  rw [same.type]
  simp only [passes]

end Stamps

section Pipeline
variable {dev : Pcandev P} {rx : PcanfdRxmsg}

theorem admitRx_eq (dev : Pcandev P) (can : rx.msg.type.isCan) :
    admitRx dev rx = ({ dev with rxFramesCounter := dev.rxFramesCounter + 1 },
      decide (dev.allowedMsgs &&& pcanfdAllowedMsgCan ≠ 0 ∧
        (if rx.msg.flags &&& pcanfdMsgExt ≠ 0 then
          dev.allowedMsgs &&& pcanfdAllowedMsgExt ≠ 0 ∧
            rx.msg.id &&& ~~~dev.acc29b.mask = dev.acc29b.code
        else rx.msg.id &&& ~~~dev.acc11b.mask = dev.acc11b.code) ∧
        (rx.msg.flags &&& pcanfdMsgRtr ≠ 0 → dev.allowedMsgs &&& pcanfdAllowedMsgRtr ≠ 0))) := by
  unfold admitRx
  cases type : rx.msg.type <;> rw [type] at can <;> first | rfl | cases can

theorem admitRx_iff (dev : Pcandev P) (can : rx.msg.type.isCan) :
    (admitRx dev rx).2 = true ↔ dev.allowedMsgs &&& pcanfdAllowedMsgCan ≠ 0 ∧
      (rx.msg.flags &&& pcanfdMsgExt ≠ 0 → dev.allowedMsgs &&& pcanfdAllowedMsgExt ≠ 0) ∧
      rx.msg.id &&& ~~~(accOf dev rx).mask = (accOf dev rx).code ∧
      (rx.msg.flags &&& pcanfdMsgRtr ≠ 0 → dev.allowedMsgs &&& pcanfdAllowedMsgRtr ≠ 0) := by
  rw [admitRx_eq dev can, decide_eq_true_eq]
  unfold accOf
  by_cases ext : rx.msg.flags &&& pcanfdMsgExt ≠ 0
  · rw [if_pos ext, if_pos ext]
    simp only [ext, ne_eq, not_false_eq_true, forall_const, and_assoc]
  · rw [if_neg ext, if_neg ext]
    simp only [ext, false_implies, true_and]

inductive QueueOutcome (dev : Pcandev P) (rx queued : PcanfdRxmsg)
    (done : Pcandev P × PcanfdRxmsg × Int) : Prop
  | ignored (out : dev.nOpenPaths ≤ 0 ∨ pcanDoFilter dev.filter rx ≠ 0)
      (fifo : done.1.readFifo = dev.readFifo) (result : done.2.2 = 0)
  | refused (full : dev.overrun = true ∨ dev.readFifo.items.length = dev.readFifo.capacity)
      (result : done.2.2 < 0)
  | queued (opened : 0 < dev.nOpenPaths) (clear : dev.overrun = false)
      (passed : pcanDoFilter dev.filter rx = 0)
      (room : dev.readFifo.items.length < dev.readFifo.capacity)
      (items : done.1.readFifo.items = dev.readFifo.items ++ [queued]) (result : done.2.2 = 1)

theorem putRx_outcome {dev : Pcandev P} {queued : PcanfdRxmsg} (opened : 0 < dev.nOpenPaths)
    (clear : dev.overrun = false) (passed : pcanDoFilter dev.filter rx = 0) :
    QueueOutcome dev rx queued (putRx dev queued) ∧
      (putRx dev queued).1.rxFramesCounter = dev.rxFramesCounter := by
  have negative : -enospc < 0 := by decide
  unfold putRx
  by_cases room : dev.readFifo.items.length < dev.readFifo.capacity
  · obtain ⟨items, _, stored⟩ := fifoPut_room queued room
    have nonneg : 0 ≤ (fifoPut dev.readFifo queued).2 := by
      rw [stored]
      omega
    simp only [nonneg, if_true]
    exact ⟨.queued opened clear passed room items rfl, trivial⟩
  · have full : dev.readFifo.items.length = dev.readFifo.capacity := by
      have := dev.readFifo.fits
      omega
    simp only [fifoPut_full _ full, not_le.mpr negative, if_false]
    exact ⟨.refused (.inr full) negative, rfl⟩

theorem queueRx_outcome (host : Host) (dev : Pcandev P) (can : rx.msg.type.isCan) :
    QueueOutcome dev rx (stampRx host dev rx) (queueRx host dev rx) ∧
      (queueRx host dev rx).1.rxFramesCounter = dev.rxFramesCounter := by
  have limited : limitRx dev (stampRx host dev rx) =
      (dev, stampRx host dev rx, if pcanDoFilter dev.filter rx = 0 then .post else .drop) := by
    unfold limitRx
    rw [stampRx_type, pcanDoFilter_stamped]
    cases type : rx.msg.type <;> rw [type] at can <;> first | rfl | cases can
  unfold queueRx
  by_cases closed : dev.nOpenPaths ≤ 0
  · rw [if_pos closed]
    exact ⟨.ignored (.inl closed) rfl rfl, rfl⟩
  rw [if_neg closed]
  by_cases set : dev.overrun = true
  · rw [if_pos set]
    exact ⟨.refused (.inl set) (by decide : -enospc < 0), rfl⟩
  rw [if_neg set, limited]
  by_cases passed : pcanDoFilter dev.filter rx = 0
  · simp only [passed, if_true]
    exact putRx_outcome (by omega) (Bool.not_eq_true _ |>.mp set) passed
  · simp only [passed, if_false]
    exact ⟨.ignored (.inr passed) rfl rfl, trivial⟩

/-- The verdict on a frame: it is queued exactly when every test is passed, an error is
    answered only by a queue that takes nothing, and every frame is counted. -/
theorem frame_queued_iff_accepted (host : Host) {dev : Pcandev P} {rx : PcanfdRxmsg}
    (configured : AccConfigured dev) (can : rx.msg.type.isCan) :
    let done := pcanChardevRx host dev rx
    ((done.2.2 = 1 ∧ ∃ queued, done.1.readFifo.items = dev.readFifo.items ++ [queued] ∧
        SameFrame rx queued) ↔ Accepted dev rx) ∧
      (done.2.2 < 0 →
        dev.overrun = true ∨ dev.readFifo.items.length = dev.readFifo.capacity) ∧
      (done.2.2 = 1 ∨ done.2.2 < 0 ∨ done.2.2 = 0 ∧ done.1.readFifo = dev.readFifo) ∧
      done.1.rxFramesCounter = dev.rxFramesCounter + 1 := by
  intro done
  have admit_iff := admitRx_iff dev can
  rw [masked_eq_iff (accOf_clean configured rx)] at admit_iff
  have counted : (admitRx dev rx).1 =
      { dev with rxFramesCounter := dev.rxFramesCounter + 1 } := by rw [admitRx_eq dev can]
  have result : done = if (admitRx dev rx).2 then queueRx host (admitRx dev rx).1 rx
      else ((admitRx dev rx).1, rx, 0) := rfl
  rw [counted] at result
  by_cases admitted : (admitRx dev rx).2 = true
  · rw [if_pos admitted] at result
    obtain ⟨canAllowed, ext, code, rtr⟩ := admit_iff.mp admitted
    have same := stampRx_frame host { dev with rxFramesCounter := dev.rxFramesCounter + 1 } rx
    obtain ⟨outcome, frames⟩ :=
      queueRx_outcome host { dev with rxFramesCounter := dev.rxFramesCounter + 1 } can
    rw [← result] at outcome frames
    cases outcome with
    | ignored out fifo zero =>
      refine ⟨⟨fun ⟨one, _⟩ => by omega, fun accepted => ?_⟩, fun negative => by omega,
        .inr (.inr ⟨zero, fifo⟩), frames⟩
      rcases out with closed | blocked
      · exact absurd accepted.opened (not_lt.mpr closed)
      · exact absurd accepted.filter blocked
    | refused full negative =>
      refine ⟨⟨fun ⟨one, _⟩ => by omega, fun accepted => ?_⟩, fun _ => full,
        .inr (.inl negative), frames⟩
      rcases full with set | full
      · cases set.symm.trans accepted.clear
      · exact absurd full accepted.room.ne
    | queued opened clear passed room items one =>
      exact ⟨⟨fun _ => ⟨canAllowed, ext, rtr, code, passed, opened, clear, room⟩,
        fun _ => ⟨one, _, items, same⟩⟩, fun negative => by omega, .inl one, frames⟩
  · rw [if_neg admitted] at result
    rw [result]
    refine ⟨⟨fun ⟨one, _⟩ => ?_, fun accepted => ?_⟩, fun negative => ?_,
      .inr (.inr ⟨rfl, rfl⟩), rfl⟩
    · cases one
    · exact absurd (admit_iff.mpr ⟨accepted.can, accepted.ext, accepted.code, accepted.rtr⟩) admitted
    · exact absurd negative (lt_irrefl (0 : Int))

/-- An application that wants the ids 0x120 to 0x12f only: the first frame is queued,
    the second one is not for it. -/
theorem frame_queued_by_code :
    let host : Host := default
    let dev := pcanSetAccFilter11b (openedChannel () 4 4 0) ⟨0x00f, 0x12a⟩
    let frame := fun (id : U32) =>
      { PcanfdRxmsg.zero with msg := { PcanfdMsg.zero with type := .can20Msg, id := id } }
    AccConfigured dev ∧ ((pcanChardevRx host dev (frame 0x125)).2.2 = 1 ∧
      ∃ queued, (pcanChardevRx host dev (frame 0x125)).1.readFifo.items =
        dev.readFifo.items ++ [queued] ∧ SameFrame (frame 0x125) queued) ∧
      (pcanChardevRx host dev (frame 0x135)).2.2 = 0 := by
  intro host dev frame
  have configured : AccConfigured dev :=
    ⟨.inr ⟨⟨0x00f, 0x12a⟩, rfl⟩, .inl rfl⟩
  refine ⟨configured, (frame_queued_iff_accepted host configured rfl).1.mpr ?_, by decide +kernel⟩
  constructor <;> decide +kernel

end Pipeline

end PcanDriver

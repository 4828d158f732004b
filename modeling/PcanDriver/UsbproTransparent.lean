import PcanDriver.UsbproFragments

/-!
Fragmentation of USB-Pro messages is transparent as long as each message starts with a
packet and ends inside of its URB: the loop over the packets carries what is left of the
message that is being decoded.
-/
namespace PcanDriver
variable {n : Nat}

section Urb

/-- Messages that start with the packet at `addr` and end with the URB. -/
structure Fresh (packetSize : Nat) (mem : Int → U8) (addr stop : Nat) (msgs : List UsbproMsg) :
    Prop where
  held : Holds mem addr (msgs.flatMap UsbproMsg.bytes)
  ends : addr + (msgs.flatMap UsbproMsg.bytes).length = stop
  aligned : Aligned packetSize msgs

/-- The packet at `addr` is next, in a message whose counter is at `base`. Other messages
    follow from `behind` on. -/
structure Current (packetSize : Nat) (mem : Int → U8) (addr stop base behind : Nat)
    (recs : List UsbproRec) (extra : Nat) (later : List UsbproMsg) : Prop where
  pending : Pending mem base recs extra
  place : base = addr ∨ base + 4 ≤ addr
  begun : addr < base + 4 + recsSize recs
  inside : base + 4 + recsSize recs ≤ stop
  after : base + 4 + recsSize recs ≤ behind
  unsupported : extra ≠ 0 → packetSize ∣ base + 4 + recsSize recs - addr
  next : extra = 0 → behind = base + 4 + recsSize recs
  fresh : extra = 0 → Fresh packetSize mem behind stop later
  whole : later ≠ [] → extra = 0 → packetSize ∣ behind - addr

theorem UsbproMsg.length (m : UsbproMsg) :
    m.bytes.length = 4 + recsSize m.recs + m.unsupported.length := by
  unfold UsbproMsg.bytes recsSize
  simp only [List.length_append, le16, List.length_cons, List.length_nil]
  omega

theorem recCounter_of_holds {mem : Int → U8} {addr : Int} {x : U16} (holds : Holds mem addr (le16 x)) :
    recCounter mem addr = x.toNat := by
  have low := holds 0 (by simp [le16])
  have high := holds 1 (by simp [le16])
  unfold recCounter
  rw [u16At_toNat]
  simp only [Nat.zero_add, low, high, le16, List.getD_cons_zero, List.getD_cons_succ,
    BitVec.toNat_setWidth, BitVec.toNat_ushiftRight, Nat.shiftRight_eq_div_pow]
  have := x.isLt
  omega

theorem Fresh.current {packetSize addr stop : Nat} {mem : Int → U8} {m : UsbproMsg}
    {later : List UsbproMsg} (fresh : Fresh packetSize mem addr stop (m :: later)) :
    Current packetSize mem addr stop addr (addr + m.bytes.length) m.recs
      (m.recCounter.toNat - m.recs.length) later := by
  obtain ⟨held, ends, unsupported, whole, aligned⟩ := fresh
  rw [List.flatMap_cons] at held ends
  rw [List.length_append] at ends
  have length := m.length
  obtain ⟨message, others⟩ := held.append
  obtain ⟨header, body⟩ := message.append
  obtain ⟨records, tail⟩ := body.append
  have four : (le16 m.recCounter ++ le16 m.unused).length = 4 := rfl
  rw [four] at records tail
  have complete : m.recCounter.toNat - m.recs.length = 0 → m.unsupported = [] := by
    intro none
    have := m.counted
    exact m.complete.mpr (by omega)
  constructor
  case pending =>
    have := m.counted
    refine ⟨?_, records, fun more => ?_⟩
    · rw [recCounter_of_holds header.append.1]
      omega
    · have some : m.unsupported ≠ [] := by
        intro none
        have := m.complete.mp none
        omega
      rw [show mem (addr + 4 + recsSize m.recs) = m.unsupported.headD 0 from
        tail.head (List.length_pos_of_ne_nil some)]
      exact m.unknown some
  case place => exact .inl rfl
  case begun => omega
  case inside => omega
  case after => omega
  case unsupported =>
    intro more
    rw [show addr + 4 + recsSize m.recs - addr = 4 + recsSize m.recs by omega]
    apply unsupported
    intro none
    have := m.complete.mp none
    omega
  case next =>
    intro none
    have empty := complete none
    rw [empty, List.length_nil] at length
    omega
  case fresh =>
    intro _
    refine ⟨?_, by omega, aligned⟩
    rw [Int.natCast_add]
    exact others
  case whole =>
    intro some _
    rw [Nat.add_sub_cancel_left]
    exact whole some

/-- What the packets from `start` on have brought, of the records in `todo`. -/
structure Carried (start stop : Nat) (starts : List Nat) (todo : List (List U8))
    (packets : List (Packet n)) (usbIf : UsbInterface n) : Prop where
  inside : ∀ p ∈ packets, start ≤ p.addr ∧ p.addr < stop
  ordered : packets.flatMap Packet.handled <+: todo
  complete : (∀ p ∈ packets, p.failed = false) → packets.flatMap Packet.handled = todo
  header : ∀ p ∈ packets, p.addr ∈ starts → p.before.fragRecOffset = 0
  fresh : usbIf.fragRecOffset = 0

theorem failed_of_err {p : Packet n} {e : Int} (err : p.decoded.err = some e) :
    p.failed = decide (e < 0) := by
  unfold Packet.failed
  rw [err]

section Carried
variable {start stop : Nat} {starts : List Nat} {todo : List (List U8)} {p : Packet n}
  {usbIf : UsbInterface n}

theorem Carried.last (inside : start ≤ p.addr ∧ p.addr < stop) (ordered : p.handled <+: todo)
    (complete : p.failed = false → p.handled = todo)
    (header : p.addr ∈ starts → p.before.fragRecOffset = 0) (fresh : usbIf.fragRecOffset = 0) :
    Carried start stop starts todo [p] usbIf := by
  have handled : [p].flatMap Packet.handled = p.handled := by
    rw [List.flatMap_cons, List.flatMap_nil, List.append_nil]
  constructor
  case inside =>
    intro q member
    rw [List.mem_singleton.mp member]
    exact inside
  case ordered => rw [handled]; exact ordered
  case complete =>
    intro works
    rw [handled]
    exact complete (works p List.mem_cons_self)
  case header =>
    intro q member
    rw [List.mem_singleton.mp member]
    exact header
  case fresh => exact fresh

theorem Carried.stopped {e : Int} (inside : start ≤ p.addr ∧ p.addr < stop)
    (ordered : p.handled <+: todo) (err : p.decoded.err = some e) (negative : e < 0)
    (header : p.addr ∈ starts → p.before.fragRecOffset = 0) (fresh : usbIf.fragRecOffset = 0) :
    Carried start stop starts todo [p] usbIf := by
  refine Carried.last inside ordered ?_ header fresh
  intro works
  rw [failed_of_err err, decide_eq_false_iff_not] at works
  exact absurd negative works

theorem Carried.cons {start' : Nat} {starts' : List Nat} {todo' : List (List U8)}
    {packets : List (Packet n)} (inside : start ≤ p.addr ∧ p.addr < stop)
    (handled : todo = p.handled ++ todo')
    (header : p.addr ∈ starts → p.before.fragRecOffset = 0) (below : start ≤ start')
    (starting : ∀ x ∈ starts, start' ≤ x → x ∈ starts')
    (rest : Carried start' stop starts' todo' packets usbIf) :
    Carried start stop starts todo (p :: packets) usbIf := by
  constructor
  case inside =>
    intro q member
    rcases List.mem_cons.mp member with rfl | later
    · exact inside
    · have := rest.inside q later
      omega
  case ordered =>
    rw [handled, List.flatMap_cons]
    exact (List.prefix_append_right_inj _).mpr rest.ordered
  case complete =>
    intro works
    rw [handled, List.flatMap_cons,
      rest.complete fun q member => works q (List.mem_cons_of_mem _ member)]
  case header =>
    intro q member begins
    rcases List.mem_cons.mp member with rfl | later
    · exact header begins
    · exact rest.header q later (starting _ begins (rest.inside q later).1)
  case fresh => exact rest.fresh

end Carried

theorem messageStarts_ge {position x : Nat} {msgs : List UsbproMsg}
    (member : x ∈ messageStarts position msgs) : position ≤ x := by
  induction msgs generalizing position with
  | nil => cases member
  | cons m rest ih =>
    rcases List.mem_cons.mp member with rfl | later
    · exact Nat.le_refl _
    · have := ih later
      omega

theorem Fresh.congr {packetSize addr stop : Nat} {mem mem' : Int → U8} {msgs : List UsbproMsg}
    (fresh : Fresh packetSize mem addr stop msgs) (same : ∀ a : Int, addr ≤ a → mem' a = mem a) :
    Fresh packetSize mem' addr stop msgs :=
  ⟨fresh.held.congr same, fresh.ends, fresh.aligned⟩

theorem packet_end_of_dvd {packetSize size : Nat} (divides : packetSize ∣ size) (some : 0 < size)
    (reached : size ≤ packetSize) : size = packetSize :=
  Nat.le_antisymm reached (Nat.le_of_dvd some divides)

section Step
variable {packetSize addr stop base behind extra : Nat} {mem : Int → U8} {recs : List UsbproRec}
  {later : List UsbproMsg} {p : Packet n}

/-- What the packet at `addr` leaves of the current message. -/
theorem Current.continued (current : Current packetSize mem addr stop base behind recs extra later)
    (memory : p.mem = fun a => mem (addr + a)) (seek : p.before.fragRecOffset + base = addr)
    (size : p.len = packetSize) {first rest : List UsbproRec} {r : UsbproRec}
    (split : recs = first ++ r :: rest)
    (begins : 4 + recsSize first ≤ p.before.fragRecOffset + p.len)
    (cut : p.before.fragRecOffset + p.len < 4 + recsSize first + r.bytes.length)
    (pending : Pending p.decoded.mem (recsSize first - p.before.fragRecOffset) (r :: rest) extra)
    (kept : ∀ a : Int, 4 + recsSize first - p.before.fragRecOffset ≤ a →
      p.decoded.mem a = p.mem a) :
    Current packetSize (fun a => p.decoded.mem (a - addr)) (addr + packetSize) stop
      (base + recsSize first) behind (r :: rest) extra later := by
  have same : base + recsSize first + 4 + recsSize (r :: rest) = base + 4 + recsSize recs := by
    rw [split, recsSize_append]
    omega
  have longer := recsSize_cons r rest
  obtain ⟨_, _, _, inside, after, unsupported, next, fresh, whole⟩ := current
  constructor
  case pending =>
    have shifted := @Pending.shift (fun a => p.decoded.mem (a - addr)) addr
      (recsSize first - p.before.fragRecOffset) (r :: rest) extra
    simp only [add_sub_cancel_left] at shifted
    rw [show ((base + recsSize first : Nat) : Int) =
      addr + (recsSize first - p.before.fragRecOffset) by omega]
    exact shifted.mp pending
  case place => exact .inr (by omega)
  case begun => omega
  case inside => omega
  case after => omega
  case unsupported =>
    intro more
    rw [same, show base + 4 + recsSize recs - (addr + packetSize) =
      base + 4 + recsSize recs - addr - packetSize by omega]
    exact Nat.dvd_sub (unsupported more) (Nat.dvd_refl _)
  case next =>
    intro none
    rw [same]
    exact next none
  case fresh =>
    intro none
    refine (fresh none).congr fun a above => ?_
    rw [kept _ (by omega), memory]
    exact congrArg mem (by omega)
  case whole =>
    intro some none
    rw [show behind - (addr + packetSize) = behind - addr - packetSize by omega]
    exact Nat.dvd_sub (whole some none) (Nat.dvd_refl _)

end Step

section Reading
variable {env : Nat → Nat → DecodeEnv} {packetSize bufferLen buffer : Nat}

def UsbproReader.nextPacket (r : UsbproReader n) (env : Nat → Nat → DecodeEnv)
    (packetSize bufferLen addr : Nat) : Packet n :=
  r.packet env addr (if packetSize > bufferLen then bufferLen else packetSize)

def UsbproReader.behind (r : UsbproReader n) (p : Packet n) : UsbproReader n :=
  ⟨p.decoded.usbIf, fun a => p.decoded.mem (a - p.addr), r.packets ++ [p]⟩

theorem UsbproReader.behind_usbIf (r : UsbproReader n) (p : Packet n) :
    (r.behind p).usbIf = p.decoded.usbIf := rfl

theorem UsbproReader.behind_packets {r : UsbproReader n} {p : Packet n} {all packets : List (Packet n)}
    (read : all = (r.behind p).packets ++ packets) : all = r.packets ++ p :: packets := by
  rw [read, UsbproReader.behind, List.append_assoc]
  rfl

theorem readLoop_fails {fuel offset addr : Nat} {r : UsbproReader n} {e : Int}
    (more : offset < bufferLen)
    (err : (r.nextPacket env packetSize bufferLen addr).decoded.err = some e) (negative : e < 0) :
    (readLoop (usbproDeviceMsgDecode env) packetSize bufferLen (fuel + 1) offset addr r).1 =
      r.behind (r.nextPacket env packetSize bufferLen addr) := by
  unfold UsbproReader.nextPacket at err ⊢
  simp only [readLoop, if_pos more, usbproDeviceMsgDecode, err, Option.getD_some, if_pos negative]
  rfl

theorem readLoop_goes {fuel offset addr : Nat} {r : UsbproReader n} {e : Int}
    (more : offset < bufferLen)
    (err : (r.nextPacket env packetSize bufferLen addr).decoded.err = some e) (good : 0 ≤ e) :
    (readLoop (usbproDeviceMsgDecode env) packetSize bufferLen (fuel + 1) offset addr r).1 =
      (readLoop (usbproDeviceMsgDecode env) packetSize bufferLen fuel (offset + packetSize)
        (addr + packetSize) (r.behind (r.nextPacket env packetSize bufferLen addr))).1 := by
  unfold UsbproReader.nextPacket at err ⊢
  simp only [readLoop, if_pos more, usbproDeviceMsgDecode, err, Option.getD_some,
    if_neg (Int.not_lt.mpr good)]
  rfl

structure Packet.At (p : Packet n) (r : UsbproReader n) (packetSize bufferLen addr : Nat) : Prop where
  memory : p.mem = fun a => r.mem (addr + a)
  before : p.before = r.usbIf
  here : p.addr = addr
  short : p.len ≤ packetSize
  cutoff : p.len = packetSize ∨ p.len = bufferLen

theorem UsbproReader.nextPacket_at (r : UsbproReader n) (addr : Nat) :
    (r.nextPacket env packetSize bufferLen addr).At r packetSize bufferLen addr := by
  have size : (r.nextPacket env packetSize bufferLen addr).len =
      if packetSize > bufferLen then bufferLen else packetSize := rfl
  constructor
  case memory => rfl
  case before => rfl
  case here => rfl
  case short =>
    rw [size]
    split <;> omega
  case cutoff =>
    rw [size]
    split
    · exact .inr rfl
    · exact .inl rfl

section Next
variable {addr base behind extra : Nat} {r : UsbproReader n} {recs : List UsbproRec}
  {later : List UsbproMsg} {p : Packet n}

theorem Current.decoded
    (current : Current packetSize r.mem addr (buffer + bufferLen) base behind recs extra later)
    (next : p.At r packetSize bufferLen addr) (seek : r.usbIf.fragRecOffset + base = addr)
    (addressed : ∀ s ∈ recs, s.Addressed n) (room : 4 ≤ packetSize ∧ buffer ≤ addr) :
    PacketEnd p recs extra := by
  obtain ⟨memory, before, here, short, cutoff⟩ := next
  have begun := current.begun
  have inside := current.inside
  apply packet_ends _ addressed
  · rw [before]
    rcases current.place with first | continued <;> omega
  · rw [memory, before, Pending.shift,
      show (addr + -(r.usbIf.fragRecOffset : Int)) = base by omega]
    exact current.pending

/-- A message can start with the packet only if it is the current one. -/
theorem Current.header
    (current : Current packetSize r.mem addr (buffer + bufferLen) base behind recs extra later)
    (next : p.At r packetSize bufferLen addr) (seek : r.usbIf.fragRecOffset + base = addr)
    (member : p.addr ∈ base :: messageStarts behind later) : p.before.fragRecOffset = 0 := by
  have here := next.here
  rcases List.mem_cons.mp member with first | further
  · rw [next.before]
    omega
  · have begun := current.begun
    have after := current.after
    have := messageStarts_ge further
    omega

end Next

/-- The packets of a URB from the one at `addr` on, when a message is being decoded. -/
theorem readLoop_carries (large : 4 ≤ packetSize) (fuel offset : Nat) {addr base behind extra : Nat}
    {r : UsbproReader n} {recs : List UsbproRec} {later : List UsbproMsg}
    (place : addr = buffer + offset) (enough : bufferLen ≤ offset + fuel)
    (current : Current packetSize r.mem addr (buffer + bufferLen) base behind recs extra later)
    (seek : r.usbIf.fragRecOffset + base = addr)
    (addressed : ∀ s ∈ recs, s.Addressed n)
    (others : ∀ m ∈ later, ∀ s ∈ m.recs, s.Addressed n)
    (accepted : ∀ p ∈ (readLoop (usbproDeviceMsgDecode env) packetSize bufferLen fuel offset addr
      r).1.packets, p.before.fragRecOffset ≠ 0 → p.Accepted) :
    ∃ packets,
      (readLoop (usbproDeviceMsgDecode env) packetSize bufferLen fuel offset addr r).1.packets =
        r.packets ++ packets ∧
      Carried addr (buffer + bufferLen) (base :: messageStarts behind later)
        (recs.map (·.bytes) ++ streamRecs later) packets
        (readLoop (usbproDeviceMsgDecode env) packetSize bufferLen fuel offset addr
          r).1.usbIf := by
  induction fuel generalizing offset addr base behind extra r recs later with
  | zero =>
    have := current.begun
    have := current.inside
    omega
  | succ fuel ih =>
    have begun := current.begun
    have inside := current.inside
    have after := current.after
    have more : offset < bufferLen := by omega
    obtain ⟨p, packet⟩ : ∃ p, p = r.nextPacket env packetSize bufferLen addr := ⟨_, rfl⟩
    have placed : p.At r packetSize bufferLen addr := packet ▸ r.nextPacket_at addr
    have memory := placed.memory
    have before := placed.before
    have here := placed.here
    have short := placed.short
    have cutoff := placed.cutoff
    have within : addr ≤ p.addr ∧ p.addr < buffer + bufferLen := by omega
    have header : p.addr ∈ base :: messageStarts behind later → p.before.fragRecOffset = 0 :=
      current.header placed seek
    cases current.decoded placed seek addressed (by omega) with
    | all supported handled ends offset' same err =>
      obtain ⟨e, err, good⟩ := err
      rw [before] at ends
      rw [readLoop_goes more (packet ▸ err) good, ← packet] at accepted ⊢
      have next := current.next supported
      have fresh := current.fresh supported
      have unchanged : (r.behind p).mem = r.mem := by
        funext a
        simp only [UsbproReader.behind, same, memory, here]
        exact congrArg r.mem (by omega)
      cases later with
      | nil =>
        have stop : behind = buffer + bufferLen := fresh.ends
        rw [readLoop_stop _ _ _ (by omega)]
        refine ⟨[p], rfl, Carried.last within ?_ ?_ header offset'⟩
        · rw [handled]
          exact List.prefix_append _ _
        · intro _
          rw [handled]
          exact (List.append_nil _).symm
      | cons m rest =>
        have whole := packet_end_of_dvd (current.whole (List.cons_ne_nil _ _) supported) (by omega)
          (by omega)
        have first : Fresh packetSize (r.behind p).mem (addr + packetSize) (buffer + bufferLen)
            (m :: rest) := by
          rw [unchanged, show addr + packetSize = behind by omega]
          exact fresh
        obtain ⟨packets, read, carried⟩ := ih (offset + packetSize) (by omega) (by omega)
          first.current (by rw [UsbproReader.behind_usbIf, offset', Nat.zero_add])
          (others m List.mem_cons_self)
          (fun m' member => others m' (List.mem_cons_of_mem _ member)) accepted
        refine ⟨p :: packets, UsbproReader.behind_packets read,
          carried.cons within ?_ header (by omega) ?_⟩
        · rw [handled]
          rfl
        · intro x member above
          rcases List.mem_cons.mp member with early | begins
          · omega
          · rw [show addr + packetSize = behind by omega]
            exact begins
    | unsupported some handled begins offset' err =>
      obtain ⟨e, err, negative⟩ := err
      rw [before] at begins offset'
      rw [readLoop_fails more (packet ▸ err) negative, ← packet]
      have whole := packet_end_of_dvd (current.unsupported some) (by omega) (by omega)
      refine ⟨[p], rfl, Carried.stopped within ?_ err negative header ?_⟩
      · rw [handled]
        exact List.prefix_append _ _
      · rw [UsbproReader.behind_usbIf]
        omega
    | fragment first s rest split handled begins cut offset' pending' kept err =>
      obtain ⟨e, err, good⟩ := err
      rw [readLoop_goes more (packet ▸ err) good, ← packet] at accepted ⊢
      have sizes : recsSize recs = recsSize first + (s.bytes.length + recsSize rest) := by
        rw [split, recsSize_append, recsSize_cons]
      have whole : p.len = packetSize := by
        rw [before] at cut
        rcases cutoff with full | all <;> omega
      have left := current.continued memory (before ▸ seek) whole split begins cut pending' kept
      rw [before] at begins cut offset'
      have subset : ∀ t ∈ s :: rest, t ∈ recs := by
        intro t member
        rw [split]
        exact List.mem_append_right _ member
      obtain ⟨packets, read, carried⟩ := @ih (offset + packetSize) (addr + packetSize)
        (base + recsSize first) behind extra (r.behind p) (s :: rest) later (by omega) (by omega)
        (by rw [UsbproReader.behind, here]; exact left)
        (by rw [UsbproReader.behind_usbIf]; omega) (fun t member => addressed t (subset t member)) others
        accepted
      refine ⟨p :: packets, UsbproReader.behind_packets read, carried.cons within ?_ header (by omega) ?_⟩
      · rw [handled, split, List.map_append, List.append_assoc]
      · intro x member above
        rcases List.mem_cons.mp member with early | begins'
        · omega
        · exact List.mem_cons_of_mem _ begins'
    | refused first rest split handled offset' stopped err =>
      obtain ⟨e, err, negative⟩ := err
      rw [readLoop_fails more (packet ▸ err) negative, ← packet] at accepted ⊢
      have last : p ∈ (r.behind p).packets := List.mem_append_right _ List.mem_cons_self
      refine ⟨[p], rfl, Carried.stopped within ?_ err negative header ?_⟩
      · rw [handled, split, List.map_append, List.append_assoc]
        exact List.prefix_append _ _
      · rw [UsbproReader.behind_usbIf, offset']
        by_contra continued
        exact stopped (accepted p last continued)

theorem Delivery.memory_holds (d : Delivery) (buffer : Nat) :
    Holds (d.memory buffer) buffer d.bytes := by
  intro k inside
  unfold Delivery.memory
  rw [if_pos (by omega), show ((buffer : Int) + k - buffer).toNat = k by omega]

theorem usbproUrb_carries {sizes : ReadSizes} (large : 4 ≤ sizes.readPacketSize)
    {usbIf : UsbInterface n} (idle : usbIf.fragRecOffset = 0) (second : Bool) {d : Delivery}
    {msgs : List UsbproMsg} (bytes : d.bytes = msgs.flatMap UsbproMsg.bytes)
    (aligned : Aligned sizes.readPacketSize msgs)
    (addressed : ∀ m ∈ msgs, ∀ s ∈ m.recs, s.Addressed n)
    (accepted : ∀ p ∈ (usbproUrb sizes usbIf second d).packets,
      p.before.fragRecOffset ≠ 0 → p.Accepted) :
    let buffer := ReadUrb.transferBuffer ⟨0, second, d.bytes.length⟩ sizes
    Carried buffer (buffer + d.bytes.length) (messageStarts buffer msgs) (streamRecs msgs)
      (usbproUrb sizes usbIf second d).packets (usbproUrb sizes usbIf second d).usbIf := by
  intro buffer
  have decoded : usbproUrb sizes usbIf second d =
      (readLoop (usbproDeviceMsgDecode d.env) sizes.readPacketSize d.bytes.length d.bytes.length 0
        buffer ⟨usbIf, d.memory buffer, []⟩).1 := rfl
  rw [decoded] at accepted ⊢
  cases msgs with
  | nil =>
    have empty : d.bytes.length = 0 := by rw [bytes]; rfl
    rw [readLoop_stop _ _ _ (by omega)]
    constructor
    case inside => exact fun p member => by cases member
    case ordered => exact List.prefix_refl _
    case complete => exact fun _ => rfl
    case header => exact fun p member => by cases member
    case fresh => exact idle
  | cons m later =>
    have fresh : Fresh sizes.readPacketSize (d.memory buffer) buffer (buffer + d.bytes.length)
        (m :: later) := by
      refine ⟨?_, by rw [bytes], aligned⟩
      rw [← bytes]
      exact d.memory_holds buffer
    obtain ⟨packets, read, carried⟩ := readLoop_carries large d.bytes.length 0
      (Nat.add_zero buffer).symm (by omega) fresh.current (by rw [idle, Nat.zero_add])
      (addressed m List.mem_cons_self)
      (fun m' member => addressed m' (List.mem_cons_of_mem _ member)) accepted
    rw [read]
    exact carried

end Reading

end Urb

section Run

theorem messageStarts_lt {position x : Nat} {msgs : List UsbproMsg}
    (member : x ∈ messageStarts position msgs) :
    x < position + (msgs.flatMap UsbproMsg.bytes).length := by
  induction msgs generalizing position with
  | nil => cases member
  | cons m rest ih =>
    have length := m.length
    rw [List.flatMap_cons, List.length_append]
    rcases List.mem_cons.mp member with rfl | later
    · omega
    · have := ih later
      omega

theorem messageStarts_append (position : Nat) (xs ys : List UsbproMsg) :
    messageStarts position (xs ++ ys) = messageStarts position xs ++
      messageStarts (position + (xs.flatMap UsbproMsg.bytes).length) ys := by
  induction xs generalizing position with
  | nil => rfl
  | cons m rest ih =>
    rw [List.cons_append, messageStarts, messageStarts, ih, List.cons_append, List.flatMap_cons,
      List.length_append, Nat.add_assoc]

theorem messageStarts_shift (position distance x : Nat) (msgs : List UsbproMsg) :
    distance + x ∈ messageStarts (distance + position) msgs ↔ x ∈ messageStarts position msgs := by
  induction msgs generalizing position with
  | nil => simp only [messageStarts, List.not_mem_nil]
  | cons m rest ih =>
    simp only [messageStarts, List.mem_cons, Nat.add_assoc, Nat.add_left_cancel_iff, ih]

theorem streamRecs_append (xs ys : List UsbproMsg) :
    streamRecs (xs ++ ys) = streamRecs xs ++ streamRecs ys :=
  List.flatMap_append

theorem Transparent.cons {position buffer : Nat} {msgs rest : List UsbproMsg}
    {packets : List (Packet n)} {usbIf : UsbInterface n} {urbs : List (UrbDone n)}
    (carried : Carried buffer (buffer + (msgs.flatMap UsbproMsg.bytes).length)
      (messageStarts buffer msgs) (streamRecs msgs) packets usbIf)
    (later : Transparent (position + (msgs.flatMap UsbproMsg.bytes).length) rest urbs)
    (behind : ∀ urb ∈ urbs, position + (msgs.flatMap UsbproMsg.bytes).length ≤ urb.position) :
    Transparent position (msgs ++ rest) (⟨position, buffer, packets⟩ :: urbs) := by
  have handled : handledRecs (⟨position, buffer, packets⟩ :: urbs) =
      packets.flatMap Packet.handled ++ handledRecs urbs := List.flatMap_cons
  constructor
  case ordered =>
    rw [handled, streamRecs_append]
    exact carried.ordered.sublist.append later.ordered
  case complete =>
    intro works
    rw [handled, streamRecs_append, carried.complete (works _ List.mem_cons_self),
      later.complete fun urb member => works urb (List.mem_cons_of_mem _ member)]
  case header =>
    intro urb member p inside begins
    rw [messageStarts_append] at begins
    rcases List.mem_cons.mp member with rfl | further
    · have within := carried.inside p inside
      simp only at begins
      rcases List.mem_append.mp begins with mine | others
      · apply carried.header p inside
        rw [← messageStarts_shift _ position]
        rw [← messageStarts_shift _ buffer] at mine
        rw [show position + p.addr = buffer + (position + (p.addr - buffer)) by omega,
          Nat.add_comm position buffer]
        exact mine
      · have := messageStarts_ge others
        omega
    · rcases List.mem_append.mp begins with others | mine
      · have := messageStarts_lt others
        have := behind urb further
        omega
      · exact later.header urb further p inside mine

theorem usbproReceive_position {sizes : ReadSizes} {position : Nat} {second : Bool}
    {usbIf : UsbInterface n} {urbs : List Delivery} :
    ∀ urb ∈ usbproReceive sizes position second usbIf urbs, position ≤ urb.position := by
  induction urbs generalizing position second usbIf with
  | nil =>
    intro urb member
    cases member
  | cons d rest ih =>
    intro urb member
    rcases List.mem_cons.mp member with rfl | later
    · exact Nat.le_refl _
    · have := ih urb later
      omega

theorem usbproReceive_transparent {sizes : ReadSizes} (large : 4 ≤ sizes.readPacketSize)
    {stream : List UsbproMsg} {urbs : List Delivery}
    (whole : WholeMessages sizes.readPacketSize stream urbs)
    (addressed : ∀ m ∈ stream, ∀ r ∈ m.recs, r.Addressed n) (position : Nat) (second : Bool)
    {usbIf : UsbInterface n} (idle : usbIf.fragRecOffset = 0)
    (accepted : ∀ urb ∈ usbproReceive sizes position second usbIf urbs, ∀ p ∈ urb.packets,
      p.before.fragRecOffset ≠ 0 → p.Accepted) :
    Transparent position stream (usbproReceive sizes position second usbIf urbs) := by
  induction whole generalizing position second usbIf with
  | nil =>
    constructor
    case ordered => exact List.Sublist.slnil
    case complete => exact fun _ => rfl
    case header => exact fun urb member => by cases member
  | @cons msgs rest d urbs bytes aligned later ih =>
    unfold usbproReceive at accepted ⊢
    simp only at accepted ⊢
    have carried := usbproUrb_carries large idle second bytes aligned
      (fun m member => addressed m (List.mem_append_left _ member))
      (accepted _ List.mem_cons_self)
    have further := ih (fun m member => addressed m (List.mem_append_right _ member))
      (position + d.bytes.length) (!second) carried.fresh
      (fun urb member => accepted urb (List.mem_cons_of_mem _ member))
    rw [bytes] at carried
    have behind := @usbproReceive_position n sizes (position + d.bytes.length) (!second)
      (usbproUrb sizes usbIf second d).usbIf urbs
    rw [bytes] at further behind ⊢
    exact Transparent.cons carried further behind

/-- Messages that start with a packet and end inside of their URB are put together again,
    and the next one is decoded from its own header, whatever the memory around. -/
theorem usbpro_stream_transparent (highSpeed : Bool) {stream : List UsbproMsg}
    {urbs : List Delivery}
    (whole : WholeMessages (pcanUsbReadSizes (.usbpro highSpeed)).readPacketSize stream urbs)
    (addressed : ∀ m ∈ stream, ∀ r ∈ m.recs, r.Addressed n) (second : Bool)
    {usbIf : UsbInterface n} (idle : usbIf.fragRecOffset = 0)
    (accepted : ∀ urb ∈ usbproReceive (pcanUsbReadSizes (.usbpro highSpeed)) 0 second usbIf urbs,
      ∀ p ∈ urb.packets, p.before.fragRecOffset ≠ 0 → p.Accepted) :
    Transparent 0 stream
      (usbproReceive (pcanUsbReadSizes (.usbpro highSpeed)) 0 second usbIf urbs) := by
  have large : 4 ≤ (pcanUsbReadSizes (.usbpro highSpeed)).readPacketSize := by
    cases highSpeed <;> decide
  exact usbproReceive_transparent large whole addressed 0 second idle accepted

def sampleRec : UsbproRec := ⟨[dataTypeCanmsgRx0, 0, 0, 0] ++ List.replicate 8 0, by decide⟩

/-- A message of six frames without data, which takes two packets. -/
def sampleMsg : UsbproMsg :=
  ⟨6, 0, List.replicate 6 sampleRec, [], by decide, by decide, by decide⟩

def openInterface : UsbInterface 0 :=
  ⟨fun _ => ⟨{ openedChannel ⟨64, 64, 0, 0, false, []⟩ 8 8 0 with busState := .errorActive },
    false, 0, 0⟩, default, -1, 0, 0⟩

theorem usbpro_stream_transparent_sample :
    let d : Delivery := ⟨fun _ _ => sampleEnv, sampleMsg.bytes, fun _ => 0xff⟩
    let done := usbproReceive (pcanUsbReadSizes (.usbpro false)) 0 false openInterface [d]
    Transparent 0 [sampleMsg] done ∧ (done.map fun urb => urb.packets.length) = [2] ∧
      handledRecs done = List.replicate 6 sampleRec.bytes := by
  intro d done
  refine ⟨?_, by decide +kernel, by decide +kernel⟩
  apply @usbpro_stream_transparent 0 false [sampleMsg] [d] _ _ false openInterface rfl
  · decide +kernel
  · exact @WholeMessages.cons _ [sampleMsg] [] d [] rfl
      ⟨fun some => absurd rfl some, fun some => absurd rfl some, trivial⟩ .nil
  · intro m member r inside
    rw [List.mem_singleton.mp member] at inside
    rw [(List.mem_replicate.mp inside).2]
    intro ctrlIndex found
    rw [show usbproCtrlIndex (fun k => sampleRec.bytes.getD k 0) = some 0 by decide] at found
    cases found
    decide

/-- Messages of one record: in a stream that is cut in the first one, that record is not
    handled. Behind a message with an unsupported record, the one of the next message. -/
theorem usbpro_stream_not_transparent :
    let one : UsbproMsg := ⟨1, 0, [sampleRec], [], by decide, by decide, by decide⟩
    let unknown : UsbproMsg := ⟨1, 0, [], [0xff, 0, 0, 0], by decide, by decide, by decide⟩
    let receive := fun urbs => usbproReceive (pcanUsbReadSizes (.usbpro false)) 0 false openInterface
      (urbs.map fun bytes => ⟨fun _ _ => sampleEnv, bytes, fun _ => 0⟩)
    let cut := [one.bytes.take 8, one.bytes.drop 8]
    cut.flatten = [one].flatMap UsbproMsg.bytes ∧ handledRecs (receive cut) = [] ∧
      ¬Transparent 0 [one] (receive cut) ∧
      ¬Transparent 0 [unknown, one] (receive [unknown.bytes, one.bytes]) := by
  intro one unknown receive cut
  refine ⟨by decide +kernel, by decide +kernel, fun transparent => ?_, fun transparent => ?_⟩
  · exact absurd (transparent.complete (by decide +kernel)) (by decide +kernel)
  · exact absurd transparent.header (by decide +kernel)

end Run

end PcanDriver

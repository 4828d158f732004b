import PcanDriver.UcanBuffer

/-!
A frame encoded by `ucan_encode_msg` and decoded by `ucan_post_canrx_msg`. The two
functions use different flags, and two tables for the length of the data.
-/
namespace PcanDriver
variable {P Q : Type}

def PcanfdMsg.has (m : PcanfdMsg) (bit : U32) : Bool := decide (m.flags &&& bit ≠ 0)

/-- `channel_dlc`, `flags`, `can_id` and `d` of a `struct ucan_tx_msg` in place of those
    of `rm`, which is a `struct ucan_rx_msg`. -/
def asRxMsg (rm record : Nat → U8) : Nat → U8 := fun k =>
  if k = 20 ∨ 22 ≤ k then record (k - 8) else rm k

/-- What is left of `m` in the message `r` that is received for it. -/
structure RoundTrip (m r : PcanfdMsg) : Prop where
  type : r.type = m.type
  id : r.id = if m.has pcanfdMsgExt then m.id &&& 0x1FFFFFFF else m.id &&& 0x7FF
  ext : r.has pcanfdMsgExt = m.has pcanfdMsgExt
  sng : r.has pcanfdMsgSng = m.has pcanfdMsgSng
  rtr : r.has pcanfdMsgRtr = (decide (m.type = .can20Msg) && m.has pcanfdMsgRtr)
  brs : r.has pcanfdMsgBrs = (decide (m.type = .canfdMsg) && m.has pcanfdMsgBrs)
  esi : r.has pcanfdMsgEsi = (decide (m.type = .canfdMsg) && m.has pcanfdMsgEsi)
  slf : r.has pcanfdMsgSlf = m.has pcanfdMsgSlf
  echo : r.has pcanfdMsgEcho = (!m.has pcanfdMsgSlf && m.has pcanfdMsgEcho)
  length : r.dataLen.toNat = pcanDlc2len (pcanLen2dlc (m.dataLen.setWidth 8))
  data : r.has pcanfdMsgRtr = false →
    ∀ j : Fin 64, r.data[j] = if j.val < m.dataLen.toNat then m.data[j] else 0

section Flags

def wireFlags (fd ext slf echo sng rtr brs esi : Bool) : U16 :=
  (if ext then ucanMsgExtId else 0) |||
    (if slf then ucanMsgHwSrr else if echo then ucanMsgHwSrr ||| ucanMsgApiSrr else 0) |||
    (if sng then ucanMsgSingleShot else 0) |||
    (if fd then ucanMsgExtDataLen ||| (if brs then ucanMsgBitrateSwitch else 0) |||
        (if esi then ucanMsgErrorStateInd else 0)
      else if rtr then ucanMsgRtr else 0)

theorem ucanTxFlags_eq {m : PcanfdMsg} (can : m.type.isCan = true) :
    ucanTxFlags m = wireFlags (decide (m.type = .canfdMsg)) (m.has pcanfdMsgExt)
      (m.has pcanfdMsgSlf) (m.has pcanfdMsgEcho) (m.has pcanfdMsgSng) (m.has pcanfdMsgRtr)
      (m.has pcanfdMsgBrs) (m.has pcanfdMsgEsi) := by
  unfold ucanTxFlags wireFlags PcanfdMsg.has
  simp only [decide_eq_true_eq]
  cases type : m.type with
  | can20Msg => simp only [reduceCtorEq, if_false]
  | canfdMsg => simp only [if_true]
  | nop | status | errorMsg | other => rw [type] at can; cases can

/-- The flags of the message that is made of a record with the flags `f`. -/
def messageFlags (f : U16) : U32 :=
  let has := fun (bit : U16) => decide (f &&& bit ≠ 0)
  let fd := has ucanMsgExtDataLen
  flagIf (fd && has ucanMsgBitrateSwitch) pcanfdMsgBrs |||
    flagIf (fd && has ucanMsgErrorStateInd) pcanfdMsgEsi |||
    flagIf (has ucanMsgExtId) pcanfdMsgExt ||| flagIf (has ucanMsgRtr) pcanfdMsgRtr |||
    flagIf (has ucanMsgHwSrr && has ucanMsgApiSrr) pcanfdMsgEcho |||
    flagIf (has ucanMsgHwSrr && !has ucanMsgApiSrr) pcanfdMsgSlf |||
    flagIf (has ucanMsgSingleShot) pcanfdMsgSng

theorem messageFlags_wireFlags : ∀ fd ext slf echo sng rtr brs esi : Bool,
    let f := wireFlags fd ext slf echo sng rtr brs esi
    let back := fun (bit : U32) => decide (messageFlags f &&& bit ≠ 0)
    decide (f &&& ucanMsgExtDataLen ≠ 0) = fd ∧ decide (f &&& ucanMsgRtr ≠ 0) = (!fd && rtr) ∧
      back pcanfdMsgExt = ext ∧ back pcanfdMsgSng = sng ∧ back pcanfdMsgRtr = (!fd && rtr) ∧
      back pcanfdMsgBrs = (fd && brs) ∧ back pcanfdMsgEsi = (fd && esi) ∧
      back pcanfdMsgSlf = slf ∧ back pcanfdMsgEcho = (!slf && echo) := by
  decide +kernel

end Flags

section Fields

theorem u32At_le32 {record : Nat → U8} {x : U32} {k : Nat} (b0 : record k = x.setWidth 8)
    (b1 : record (k + 1) = (x >>> 8).setWidth 8) (b2 : record (k + 2) = (x >>> 16).setWidth 8)
    (b3 : record (k + 3) = (x >>> 24).setWidth 8) : u32At record k = x := by
  unfold u32At u16At
  rw [b0, b1, b2, b3]
  ext i inside
  simp only [BitVec.getElem_append, BitVec.getElem_setWidth, BitVec.getLsbD_ushiftRight]
  split
  next =>
    split
    next => rw [BitVec.getLsbD_eq_getElem]
    next => rw [show 8 + (i - 8) = i by omega, BitVec.getLsbD_eq_getElem]
  next =>
    split
    next => rw [show 16 + (i - 16) = i by omega, BitVec.getLsbD_eq_getElem]
    next => rw [show 24 + (i - 16 - 8) = i by omega, BitVec.getLsbD_eq_getElem]

theorem pcanLen2dlc_lt : ∀ len : U8, (pcanLen2dlc len).toNat < 16 := by
  decide +kernel

theorem dlc_nibble (channel : U8) {dlc : U8} (small : dlc.toNat < 16) :
    ((channel &&& (0xf : U8)) ||| (dlc <<< 4)) >>> 4 = dlc := by
  have low : (channel &&& (0xf : U8)) >>> 4 = 0 := by
    rw [BitVec.ushiftRight_and_distrib]
    exact BitVec.and_zero
  have high : (dlc <<< 4) >>> 4 = dlc := by
    apply BitVec.eq_of_toNat_eq
    rw [BitVec.toNat_ushiftRight, Masks.toNat_shiftLeft_of_lt (by omega), Nat.shiftRight_eq_div_pow]
    exact Nat.mul_div_cancel _ (by decide)
  rw [BitVec.ushiftRight_or_distrib, low, high]
  exact BitVec.zero_or

/-- The fields of a record that are copied, where the receiver finds them. -/
structure Copied (tx : PcanfdTxmsg) (rm : Nat → U8) : Prop where
  dlc : rm 20 >>> 4 = ucanTxDlc tx
  flags : u16At rm 22 = ucanTxFlags tx.msg
  id : u32At rm 24 = ucanTxCanId tx.msg
  data : ∀ j : Fin 64, j.val < pcanDlc2len (ucanTxDlc tx) →
    rm (28 + j) = if j.val < tx.msg.dataLen.toNat then tx.msg.data.get j else 0

theorem ucanTxData_getElem? {tx : PcanfdTxmsg} (short : tx.msg.dataLen.toNat ≤ 64) {j : Fin 64}
    (inside : j.val < pcanDlc2len (ucanTxDlc tx)) :
    (ucanTxData tx)[j.val]? =
      some (if j.val < tx.msg.dataLen.toNat then tx.msg.data[j] else 0) := by
  have bounds := ucanTxMsgSize_bounds tx
  unfold ucanTxData
  simp only
  rw [List.getElem?_append, List.length_take, Vector.length_toList, Nat.min_eq_left short]
  by_cases data : j.val < tx.msg.dataLen.toNat
  · rw [if_pos data, if_pos data, List.getElem?_take, if_pos data]
    exact List.getElem?_eq_getElem (by rw [Vector.length_toList]; exact j.isLt)
  · rw [if_neg data, if_neg data, List.getElem?_replicate, if_pos (by omega)]

theorem copied {nChannel : Nat} {tx : PcanfdTxmsg} (short : tx.msg.dataLen.toNat ≤ 64)
    {rm record : Nat → U8}
    (written : Store.read record 0 (ucanTxMsgSize tx) = ucanTxMsg nChannel tx) :
    Copied tx (asRxMsg rm record) := by
  have bounds := ucanTxMsgSize_bounds tx
  have at_ : ∀ k, 20 ≤ k → k = 20 ∨ 22 ≤ k → k < ucanTxMsgSize tx + 8 →
      some (asRxMsg rm record k) = (ucanTxMsg nChannel tx)[k - 8]? := by
    intro k _ field inside
    rw [← written, Store.read_getElem?, if_pos (by omega), asRxMsg, if_pos field, Nat.zero_add]
  constructor
  case dlc =>
    rw [Option.some.inj ((at_ 20 (by omega) (.inl rfl) (by omega)).trans rfl)]
    exact dlc_nibble _ (pcanLen2dlc_lt _)
  case flags =>
    have low := Option.some.inj ((at_ 22 (by omega) (.inr (by omega)) (by omega)).trans rfl)
    have high := Option.some.inj ((at_ 23 (by omega) (.inr (by omega)) (by omega)).trans rfl)
    unfold u16At
    rw [low, high]
    exact bytes_join _
  case id =>
    apply u32At_le32
    · exact Option.some.inj (at_ 24 (by omega) (.inr (by omega)) (by omega))
    · exact Option.some.inj (at_ 25 (by omega) (.inr (by omega)) (by omega))
    · exact Option.some.inj (at_ 26 (by omega) (.inr (by omega)) (by omega))
    · exact Option.some.inj (at_ 27 (by omega) (.inr (by omega)) (by omega))
  case data =>
    intro j inside
    have found := at_ (28 + j) (by omega) (.inr (by omega)) (by omega)
    have tail : (ucanTxMsg nChannel tx)[28 + j.val - 8]? = (ucanTxData tx)[j.val]? := by
      rw [show 28 + j.val - 8 = j.val + 20 by omega]
      rfl
    rw [tail, ucanTxData_getElem? short inside] at found
    exact Option.some.inj found

end Fields

section Frame

theorem SentFrame.classic_or_fd {tx : PcanfdTxmsg} (sent : SentFrame P tx) :
    (tx.msg.type = .can20Msg ∧ tx.msg.dataLen.toNat ≤ 8) ∨
      (tx.msg.type = .canfdMsg ∧ tx.msg.dataLen.toNat ≤ 64) := by
  obtain ⟨dev, ptx, checked, accepted, same⟩ := sent
  have classic : ∀ tx tx', checkClassic tx = .ok tx' → tx' = tx ∧ tx.msg.dataLen.toNat ≤ 8 := by
    intro tx tx' ok
    unfold checkClassic at ok
    split at ok
    next short => cases ok; exact ⟨rfl, BitVec.le_def.mp short⟩
    next => cases ok
  have typed : ∀ tx, checkTxType dev ptx = .ok tx →
      (tx.msg.type = .can20Msg ∧ tx.msg.dataLen.toNat ≤ 8) ∨
        (tx.msg.type = .canfdMsg ∧ tx.msg.dataLen.toNat ≤ 64) := by
    intro tx ok
    unfold checkTxType at ok
    split at ok
    next fd =>
      split at ok
      next settings => cases ok; exact .inr ⟨fd, BitVec.le_def.mp settings.2⟩
      next =>
        obtain ⟨rfl, short⟩ := classic _ _ ok
        exact .inl ⟨rfl, short⟩
    next can20 =>
      obtain ⟨rfl, short⟩ := classic _ _ ok
      exact .inl ⟨can20, short⟩
    next => cases ok
  rw [same]
  unfold checkTxmsg at accepted
  split at accepted
  next => cases accepted
  next tx ok =>
    split at accepted
    next => cases accepted
    next => cases accepted; exact typed _ ok

theorem classic_dlc : ∀ n : Fin 9,
    min (pcanLen2dlc (BitVec.ofNat 8 n)).toNat 8 = pcanDlc2len (pcanLen2dlc (BitVec.ofNat 8 n)) := by
  decide +kernel

theorem setWidth_ofNat (x : U16) : x.setWidth 8 = BitVec.ofNat 8 x.toNat := by
  apply BitVec.eq_of_toNat_eq
  simp [BitVec.toNat_setWidth]

theorem sent_length {tx : PcanfdTxmsg} (sent : SentFrame P tx) :
    (if tx.msg.type = .canfdMsg then pcanDlc2len (ucanTxDlc tx)
      else min (ucanTxDlc tx).toNat 8) = pcanDlc2len (ucanTxDlc tx) := by
  rcases sent.classic_or_fd with ⟨classic, short⟩ | ⟨fd, _⟩
  · rw [if_neg (by rw [classic]; exact nofun), ucanTxDlc, setWidth_ofNat]
    exact classic_dlc ⟨tx.msg.dataLen.toNat, by omega⟩
  · rw [if_pos fd]

theorem stamped_has (rx : PcanfdRxmsg) (ptv : Option PcanTimeval) {bit : U32}
    (apart : (pcanfdTimestamp ||| pcanfdHwtimestamp) &&& bit = 0) :
    (rx.stamped ptv).msg.has bit = rx.msg.has bit := by
  cases ptv with
  | none => rfl
  | some ptv =>
    unfold PcanfdMsg.has PcanfdRxmsg.stamped
    simp only [Masks.or_and_of_disjoint _ apart]

theorem RoundTrip.stamped {m : PcanfdMsg} {rx : PcanfdRxmsg} (trip : RoundTrip m rx.msg)
    (ptv : Option PcanTimeval) : RoundTrip m (rx.stamped ptv).msg := by
  have same : (rx.stamped ptv).msg.type = rx.msg.type ∧ (rx.stamped ptv).msg.id = rx.msg.id ∧
      (rx.stamped ptv).msg.dataLen = rx.msg.dataLen ∧
      (rx.stamped ptv).msg.data = rx.msg.data := by
    cases ptv <;> exact ⟨rfl, rfl, rfl, rfl⟩
  obtain ⟨type, id, length, data⟩ := same
  constructor
  case type => rw [type]; exact trip.type
  case id => rw [id]; exact trip.id
  case ext => rw [stamped_has _ _ (by decide)]; exact trip.ext
  case sng => rw [stamped_has _ _ (by decide)]; exact trip.sng
  case rtr => rw [stamped_has _ _ (by decide)]; exact trip.rtr
  case brs => rw [stamped_has _ _ (by decide)]; exact trip.brs
  case esi => rw [stamped_has _ _ (by decide)]; exact trip.esi
  case slf => rw [stamped_has _ _ (by decide)]; exact trip.slf
  case echo => rw [stamped_has _ _ (by decide)]; exact trip.echo
  case length => rw [length]; exact trip.length
  case data =>
    intro plain j
    rw [stamped_has _ _ (by decide)] at plain
    rw [data]
    exact trip.data plain j

theorem decoded_frame {tx : PcanfdTxmsg} (sent : SentFrame P tx) {rm : Nat → U8}
    (copied : Copied tx rm) : RoundTrip tx.msg (ucanRxFrame rm).msg := by
  have can : tx.msg.type.isCan = true := by
    rcases sent.classic_or_fd with ⟨type, _⟩ | ⟨type, _⟩ <;> rw [type] <;> rfl
  have flags := copied.flags.trans (ucanTxFlags_eq can)
  obtain ⟨fd, remote, ext, sng, rtr, brs, esi, slf, echo⟩ := messageFlags_wireFlags
    (decide (tx.msg.type = .canfdMsg)) (tx.msg.has pcanfdMsgExt) (tx.msg.has pcanfdMsgSlf)
    (tx.msg.has pcanfdMsgEcho) (tx.msg.has pcanfdMsgSng) (tx.msg.has pcanfdMsgRtr)
    (tx.msg.has pcanfdMsgBrs) (tx.msg.has pcanfdMsgEsi)
  rw [← flags] at fd remote ext sng rtr brs esi slf echo
  have classic : (!decide (tx.msg.type = .canfdMsg)) = decide (tx.msg.type = .can20Msg) := by
    rcases sent.classic_or_fd with ⟨type, _⟩ | ⟨type, _⟩ <;> rw [type] <;> rfl
  rw [classic] at rtr remote
  have length : (if decide (u16At rm 22 &&& ucanMsgExtDataLen ≠ 0) then pcanDlc2len (rm 20 >>> 4)
      else min (rm 20 >>> 4).toNat 8) = pcanDlc2len (ucanTxDlc tx) := by
    rw [fd, copied.dlc]
    simp only [decide_eq_true_eq]
    exact sent_length sent
  have bound := pcanDlc2len_le (ucanTxDlc tx)
  constructor
  case type =>
    have type : (ucanRxFrame rm).msg.type =
      if decide (u16At rm 22 &&& ucanMsgExtDataLen ≠ 0) then .canfdMsg else .can20Msg := rfl
    rw [type, fd]
    rcases sent.classic_or_fd with ⟨type, _⟩ | ⟨type, _⟩ <;> rw [type] <;> rfl
  case id =>
    have id : (ucanRxFrame rm).msg.id = u32At rm 24 := rfl
    rw [id, copied.id, ucanTxCanId, PcanfdMsg.has]
    simp only [decide_eq_true_eq]
  case ext => exact ext
  case sng => exact sng
  case rtr => exact rtr
  case brs => exact brs
  case esi => exact esi
  case slf => exact slf
  case echo => exact echo
  case length =>
    have dataLen : (ucanRxFrame rm).msg.dataLen = BitVec.ofNat 16
      (if decide (u16At rm 22 &&& ucanMsgExtDataLen ≠ 0) then pcanDlc2len (rm 20 >>> 4)
        else min (rm 20 >>> 4).toNat 8) := rfl
    rw [dataLen, length, BitVec.toNat_ofNat]
    exact Nat.mod_eq_of_lt (by omega)
  case data =>
    intro plain j
    have noRtr := remote.trans (rtr.symm.trans plain)
    have data : (ucanRxFrame rm).msg.data[j] =
        if !decide (u16At rm 22 &&& ucanMsgRtr ≠ 0) && decide (j.val < (if decide
          (u16At rm 22 &&& ucanMsgExtDataLen ≠ 0) then pcanDlc2len (rm 20 >>> 4)
            else min (rm 20 >>> 4).toNat 8)) then rm (28 + j) else 0 := by
      unfold ucanRxFrame
      exact Vector.getElem_ofFn _
    rw [data, length, noRtr]
    simp only [Bool.not_false, Bool.true_and, decide_eq_true_eq]
    by_cases inside : j.val < pcanDlc2len (ucanTxDlc tx)
    · rw [if_pos inside]
      exact copied.data j inside
    · have fits := ucanTx_data_fits sent.short
      rw [if_neg inside, if_neg (by omega)]

end Frame

section RoundTrip

/-- The oldest frame of the FIFO, encoded with enough room and received by a channel
    whose bus is active. -/
theorem encoded_frame_round_trip {sender : Pcandev P} {tx : PcanfdTxmsg}
    (queued : sender.writeFifo.oldest = some tx) (sent : SentFrame P tx) {size : Nat}
    (room : ucanTxNeeds sender.txIframeDelayUs tx ≤ size) (addr : Nat) (mem : Nat → U8)
    {dev : Pcandev Q} (active : dev.busState = .errorActive) (host : Host) (rm : Nat → U8)
    (ptv : Option PcanTimeval) :
    let record := fun k => Store.run (ucanEncodeMsgAt sender addr size).stores mem (addr + k)
    let rx := (ucanRxFrame (asRxMsg rm record)).stamped ptv
    ucanPostCanrxMsg host dev (asRxMsg rm record) ptv =
        posted host (pcanClearStatusBit host dev canErrQoverrun) rx ∧
      RoundTrip tx.msg rx.msg := by
  intro record rx
  have stores : (ucanEncodeMsgAt sender addr size).stores =
      ucanMsgStores sender.nChannel addr tx ++
        ucanPauseStores (addr + ucanTxMsgSize tx) sender.txIframeDelayUs := by
    unfold ucanEncodeMsgAt
    simp only [queued]
    rw [if_neg (by omega)]
  have written : Store.read record 0 (ucanTxMsgSize tx) = ucanTxMsg sender.nChannel tx := by
    have pause := (ucanPauseStores_read (addr + ucanTxMsgSize tx) sender.txIframeDelayUs
      (Store.run (ucanMsgStores sender.nChannel addr tx) mem)).1
    rw [← (ucanMsgStores_read sender.nChannel addr sent.short mem).2]
    apply List.map_congr_left
    intro k member
    have inside := List.mem_range.mp member
    simp only [record, stores, Store.run_append, Nat.zero_add]
    exact Store.run_outside pause (.inl (by omega)) _
  have state : (pcanClearStatusBit host dev canErrQoverrun).busState = .errorActive := by
    rw [← active]
    exact congrArg TransmitSide.busState (pcanClearStatusBit_transmit host dev canErrQoverrun)
  constructor
  · unfold ucanPostCanrxMsg
    simp only
    rw [if_neg (by rw [state]; exact nofun)]
  · exact (decoded_frame sent (copied sent.short written)).stamped ptv

/-- An extended FD frame of nine bytes with the flags BRS, SLF and ECHO; the latter is
    lost. -/
theorem encoded_frame_round_trip_fd :
    let frame : PcanfdTxmsg := ⟨{ PcanfdMsg.zero with
      type := .canfdMsg
      dataLen := 9
      id := 0x12345
      flags := pcanfdMsgExt ||| pcanfdMsgBrs ||| pcanfdMsgSlf ||| pcanfdMsgEcho
      data := Vector.replicate 64 0x5a }, ⟨0, 0⟩⟩
    let sender : Pcandev Unit := { openedChannel () 4 4 0 with
      writeFifo := ⟨4, [frame], by decide⟩ }
    let record := fun k => Store.run (ucanEncodeMsgAt sender 0 64).stores (fun _ => 0xff) (0 + k)
    let r := ((ucanRxFrame (asRxMsg (fun _ => 0) record)).stamped none).msg
    r.type = .canfdMsg ∧ r.dataLen.toNat = 12 ∧ r.id = 0x12345 ∧ r.has pcanfdMsgBrs = true ∧
      r.has pcanfdMsgSlf = true ∧ r.has pcanfdMsgEcho = false := by
  intro frame sender record r
  have sent : SentFrame Unit frame :=
    ⟨{ openedChannel () 4 4 0 with
        initSettings := { (openedChannel () 4 4 0).initSettings with flags := pcanfdInitFd } },
      frame, frame, by decide +kernel, rfl⟩
  have trip := (@encoded_frame_round_trip Unit Unit sender frame rfl sent 64 (by decide +kernel) 0
    (fun _ => 0xff) { openedChannel () 4 4 0 with busState := .errorActive } rfl sampleHost
    (fun _ => 0) none).2
  exact ⟨trip.type, trip.length.trans (by decide +kernel), trip.id.trans (by decide +kernel),
    trip.brs.trans (by decide +kernel), trip.slf.trans (by decide +kernel),
    trip.echo.trans (by decide +kernel)⟩

end RoundTrip

end PcanDriver

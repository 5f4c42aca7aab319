/-
One bitmap, one representation.

The word count of a payload is redundant: it is the number of words up to the
last one in use.  Marking, sliding and trimming all keep it so, hence two
payloads that report the same numbers are equal field by field, and sending
only the counted words loses nothing.
-/

import Udpix.Library.Unwinding
import Udpix.Protocol.Receiver

namespace Udpix.Protocol

open BitWindow BoundsCheck LittleEndian

namespace SackPayload

/-- The word count is the one the trimming loop computes. -/
def Canonical (payload : SackPayload) : Prop :=
  payload.wordCount = trimZeros payload.words SACK_WORDS

theorem Canonical.wordCount_le {payload : SackPayload} (canonical : payload.Canonical) :
    payload.wordCount ≤ SACK_WORDS := by
  rw [canonical]
  exact trimZeros_le payload.words SACK_WORDS

theorem Canonical.getD_eq_zero {payload : SackPayload} (canonical : payload.Canonical)
    (index : Nat) (above : payload.wordCount ≤ index) :
    payload.words.getD index 0#64 = 0#64 := by
  by_cases inside : index < SACK_WORDS
  · rw [canonical] at above
    exact getD_of_trimZeros_le payload.words SACK_WORDS index above inside
  · exact List.getD_eq_default _ _ (by rw [payload.words_length]; omega)

/-! ### Every operation keeps the count exact -/

theorem markReceived_canonical {payload : SackPayload} (canonical : payload.Canonical)
    (seq : Nat) : (payload.markReceived seq).Canonical := by
  unfold markReceived
  split
  · exact canonical
  · dsimp only
    split
    · exact canonical
    · rename_i inside
      have counted : (seq - payload.baseSeq) / 64 < SACK_WORDS := by
        unfold SACK_WINDOW at inside
        omega
      have trimmed := trimZeros_setBit (by decide) payload.words (seq - payload.baseSeq)
        SACK_WORDS (by rw [payload.words_length]; exact counted) counted
      unfold Canonical at canonical ⊢
      dsimp only
      rw [trimmed, ← canonical]
      split <;> omega

theorem advanceBase_canonical_of_lt (payload : SackPayload) (newBase : Nat)
    (forward : payload.baseSeq < newBase) : (payload.advanceBase newBase).Canonical := by
  unfold advanceBase
  rw [if_neg (Nat.not_le_of_lt forward)]
  dsimp only
  split
  · rfl
  · exact (trimZeros_replicate_zero SACK_WORDS SACK_WORDS).symm

theorem advanceBase_canonical {payload : SackPayload} (canonical : payload.Canonical)
    (newBase : Nat) : (payload.advanceBase newBase).Canonical := by
  by_cases backward : newBase ≤ payload.baseSeq
  · have unmoved : payload.advanceBase newBase = payload := if_pos backward
    rw [unmoved]
    exact canonical
  · exact advanceBase_canonical_of_lt payload newBase (Nat.lt_of_not_le backward)

theorem eq_of_isReceived_eq {left right : SackPayload} (leftCanonical : left.Canonical)
    (rightCanonical : right.Canonical) (sameBase : left.baseSeq = right.baseSeq)
    (sameReading : ∀ seq, left.isReceived seq = right.isReceived seq) :
    left = right := by
  have sameWords : left.words = right.words := by
    apply eq_of_flatBit_eq _ _ (by rw [left.words_length, right.words_length])
    intro position
    have here := sameReading (left.baseSeq + position)
    have notBelow : ¬ left.baseSeq + position < left.baseSeq := by omega
    rw [isReceived_eq, isReceived_eq, ← sameBase] at here
    simpa only [notBelow, decide_false, Bool.false_or, Nat.add_sub_cancel_left] using here
  have sameCount : left.wordCount = right.wordCount := by
    rw [leftCanonical, rightCanonical, sameWords]
  cases left
  cases right
  cases sameBase
  cases sameWords
  cases sameCount
  rfl

/-! ### Through the wire -/

theorem serialise_length {payload : SackPayload} (canonical : payload.Canonical) :
    payload.serialise.length = payload.wireSize := by
  have counted := canonical.wordCount_le
  simp only [serialise, List.length_append, toLeBytes_length, length_flatMap_toLeBytes,
    List.length_take, payload.words_length, wireSize]
  omega

/-- The first `count` words of the data, and zeros behind them. -/
def wordsFrom (data : Bytes) (count : Nat) : List (BitVec 64) :=
  (List.range count).map (wordAt data) ++ List.replicate (SACK_WORDS - count) 0#64

theorem wordsFrom_length (data : Bytes) {count : Nat} (counted : count ≤ SACK_WORDS) :
    (wordsFrom data count).length = SACK_WORDS := by
  rw [wordsFrom, List.length_append, List.length_map, List.length_range, List.length_replicate]
  omega

theorem getD_wordsFrom (data : Bytes) (count index : Nat) :
    (wordsFrom data count).getD index 0#64 =
      if index < count then wordAt data index else 0#64 := by
  rw [wordsFrom, List.getD_eq_getElem?_getD]
  split
  · rename_i copied
    rw [List.getElem?_append_left (by rw [List.length_map, List.length_range]; exact copied),
      List.getElem?_map, List.getElem?_range copied]
    rfl
  · rename_i behind
    rw [List.getElem?_append_right
        (by rw [List.length_map, List.length_range]; exact Nat.le_of_not_lt behind),
      List.getElem?_replicate]
    split
    · rfl
    · rfl

theorem copyWords_eq (data : Bytes) {count : Nat} (counted : count ≤ SACK_WORDS) :
    copyWords data count = .ok (wordsFrom data count) := by
  induction count with
  | zero => rfl
  | succ count ih =>
      have earlier : count ≤ SACK_WORDS := Nat.le_of_succ_le counted
      have zeros : SACK_WORDS - count = (SACK_WORDS - (count + 1)) + 1 := by omega
      rw [copyWords, ih earlier]
      dsimp only
      rw [store, if_pos (by rw [wordsFrom_length data earlier]; exact counted), wordsFrom,
        List.set_append_right _ _ (by rw [List.length_map, List.length_range]), List.length_map,
        List.length_range, Nat.sub_self, zeros, List.replicate_succ, List.set_cons_zero, wordsFrom,
        List.range_succ, List.map_append, List.map_singleton, List.append_assoc]
      rfl

/-- A larger count leaves the array in the round behind its last word. -/
theorem copyWords_overrun (data : Bytes) {count : Nat} (many : SACK_WORDS < count) :
    copyWords data count = .error .outOfRange := by
  induction count with
  | zero => exact absurd many (Nat.not_lt_zero _)
  | succ count ih =>
      rw [copyWords]
      rcases Nat.eq_or_lt_of_le (Nat.le_of_lt_succ many) with full | further
      · rw [copyWords_eq data (Nat.le_of_eq full.symm)]
        dsimp only
        rw [store, wordsFrom_length data (Nat.le_of_eq full.symm), ← full,
          if_neg (Nat.lt_irrefl _)]
      · rw [ih further]

theorem deserialise_of_copied {data : Bytes} (fixed : ¬ data.length < 9)
    (long : ¬ data.length < 9 + (data.getD 8 0).toNat * 8) {words : List (BitVec 64)}
    (copied : copyWords data (data.getD 8 0).toNat = .ok words) :
    deserialise data = .ok (some
      ({ baseSeq := RudpHeader.fieldAt data 0 8
         wordCount := (data.getD 8 0).toNat
         words := words
         words_length := copyWords_length copied }, 9 + (data.getD 8 0).toNat * 8)) := by
  rw [deserialise, if_neg fixed]
  dsimp only
  rw [if_neg long]
  split
  · rename_i stop failed
    rw [failed] at copied
    cases copied
  · rename_i other also
    rw [also] at copied
    cases copied
    rfl

theorem wordAt_serialise (payload : SackPayload) (rest : Bytes) (index : Nat)
    (inside : index < (payload.words.take payload.wordCount).length) :
    wordAt (payload.serialise ++ rest) index = payload.words.getD index 0#64 := by
  have fixed : (toLeBytes 8 payload.baseSeq ++ toLeBytes 1 payload.wordCount).length = 9 := by
    simp only [List.length_append, toLeBytes_length]
  have behind : (payload.serialise ++ rest).drop (9 + index * 8) =
      ((payload.words.take payload.wordCount).flatMap
        (fun word => toLeBytes 8 word.toNat) ++ rest).drop (index * 8) := by
    rw [serialise, List.append_assoc, ← List.drop_drop, List.drop_left' fixed]
  have stored := fromLeBytes_flatMap 8 BitVec.toNat (payload.words.take payload.wordCount)
    (fun word => word.isLt) rest index inside
  rw [wordAt, RudpHeader.fieldAt, behind, stored, BitVec.ofNat_toNat, BitVec.setWidth_eq,
    List.getElem_take]
  rw [List.length_take] at inside
  rw [List.getD_eq_getElem _ _ (by omega)]

theorem deserialise_serialise {payload : SackPayload} (canonical : payload.Canonical)
    (baseLt : payload.baseSeq < 2 ^ 64) (rest : Bytes) :
    deserialise (payload.serialise ++ rest) = .ok (some (payload, payload.wireSize)) := by
  have counted := canonical.wordCount_le
  have countedLt : payload.wordCount < 256 := Nat.lt_of_le_of_lt counted (by decide)
  have long : (payload.serialise ++ rest).length = payload.wireSize + rest.length := by
    rw [List.length_append, serialise_length canonical]
  have baseRead : RudpHeader.fieldAt (payload.serialise ++ rest) 0 8 = payload.baseSeq := by
    simp only [RudpHeader.fieldAt, serialise, List.append_assoc, List.drop_zero,
      List.take_left' (toLeBytes_length 8 payload.baseSeq)]
    exact fromLeBytes_toLeBytes_of_lt 8 payload.baseSeq baseLt
  have countRead : ((payload.serialise ++ rest).getD 8 0).toNat = payload.wordCount := by
    simp only [serialise, List.append_assoc]
    rw [List.getD_append_right _ _ _ _ (by rw [toLeBytes_length]), toLeBytes_length]
    exact UInt8.toNat_ofNat_of_lt' countedLt
  have wordsRead : wordsFrom (payload.serialise ++ rest) payload.wordCount = payload.words := by
    apply List.ext_getElem (by rw [wordsFrom_length _ counted, payload.words_length])
    intro index copied stored
    rw [← List.getD_eq_getElem _ 0#64 copied, ← List.getD_eq_getElem _ 0#64 stored,
      getD_wordsFrom]
    split
    · rename_i sent
      exact wordAt_serialise payload rest index
        (by rw [List.length_take, payload.words_length]; omega)
    · rename_i notSent
      exact (canonical.getD_eq_zero index (by omega)).symm
  have fixedRead : ¬ (payload.serialise ++ rest).length < 9 := by
    rw [long, wireSize]
    omega
  have allRead : ¬ (payload.serialise ++ rest).length <
      9 + ((payload.serialise ++ rest).getD 8 0).toNat * 8 := by
    rw [countRead, long, wireSize]
    omega
  have copied : copyWords (payload.serialise ++ rest)
      ((payload.serialise ++ rest).getD 8 0).toNat = .ok payload.words := by
    rw [countRead, copyWords_eq _ counted, wordsRead]
  rw [deserialise_of_copied fixedRead allRead copied]
  simp only [countRead, baseRead]
  rfl

end SackPayload

namespace SackManager

open SackPayload

theorem absorb_canonical {payload : SackPayload} (canonical : payload.Canonical) (seq : Nat) :
    (absorb payload seq).Canonical := by
  unfold absorb
  dsimp only
  split
  · exact advanceBase_canonical (markReceived_canonical canonical seq) _
  · exact markReceived_canonical canonical seq

theorem run_canonical (initialSeq : Nat) (ops : List SackOp) :
    ((new initialSeq).run ops).payload.Canonical := by
  induction ops using List.reverseRecOn with
  | nil => exact (trimZeros_replicate_zero SACK_WORDS SACK_WORDS).symm
  | append_singleton ops op ih =>
      rw [run_snoc]
      cases op with
      | arrive seq => exact absorb_canonical ih seq
      | tick => exact ih

/-! ### Order and repetition of arrivals -/

/-- Every arrival was inside the window at its moment. -/
def AllInWindow (manager : SackManager) (arrivals : List Nat) : Prop :=
  Unwinding.EachStep onPacketReceived
    (fun state seq => seq < state.payload.baseSeq + SACK_WINDOW) manager arrivals

theorem foldl_onPacketReceived (manager : SackManager) (arrivals : List Nat) :
    arrivals.foldl onPacketReceived manager = manager.run (arrivals.map SackOp.arrive) := by
  rw [run, List.foldl_map]
  rfl

/-- Arrivals that stay inside the window add exactly themselves. -/
theorem isReceived_foldl (manager : SackManager) (arrivals : List Nat)
    (inWindow : AllInWindow manager arrivals) (seq : Nat) :
    (arrivals.foldl onPacketReceived manager).payload.isReceived seq =
      (manager.payload.isReceived seq || decide (seq ∈ arrivals)) := by
  induction arrivals generalizing manager with
  | nil => simp
  | cons arrived rest ih =>
      obtain ⟨inside, restInWindow⟩ := inWindow
      have marked : (manager.onPacketReceived arrived).payload.isReceived seq =
          (manager.payload.isReceived seq || decide (seq = arrived)) := by
        change (absorb manager.payload arrived).isReceived seq = _
        rw [isReceived_absorb, decide_eq_true inside, Bool.and_true]
      rw [List.foldl_cons, ih _ restInWindow, marked, Bool.or_assoc]
      simp only [List.mem_cons, Bool.decide_or]

/-- The base is the least missing number, so the reading determines it. -/
theorem baseSeq_le_of_isReceived_eq {left right : SackPayload}
    (rightMissing : right.isReceived right.baseSeq = false)
    (sameReading : ∀ seq, left.isReceived seq = right.isReceived seq) :
    left.baseSeq ≤ right.baseSeq := by
  by_contra above
  have received := left.isReceived_of_lt right.baseSeq (by omega)
  rw [sameReading, rightMissing] at received
  cases received

/-- Two runs of arrivals with the same set of numbers, each inside the window
of its moment, end in the same payload and send the same bytes. -/
theorem payload_eq_of_same_arrivals (initialSeq : Nat) (first second : List Nat)
    (sameSet : ∀ seq, seq ∈ first ↔ seq ∈ second)
    (firstInWindow : AllInWindow (new initialSeq) first)
    (secondInWindow : AllInWindow (new initialSeq) second) :
    (first.foldl onPacketReceived (new initialSeq)).payload =
        (second.foldl onPacketReceived (new initialSeq)).payload ∧
      (first.foldl onPacketReceived (new initialSeq)).payload.serialise =
        (second.foldl onPacketReceived (new initialSeq)).payload.serialise := by
  have sameReading : ∀ seq,
      (first.foldl onPacketReceived (new initialSeq)).payload.isReceived seq =
        (second.foldl onPacketReceived (new initialSeq)).payload.isReceived seq := by
    intro seq
    rw [isReceived_foldl _ first firstInWindow, isReceived_foldl _ second secondInWindow]
    simp only [sameSet seq]
  have same : (first.foldl onPacketReceived (new initialSeq)).payload =
      (second.foldl onPacketReceived (new initialSeq)).payload := by
    rw [foldl_onPacketReceived, foldl_onPacketReceived] at sameReading ⊢
    apply eq_of_isReceived_eq (run_canonical initialSeq _) (run_canonical initialSeq _) _
      sameReading
    apply Nat.le_antisymm
    · exact baseSeq_le_of_isReceived_eq (isReceived_run_baseSeq initialSeq _) sameReading
    · exact baseSeq_le_of_isReceived_eq (isReceived_run_baseSeq initialSeq _)
        (fun seq => (sameReading seq).symm)
  exact ⟨same, congrArg SackPayload.serialise same⟩

/-- The general statement for a late first packet and a repeated one. -/
theorem payload_eq_of_same_arrivals_swapped :
    ([6, 5, 70, 6].foldl onPacketReceived (new 5)).payload =
        ([70, 5, 6].foldl onPacketReceived (new 5)).payload ∧
      ([6, 5, 70, 6].foldl onPacketReceived (new 5)).payload.serialise =
        ([70, 5, 6].foldl onPacketReceived (new 5)).payload.serialise :=
  payload_eq_of_same_arrivals 5 [6, 5, 70, 6] [70, 5, 6]
    (by intro seq; simp only [List.mem_cons, List.not_mem_nil, or_false]; omega)
    (by refine ⟨?_, ?_, ?_, ?_, trivial⟩ <;> decide +kernel)
    (by refine ⟨?_, ?_, ?_, trivial⟩ <;> decide +kernel)

end SackManager

namespace Receiver

theorem heartbeatDatagram_eq (sessionId : UInt32) (nowUs : UInt64) (sack : SackPayload) :
    heartbeatDatagram sessionId nowUs sack =
      (RudpHeader.newHeartbeatSack sessionId 0 nowUs (UInt16.ofNat sack.wireSize)).toBytes ++
        sack.serialise := by
  have noRest : (List.replicate RudpHeader.SIZE (0 : UInt8)).drop RudpHeader.SIZE = [] :=
    List.drop_of_length_le (by rw [List.length_replicate])
  rw [heartbeatDatagram, RudpHeader.writeTo, noRest, List.append_nil]

/-- The heartbeat of every reachable acknowledgement state fits 29 + 137 bytes
and is read back as it was: a NAK header of the session that declares the rest
of the datagram, and behind it the same payload, word by word. -/
theorem sendHeartbeatSack_survives (receiver : Receiver) (nowUs : UInt64) (initialSeq : Nat)
    (initialLt : initialSeq < 2 ^ 64) (ops : List SackOp)
    (arrivalsLt : ∀ seq, SackOp.arrive seq ∈ ops → seq < 2 ^ 64 - 1)
    (reached : receiver.sackMgr = (SackManager.new initialSeq).run ops) :
    ∃ buf header,
      (receiver.sendHeartbeatSack nowUs).1.socket =
        (if receiver.dataSeen then receiver.socket ++ [buf] else receiver.socket) ∧
      buf = heartbeatDatagram receiver.sessionId nowUs receiver.sackMgr.tick.payload ∧
      buf.length ≤ 29 + 137 ∧
      RudpHeader.readFrom buf = some header ∧
      header.flags = Flags.nak ∧ header.sessionId = receiver.sessionId ∧
      header.payloadLen.toNat = buf.length - 29 ∧
      SackPayload.deserialise (buf.drop 29) =
        .ok (some (receiver.sackMgr.payload, header.payloadLen.toNat)) := by
  have canonical := SackManager.run_canonical initialSeq ops
  have baseLt := (SackManager.run_lt_of_arrivals_lt initialSeq (2 ^ 64) initialLt ops
    (fun seq member => by have := arrivalsLt seq member; omega)).1
  rw [← reached] at canonical baseLt
  have counted : receiver.sackMgr.payload.wordCount ≤ 16 := canonical.wordCount_le
  have sizeRead : (UInt16.ofNat receiver.sackMgr.payload.wireSize).toNat =
      receiver.sackMgr.payload.wireSize := by
    apply UInt16.toNat_ofNat_of_lt'
    change receiver.sackMgr.payload.wireSize < 2 ^ 16
    rw [SackPayload.wireSize]
    omega
  refine ⟨_, RudpHeader.newHeartbeatSack receiver.sessionId 0 nowUs
    (UInt16.ofNat receiver.sackMgr.payload.wireSize), rfl, rfl, ?_, ?_, rfl, rfl, ?_, ?_⟩
  · rw [SackManager.tick_payload, heartbeatDatagram_eq, List.length_append,
      RudpHeader.toBytes_length, SackPayload.serialise_length canonical, SackPayload.wireSize,
      RudpHeader.SIZE]
    omega
  · rw [SackManager.tick_payload, heartbeatDatagram_eq, RudpHeader.readFrom_toBytes_append]
  · rw [SackManager.tick_payload, heartbeatDatagram_eq, List.length_append,
      RudpHeader.toBytes_length, SackPayload.serialise_length canonical]
    change (UInt16.ofNat receiver.sackMgr.payload.wireSize).toNat = _
    rw [sizeRead, RudpHeader.SIZE, Nat.add_sub_cancel_left]
  · have parsed := SackPayload.deserialise_serialise canonical baseLt []
    have behind : ∀ header : RudpHeader,
        (header.toBytes ++ receiver.sackMgr.payload.serialise).drop RudpHeader.SIZE =
          receiver.sackMgr.payload.serialise :=
      fun header => List.drop_left' header.toBytes_length
    rw [List.append_nil] at parsed
    rw [SackManager.tick_payload, heartbeatDatagram_eq]
    change SackPayload.deserialise (List.drop RudpHeader.SIZE _) = _
    rw [behind, parsed]
    change _ = Except.ok (some (_, (UInt16.ofNat receiver.sackMgr.payload.wireSize).toNat))
    rw [sizeRead]

/-- The general statement at a state with a gap that spans a word. -/
theorem sendHeartbeatSack_survives_gap :
    ∃ buf header,
      (sendHeartbeatSack
        { Receiver.new 7 5 with
          dataSeen := true
          sackMgr := (SackManager.new 5).run [.arrive 6, .tick, .arrive 100] } 42).1.socket =
        [buf] ∧
      buf.length = 29 + 25 ∧
      RudpHeader.readFrom buf = some header ∧ header.sessionId = 7 ∧
      SackPayload.deserialise (buf.drop 29) =
        .ok (some (((SackManager.new 5).run [.arrive 6, .tick, .arrive 100]).payload, 25)) := by
  obtain ⟨buf, header, sent, image, _, read, _, session, declared, parsed⟩ :=
    sendHeartbeatSack_survives
      { Receiver.new 7 5 with
        dataSeen := true
        sackMgr := (SackManager.new 5).run [.arrive 6, .tick, .arrive 100] } 42 5 (by decide)
      [.arrive 6, .tick, .arrive 100] (by intro seq member; simp at member; omega) rfl
  have long : buf.length = 29 + 25 := by
    rw [image]
    decide +kernel
  rw [declared, long] at parsed
  exact ⟨buf, header, sent, long, read, session, parsed⟩

end Receiver

end Udpix.Protocol

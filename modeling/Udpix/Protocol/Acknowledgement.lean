/-
What one datagram leaves behind in the receiver.

Delivery and acknowledgement are decided apart: the payload of a complete DATA
datagram goes to the application whatever its number, while the bitmap takes
only numbers inside its window.  A rejected datagram is looked at in the same
way, through the header it was rejected for.
-/

import Udpix.Protocol.ReceiveLoop

namespace Udpix.Protocol

namespace Receiver

theorem readFrom_of_dataHeader {receiver : Receiver} {buf : Bytes} {header : RudpHeader}
    (found : receiver.dataHeader buf = some header) : RudpHeader.readFrom buf = some header := by
  unfold dataHeader at found
  cases read : RudpHeader.readFrom buf with
  | none =>
      rw [read] at found
      cases found
  | some other =>
      rw [read] at found
      dsimp only at found
      split at found
      · exact found
      · cases found

theorem accepted_of_pushed {receiver : Receiver} {nowUs : UInt64} {buf : Bytes}
    {header : RudpHeader} (read : RudpHeader.readFrom buf = some header)
    (pushed : (receiver.processDatagram nowUs buf).1.dataTx ≠ receiver.dataTx) :
    receiver.processDatagram nowUs buf =
      (receiver.acceptData header.sequenceNumber.toNat (declaredPayload header buf),
        some false) := by
  cases found : receiver.dataHeader buf with
  | some other =>
      cases read.symm.trans (readFrom_of_dataHeader found)
      rw [processDatagram_of_dataHeader receiver nowUs buf header found] at pushed ⊢
      by_cases short : buf.length < RudpHeader.SIZE + header.payloadLen.toNat
      · rw [processData_truncated receiver header buf short] at pushed
        exact absurd rfl pushed
      · exact processData_complete receiver header buf short
  | none =>
      exfalso
      apply pushed
      rcases processDatagram_of_not_data receiver nowUs buf found with
        same | ⟨_, same⟩ | ⟨_, same⟩ | same
      all_goals exact congrArg (fun outcome => outcome.1.dataTx) same

/-- A number just taken in is reported exactly when it was inside the window. -/
theorem isReceived_acceptData_iff (receiver : Receiver) (seq : Nat) (payload : Bytes) :
    (receiver.acceptData seq payload).sackMgr.payload.isReceived seq = true ↔
      seq < receiver.sackMgr.payload.baseSeq + SACK_WINDOW := by
  change (SackManager.absorb receiver.sackMgr.payload seq).isReceived seq = true ↔ _
  rw [SackManager.isReceived_absorb, decide_eq_true (rfl : seq = seq), Bool.true_and,
    Bool.or_eq_true, decide_eq_true_iff]
  constructor
  · rintro (already | inside)
    · by_contra outside
      rw [SackPayload.isReceived_of_window_le _ _ (Nat.le_of_not_lt outside)] at already
      cases already
    · exact inside
  · exact Or.inr

/-- A datagram whose payload reaches the application is acknowledged at once, and
in the next heartbeat, exactly when its number is below the end of the window. -/
theorem delivered_acknowledged_iff (receiver : Receiver) (nowUs laterUs : UInt64) (buf : Bytes)
    (header : RudpHeader) (read : RudpHeader.readFrom buf = some header)
    (pushed : (receiver.processDatagram nowUs buf).1.dataTx ≠ receiver.dataTx) :
    header.sequenceNumber.toNat < 2 ^ 64 - 1 →
      ((receiver.processDatagram nowUs buf).1.sackMgr.payload.isReceived
          header.sequenceNumber.toNat = true ↔
        header.sequenceNumber.toNat < receiver.sackMgr.payload.baseSeq + SACK_WINDOW) ∧
      ∃ sack,
        ((receiver.processDatagram nowUs buf).1.sendHeartbeatSack laterUs).1.sackTx =
          (receiver.processDatagram nowUs buf).1.sackTx ++ [sack] ∧
        (sack.isReceived header.sequenceNumber.toNat = true ↔
          header.sequenceNumber.toNat < receiver.sackMgr.payload.baseSeq + SACK_WINDOW) := by
  intro _
  rw [accepted_of_pushed read pushed]
  have reported := isReceived_acceptData_iff receiver header.sequenceNumber.toNat
    (declaredPayload header buf)
  exact ⟨reported, _, rfl, reported⟩

/-- The fourth packet arrives first: it is inside the window. -/
theorem delivered_acknowledged_inside :
    ((Receiver.new 7 0).processDatagram 0
      (datagram (RudpHeader.newData 7 3 0 2) [1, 2])).1.sackMgr.payload.isReceived 3 = true :=
  ((delivered_acknowledged_iff (Receiver.new 7 0) 0 0
    (datagram (RudpHeader.newData 7 3 0 2) [1, 2]) (RudpHeader.newData 7 3 0 2)
    (by decide +kernel) (by decide +kernel) (by decide)).1).mpr (by decide)

/-- Number 1024 arrives first: it is delivered and not acknowledged. -/
theorem delivered_acknowledged_fails_outside :
    ¬ ∀ (sessionId : UInt32) (initialSeq : Nat) (wakes : List Wake) (nowUs : UInt64)
        (buf : Bytes) (header : RudpHeader),
      RudpHeader.readFrom buf = some header →
      header.sequenceNumber.toNat < 2 ^ 64 - 1 →
      ((wakes.foldl ReceiveLoop.handle (ReceiveLoop.start sessionId initialSeq)).receiver
          |>.processDatagram nowUs buf).1.dataTx ≠
        (wakes.foldl ReceiveLoop.handle
          (ReceiveLoop.start sessionId initialSeq)).receiver.dataTx →
      ((wakes.foldl ReceiveLoop.handle (ReceiveLoop.start sessionId initialSeq)).receiver
          |>.processDatagram nowUs buf).1.sackMgr.payload.isReceived
        header.sequenceNumber.toNat = true := by
  intro acknowledged
  have reported := acknowledged 7 0 [] 0 (datagram (RudpHeader.newData 7 1024 0 2) [1, 2])
    (RudpHeader.newData 7 1024 0 2) (by decide +kernel) (by decide) (by decide +kernel)
  exact absurd reported (by decide +kernel)

/-! ### Rejected datagrams -/

/-- The first DATA datagram of the session, with less payload than it declares. -/
def TruncatesFirstData (receiver : Receiver) (buf : Bytes) : Prop :=
  receiver.dataSeen = false ∧ ∃ header, receiver.dataHeader buf = some header ∧
    buf.length < RudpHeader.SIZE + header.payloadLen.toNat

/-- A rejected datagram leaves everything as it was, unless it is a truncated
DATA datagram and no DATA was seen before. -/
theorem rejected_untouched_iff (receiver : Receiver) (nowUs : UInt64) (buf : Bytes)
    (rejected : (receiver.processDatagram nowUs buf).2 = none) :
    (receiver.processDatagram nowUs buf).1 = receiver ↔ ¬ receiver.TruncatesFirstData buf := by
  cases found : receiver.dataHeader buf with
  | some header =>
      rw [processDatagram_of_dataHeader receiver nowUs buf header found] at rejected ⊢
      by_cases short : buf.length < RudpHeader.SIZE + header.payloadLen.toNat
      · rw [processData_truncated receiver header buf short]
        constructor
        · rintro same ⟨unseen, _⟩
          have seen : true = receiver.dataSeen := congrArg Receiver.dataSeen same
          rw [unseen] at seen
          cases seen
        · intro harmless
          have seen : receiver.dataSeen = true := by
            by_contra unseen
            exact harmless ⟨Bool.eq_false_iff.mpr unseen, header, found, short⟩
          rw [← seen]
      · rw [processData_complete receiver header buf short] at rejected
        cases rejected
  | none =>
      rcases processDatagram_of_not_data receiver nowUs buf found with
        same | ⟨_, handled⟩ | ⟨_, handled⟩ | handled
      · refine iff_of_true (by rw [same]) ?_
        rintro ⟨_, header, impossible, _⟩
        cases found.symm.trans impossible
      all_goals
        rw [handled] at rejected
        cases rejected

/-- A datagram of another session is dropped without a trace. -/
theorem rejected_untouched_foreign :
    ((Receiver.new 7 0).processDatagram 0 (datagram (RudpHeader.newData 8 0 0 2) [1, 2])).1 =
      Receiver.new 7 0 := by
  refine (rejected_untouched_iff (Receiver.new 7 0) 0
    (datagram (RudpHeader.newData 8 0 0 2) [1, 2]) (by decide +kernel)).mpr ?_
  rintro ⟨_, header, found, _⟩
  have absent : (Receiver.new 7 0).dataHeader
      (datagram (RudpHeader.newData 8 0 0 2) [1, 2]) = none := by
    decide +kernel
  cases absent.symm.trans found

/-- A DATA header that declares two bytes and brings none is rejected, but from
then on heartbeats go to the wire. -/
theorem rejected_untouched_fails_truncated :
    ¬ ∀ (receiver : Receiver) (nowUs : UInt64) (buf : Bytes),
      (receiver.processDatagram nowUs buf).2 = none →
      (receiver.processDatagram nowUs buf).1 = receiver := by
  intro untouched
  have same := untouched (Receiver.new 7 0) 0 (datagram (RudpHeader.newData 7 0 0 2) [])
    (by decide +kernel)
  have seen := congrArg Receiver.dataSeen same
  exact absurd seen (by decide +kernel)

end Receiver

end Udpix.Protocol

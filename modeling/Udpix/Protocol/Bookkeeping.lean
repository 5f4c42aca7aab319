/-
The counters of the sender over whole runs.

The run is written down beside the sender: the payloads that were submitted,
the datagrams that were put in batches and those that the kernel took.  The
counters always agree with what was written down.
-/

import Udpix.Protocol.Segmentation
import Udpix.Protocol.SenderRuns

namespace Udpix.Protocol

open Unwinding

def InFlightEntry.bytes (entry : InFlightEntry) : Nat := entry.datagram.length

namespace Sender

def inFlightBytes (sender : Sender) : Nat := sender.inFlight.total InFlightEntry.bytes

/-! ### What the calls do to the counters -/

theorem removeSeq_balances (removal : Removal) (seq : Nat) :
    (removeSeq removal seq).packetsAcked + (removeSeq removal seq).inFlight.size =
        removal.packetsAcked + removal.inFlight.size ∧
      (removeSeq removal seq).totalAckedBytes +
          (removeSeq removal seq).inFlight.total InFlightEntry.bytes =
        removal.totalAckedBytes + removal.inFlight.total InFlightEntry.bytes := by
  rw [removeSeq]
  cases found : removal.inFlight.lookup seq with
  | none => exact ⟨rfl, rfl⟩
  | some entry =>
      have packets := AssocMap.total_erase (fun _ => 1) found
      have bytes := AssocMap.total_erase InFlightEntry.bytes found
      rw [AssocMap.total_one, AssocMap.total_one] at packets
      rw [InFlightEntry.bytes] at bytes
      dsimp only at packets ⊢
      omega

theorem foldl_removeSeq_balances (seqs : List Nat) (removal : Removal) :
    (seqs.foldl removeSeq removal).packetsAcked + (seqs.foldl removeSeq removal).inFlight.size =
        removal.packetsAcked + removal.inFlight.size ∧
      (seqs.foldl removeSeq removal).totalAckedBytes +
          (seqs.foldl removeSeq removal).inFlight.total InFlightEntry.bytes =
        removal.totalAckedBytes + removal.inFlight.total InFlightEntry.bytes := by
  induction seqs generalizing removal with
  | nil => exact ⟨rfl, rfl⟩
  | cons seq rest ih =>
      obtain ⟨packets, bytes⟩ := removeSeq_balances removal seq
      rw [List.foldl_cons, ← packets, ← bytes]
      exact ih (removeSeq removal seq)

theorem processSack_balances (sender : Sender) (now : Instant) (sack : SackPayload) :
    (sender.processSack now sack).stats.packetsAcked +
          (sender.processSack now sack).inFlight.size =
        sender.stats.packetsAcked + sender.inFlight.size ∧
      (sender.processSack now sack).stats.bytesAcked +
          (sender.processSack now sack).inFlightBytes =
        sender.stats.bytesAcked + sender.inFlightBytes := by
  obtain ⟨packets, bytes⟩ := foldl_removeSeq_balances (sender.ackedSeqs sack)
    { inFlight := sender.inFlight
      totalAckedBytes := 0
      packetsAcked := sender.stats.packetsAcked }
  have sameSize : (sender.processSack now sack).inFlight.size =
      (sender.removeAcked sack).inFlight.size := by
    rw [processSack, AssocMap.size, AssocMap.size, AssocMap.keys_mapValues]
  have sameBytes : (sender.processSack now sack).inFlightBytes =
      (sender.removeAcked sack).inFlight.total InFlightEntry.bytes := by
    refine AssocMap.total_mapValues ?_ _
    intro seq entry
    rw [InFlightEntry.bytes, nakEntry_datagram, InFlightEntry.bytes]
  rw [sameSize, sameBytes]
  refine ⟨packets, ?_⟩
  change sender.stats.bytesAcked + (sender.removeAcked sack).totalAckedBytes + _ = _
  rw [Nat.add_assoc]
  exact congrArg (sender.stats.bytesAcked + ·) (bytes.trans (Nat.zero_add _))

theorem KeysBelow.nextSeq_fresh {sender : Sender} (below : sender.KeysBelow) :
    sender.nextSeq ∉ sender.inFlight := by
  intro present
  exact Nat.lt_irrefl _ (below sender.nextSeq (AList.mem_keys.mp present))

theorem KeysBelow.enqueueChunk {sender : Sender} (below : sender.KeysBelow)
    (tsUs : Nat → UInt64) (now : Instant) (chunk : Bytes) :
    (enqueueChunk tsUs now sender chunk).KeysBelow := by
  intro seq present
  rcases (AList.mem_insert _).mp (AList.mem_keys.mpr present) with rfl | older
  · exact Nat.lt_succ_self _
  · exact Nat.lt_succ_of_lt (below seq (AList.mem_keys.mp older))

theorem foldl_enqueueChunk_balances {sender : Sender} (below : sender.KeysBelow)
    (tsUs : Nat → UInt64) (now : Instant) (pieces : List Bytes) :
    (pieces.foldl (enqueueChunk tsUs now) sender).stats = sender.stats ∧
      (pieces.foldl (enqueueChunk tsUs now) sender).inFlight.size =
        sender.inFlight.size + pieces.length ∧
      (pieces.foldl (enqueueChunk tsUs now) sender).inFlightBytes =
        sender.inFlightBytes + pieces.flatten.length + RudpHeader.SIZE * pieces.length := by
  induction pieces generalizing sender with
  | nil => exact ⟨rfl, rfl, rfl⟩
  | cons chunk rest ih =>
      obtain ⟨stats, packets, bytes⟩ := ih (below.enqueueChunk tsUs now chunk)
      have onePacket : (Sender.enqueueChunk tsUs now sender chunk).inFlight.size =
          1 + sender.inFlight.size := by
        rw [← AssocMap.total_one, ← AssocMap.total_one]
        exact AssocMap.total_insert (fun _ => 1) _ below.nextSeq_fresh
      have itsBytes : (Sender.enqueueChunk tsUs now sender chunk).inFlightBytes =
          (dataDatagram sender.sessionId sender.nextSeq (tsUs sender.nextSeq) chunk).length +
            sender.inFlightBytes :=
        AssocMap.total_insert InFlightEntry.bytes _ below.nextSeq_fresh
      rw [length_dataDatagram] at itsBytes
      rw [List.foldl_cons]
      refine ⟨stats, ?_, ?_⟩
      · rw [packets, onePacket, List.length_cons]
        omega
      · rw [bytes, itsBytes, List.flatten_cons, List.length_append, List.length_cons,
          RudpHeader.SIZE]
        omega

theorem enqueueData_balances {sender : Sender} (below : sender.KeysBelow) (tsUs : Nat → UInt64)
    (now : Instant) (payload : Bytes) :
    (sender.enqueueData tsUs now payload).stats = sender.stats ∧
      (sender.enqueueData tsUs now payload).inFlight.size =
        sender.inFlight.size + (Chunks.chunks MAX_PAYLOAD payload).length ∧
      (sender.enqueueData tsUs now payload).inFlightBytes =
        sender.inFlightBytes + payload.length +
          RudpHeader.SIZE * (Chunks.chunks MAX_PAYLOAD payload).length := by
  have balances := foldl_enqueueChunk_balances below tsUs now (Chunks.chunks MAX_PAYLOAD payload)
  rw [Chunks.flatten_chunks MAX_PAYLOAD MAX_PAYLOAD_pos] at balances
  exact balances

theorem length_batch (sender : Sender) (now : Instant) :
    (sender.assembleBatch now).1.batch.length = (sender.batchPlan now).length := by
  rw [assembleBatch_batch]
  exact length_datagramsOf (fun _ => mem_keys_of_mem_batchPlan)

theorem sendBatch_wire (sender : Sender) (now : Instant) (accepted : Int) :
    (sender.sendBatch now accepted).2 =
      acceptedBatch accepted (sender.assembleBatch now).1.batch := by
  simp only [sendBatch]
  split
  · rename_i empty
    rw [List.isEmpty_iff.mp empty]
    exact List.take_nil.symm
  · rfl

theorem sendBatch_stats (sender : Sender) (now : Instant) (accepted : Int) :
    (sender.sendBatch now accepted).1.stats =
      { sender.stats with
        retransmits := sender.stats.retransmits + sender.retransmitsTaken.length
        packetsSent := sender.stats.packetsSent + (sender.batchPlan now).length
        bytesSent := sender.stats.bytesSent +
          ((sender.sendBatch now accepted).2.map List.length).sum } := by
  have counted : (sender.assembleBatch now).1.retransmits =
      sender.stats.retransmits + sender.retransmitsTaken.length := by
    rw [assembleBatch_eq]
  have placed := length_batch sender now
  rw [sendBatch_wire, ← counted, ← placed]
  simp only [sendBatch]
  split
  · rename_i empty
    rw [List.isEmpty_iff.mp empty, acceptedBatch, List.take_nil]
    rfl
  · rfl

end Sender

/-! ### Whole runs -/

structure Journal where
  sender : Sender
  submitted : List Bytes
  placed : List Bytes
  resent : List Nat
  wire : List Bytes

namespace Journal

open Sender

def initial (sessionId : UInt32) (now : Instant) : Journal :=
  { sender := Sender.new sessionId now
    submitted := []
    placed := []
    resent := []
    wire := [] }

def act (journal : Journal) (action : SenderAction) : Journal :=
  let after := { journal with sender := journal.sender.act action }
  match action with
  | .enqueueData _ _ payload => { after with submitted := journal.submitted ++ [payload] }
  | .sendBatch now accepted =>
      { after with
        placed := journal.placed ++ (journal.sender.assembleBatch now).1.batch
        resent := journal.resent ++ journal.sender.retransmitsTaken
        wire := journal.wire ++ (journal.sender.sendBatch now accepted).2 }
  | _ => after

/-- The statistics have one other writer, which feeds them round-trip samples. -/
def Allowed (journal : Journal) (action : SenderAction) : Prop :=
  journal.sender.Allowed action ∧
    ∀ stats, action = .updateStats stats → ∃ rttUs, stats = journal.sender.stats.updateRtt rttUs

def packets (journal : Journal) : Nat :=
  (journal.submitted.map fun payload => (Chunks.chunks MAX_PAYLOAD payload).length).sum

structure Balanced (journal : Journal) : Prop where
  below : journal.sender.KeysBelow
  numbered : journal.sender.nextSeq = journal.packets
  packets : journal.sender.stats.packetsAcked + journal.sender.inFlight.size = journal.packets
  bytes : journal.sender.stats.bytesAcked + journal.sender.inFlightBytes =
    journal.submitted.flatten.length + RudpHeader.SIZE * journal.packets
  placed : journal.sender.stats.packetsSent = journal.placed.length
  resent : journal.sender.stats.retransmits = journal.resent.length
  resentPlaced : journal.resent.length ≤ journal.placed.length
  sent : journal.sender.stats.bytesSent = (journal.wire.map List.length).sum
  taken : journal.wire.Sublist journal.placed

theorem balanced_initial (sessionId : UInt32) (now : Instant) :
    (initial sessionId now).Balanced where
  below := by
    intro seq present
    cases present
  numbered := rfl
  packets := rfl
  bytes := rfl
  placed := rfl
  resent := rfl
  resentPlaced := Nat.le_refl 0
  sent := rfl
  taken := List.Sublist.refl []

variable {journal : Journal}

theorem Balanced.of_same (balanced : journal.Balanced) {after : Sender}
    (below : after.KeysBelow) (nextSeq : after.nextSeq = journal.sender.nextSeq)
    (packets : after.stats.packetsAcked + after.inFlight.size =
      journal.sender.stats.packetsAcked + journal.sender.inFlight.size)
    (bytes : after.stats.bytesAcked + after.inFlightBytes =
      journal.sender.stats.bytesAcked + journal.sender.inFlightBytes)
    (packetsSent : after.stats.packetsSent = journal.sender.stats.packetsSent)
    (retransmits : after.stats.retransmits = journal.sender.stats.retransmits)
    (bytesSent : after.stats.bytesSent = journal.sender.stats.bytesSent) :
    ({ journal with sender := after } : Journal).Balanced where
  below := below
  numbered := nextSeq.trans balanced.numbered
  packets := packets.trans balanced.packets
  bytes := bytes.trans balanced.bytes
  placed := packetsSent.trans balanced.placed
  resent := retransmits.trans balanced.resent
  resentPlaced := balanced.resentPlaced
  sent := bytesSent.trans balanced.sent
  taken := balanced.taken

theorem Balanced.enqueueData (balanced : journal.Balanced) (tsUs : Nat → UInt64) (now : Instant)
    (payload : Bytes) : (journal.act (.enqueueData tsUs now payload)).Balanced := by
  obtain ⟨stats, size, bytes⟩ := enqueueData_balances balanced.below tsUs now payload
  have grown : (journal.act (.enqueueData tsUs now payload)).packets =
      journal.packets + (Chunks.chunks MAX_PAYLOAD payload).length := by
    rw [Journal.packets, Journal.packets]
    change ((journal.submitted ++ [payload]).map _).sum = _
    rw [List.map_append, List.sum_append, List.map_singleton, List.sum_singleton]
  have submitted : (journal.act (.enqueueData tsUs now payload)).submitted.flatten.length =
      journal.submitted.flatten.length + payload.length := by
    change (journal.submitted ++ [payload]).flatten.length = _
    rw [List.flatten_append, List.flatten_singleton, List.length_append]
  have below : (journal.sender.act (.enqueueData tsUs now payload)).KeysBelow :=
    balanced.below.act trivial
  refine
    { below := below
      numbered := ?_
      packets := ?_
      bytes := ?_
      placed := ?_
      resent := ?_
      resentPlaced := balanced.resentPlaced
      sent := ?_
      taken := balanced.taken }
  · rw [grown, ← balanced.numbered]
    exact (extends_enqueueData journal.sender tsUs now payload).nextSeq
  · have before := balanced.packets
    change (journal.sender.enqueueData tsUs now payload).stats.packetsAcked +
      (journal.sender.enqueueData tsUs now payload).inFlight.size = _
    rw [grown, stats, size]
    omega
  · have before := balanced.bytes
    change (journal.sender.enqueueData tsUs now payload).stats.bytesAcked +
      (journal.sender.enqueueData tsUs now payload).inFlightBytes = _
    rw [grown, submitted, stats, bytes, Nat.mul_add]
    omega
  · exact (congrArg SessionStats.packetsSent stats).trans balanced.placed
  · exact (congrArg SessionStats.retransmits stats).trans balanced.resent
  · exact (congrArg SessionStats.bytesSent stats).trans balanced.sent

theorem Balanced.sendBatch (balanced : journal.Balanced) (now : Instant) (accepted : Int) :
    (journal.act (.sendBatch now accepted)).Balanced := by
  have stats := sendBatch_stats journal.sender now accepted
  have takesOver := sendBatch_takesOver journal.sender now accepted
  have stored := sendBatch_inFlight journal.sender now accepted
  have size : (journal.sender.sendBatch now accepted).1.inFlight.size =
      journal.sender.inFlight.size := by
    rw [stored, AssocMap.size, AssocMap.size, keys_stamped]
  have bytes : (journal.sender.sendBatch now accepted).1.inFlightBytes =
      journal.sender.inFlightBytes := by
    rw [inFlightBytes, stored, stamped]
    refine AssocMap.total_mapValues ?_ _
    intro seq entry
    split
    · rfl
    · rfl
  have placed := length_batch journal.sender now
  have resentPlaced := balanced.resentPlaced
  have below : (journal.sender.act (.sendBatch now accepted)).KeysBelow :=
    balanced.below.act trivial
  refine
    { below := below
      numbered := takesOver.nextSeq.trans balanced.numbered
      packets := ?_
      bytes := ?_
      placed := ?_
      resent := ?_
      resentPlaced := ?_
      sent := ?_
      taken := ?_ }
  · change (journal.sender.sendBatch now accepted).1.stats.packetsAcked + _ = _
    rw [stats]
    exact (congrArg (journal.sender.stats.packetsAcked + ·) size).trans balanced.packets
  · change (journal.sender.sendBatch now accepted).1.stats.bytesAcked + _ = _
    rw [stats]
    exact (congrArg (journal.sender.stats.bytesAcked + ·) bytes).trans balanced.bytes
  · change (journal.sender.sendBatch now accepted).1.stats.packetsSent =
      (journal.placed ++ _).length
    rw [stats, List.length_append, placed, ← balanced.placed]
  · change (journal.sender.sendBatch now accepted).1.stats.retransmits =
      (journal.resent ++ _).length
    rw [stats, List.length_append, ← balanced.resent]
  · change (journal.resent ++ journal.sender.retransmitsTaken).length ≤
      (journal.placed ++ (journal.sender.assembleBatch now).1.batch).length
    rw [List.length_append, List.length_append, placed, batchPlan, List.length_append]
    omega
  · change (journal.sender.sendBatch now accepted).1.stats.bytesSent =
      ((journal.wire ++ _).map List.length).sum
    rw [stats, List.map_append, List.sum_append, ← balanced.sent]
  · change (journal.wire ++ (journal.sender.sendBatch now accepted).2).Sublist _
    rw [sendBatch_wire, acceptedBatch]
    exact balanced.taken.append (List.take_sublist _ _)

theorem updateRtt_keeps (stats : SessionStats) (rttUs : Nat) :
    ∃ srttUs rttvarUs,
      stats.updateRtt rttUs = { stats with srttUs := srttUs, rttvarUs := rttvarUs } := by
  rw [SessionStats.updateRtt]
  split
  · exact ⟨_, _, rfl⟩
  · exact ⟨_, _, rfl⟩

theorem Balanced.act (balanced : journal.Balanced) (action : SenderAction)
    (allowed : journal.Allowed action) : (journal.act action).Balanced := by
  have below : (journal.sender.act action).KeysBelow := balanced.below.act allowed.1
  cases action with
  | enqueueData tsUs now payload => exact balanced.enqueueData tsUs now payload
  | sendBatch now accepted => exact balanced.sendBatch now accepted
  | processSack now sack =>
      obtain ⟨packets, bytes⟩ := processSack_balances journal.sender now sack
      exact balanced.of_same below rfl packets bytes rfl rfl rfl
  | refill now => exact balanced.of_same below rfl rfl rfl rfl rfl rfl
  | probeTick now => exact balanced.of_same below rfl rfl rfl rfl rfl rfl
  | rehash inFlight =>
      have same : inFlight.entries.Perm journal.sender.inFlight.entries := allowed.1
      have size : inFlight.size = journal.sender.inFlight.size := (same.map Sigma.fst).length_eq
      have bytes := AssocMap.total_of_perm InFlightEntry.bytes same
      exact balanced.of_same below rfl (congrArg (_ + ·) size) (congrArg (_ + ·) bytes)
        rfl rfl rfl
  | updateStats stats =>
      obtain ⟨rttUs, rfl⟩ := allowed.2 stats rfl
      obtain ⟨srttUs, rttvarUs, kept⟩ := updateRtt_keeps journal.sender.stats rttUs
      rw [kept] at below ⊢
      exact balanced.of_same below rfl rfl rfl rfl rfl rfl

/-- In every run, each submitted packet is either counted as acknowledged or in
flight, once, and so are its bytes.  The other counters are those of the
datagrams placed in batches, of the requests served and of the bytes that the
kernel took.  When nothing is in flight, all that was submitted was counted as
acknowledged exactly once. -/
theorem run_balanced (sessionId : UInt32) (now : Instant) (actions : List SenderAction)
    (allowed : EachStep act Allowed (initial sessionId now) actions) :
    (actions.foldl act (initial sessionId now)).Balanced ∧
      ((actions.foldl act (initial sessionId now)).sender.inFlight.entries = [] →
        (actions.foldl act (initial sessionId now)).sender.stats.packetsAcked =
            (actions.foldl act (initial sessionId now)).packets ∧
          (actions.foldl act (initial sessionId now)).sender.stats.bytesAcked =
            (actions.foldl act (initial sessionId now)).submitted.flatten.length +
              RudpHeader.SIZE * (actions.foldl act (initial sessionId now)).packets) := by
  have balanced : (actions.foldl act (initial sessionId now)).Balanced :=
    allowed.invariant (fun _ action allowed balanced => balanced.act action allowed)
      (balanced_initial sessionId now)
  refine ⟨balanced, ?_⟩
  intro drained
  have packets := balanced.packets
  have bytes := balanced.bytes
  rw [AssocMap.size, AList.keys, drained] at packets
  rw [inFlightBytes, AssocMap.total, drained] at bytes
  exact ⟨packets, bytes⟩

/-- Three bytes are submitted, sent and acknowledged. -/
def threeBytesRun : List SenderAction :=
  [.enqueueData (fun _ => 0) 0 [1, 2, 3], .sendBatch 0 1,
    .processSack 0 { SackPayload.default with baseSeq := 1 }]

theorem run_balanced_threeBytesRun :
    (threeBytesRun.foldl act (initial 7 0)).sender.stats.packetsAcked = 1 ∧
      (threeBytesRun.foldl act (initial 7 0)).sender.stats.bytesAcked = 32 :=
  (run_balanced 7 0 threeBytesRun ⟨⟨trivial, fun _ impossible => nomatch impossible⟩,
    ⟨trivial, fun _ impossible => nomatch impossible⟩,
    ⟨trivial, fun _ impossible => nomatch impossible⟩, trivial⟩).2 (by decide +kernel)

end Journal

end Udpix.Protocol

/-
How often the application sees a packet.

A run is a list of actions, so that what the network delivered can be read off
the run itself and compared with what the receiver pushed.  The receiver asks
its bitmap nothing before it delivers: every copy that arrives is pushed and
counted.
-/

import Udpix.Library.Unwinding
import Udpix.Protocol.Transfer
import Mathlib.Data.List.Dedup

namespace Udpix.Protocol

open Sender Unwinding

/-- The calls of the two parties, with their arguments. -/
inductive TransferAction where
  | enqueueData (now : Instant) (payload : Bytes)
  | processSack (now : Instant) (sack : SackPayload)
  | sendBatch (now : Instant) (accepted : Int)
  | iterate (iteration : Iteration)
  | processDatagram (nowUs : UInt64) (packet : Bytes)
  | heartbeat (nowUs : UInt64)
  | rehash (inFlight : AssocMap Nat InFlightEntry)
  | updateStats (stats : SessionStats)

namespace Transfer

def act (stamp : Nat → UInt64) (transfer : Transfer) : TransferAction → Transfer
  | .enqueueData now payload => transfer.enqueue stamp now payload
  | .processSack now sack => transfer.acknowledge now sack
  | .sendBatch now accepted => transfer.dispatch now accepted
  | .iterate iteration => transfer.iterate iteration
  | .processDatagram nowUs packet => transfer.deliver nowUs packet
  | .heartbeat nowUs => transfer.heartbeat nowUs
  | .rehash inFlight => { transfer with sender := { transfer.sender with inFlight := inFlight } }
  | .updateStats stats => { transfer with sender := { transfer.sender with stats := stats } }

/-- When an action can happen: the network delivers only what was produced. -/
def Allowed (stamp : Nat → UInt64) (transfer : Transfer) : TransferAction → Prop
  | .enqueueData _ _ => transfer.exited = false
  | .processSack _ sack => transfer.exited = false ∧ sack ∈ transfer.sacks
  | .sendBatch _ _ => transfer.exited = false
  | .iterate iteration =>
      transfer.exited = false ∧ iteration.tsUs = stamp ∧
        ∀ sack, iteration.event = .sack sack → sack ∈ transfer.sacks
  | .processDatagram _ packet => packet ∈ transfer.wire
  | .heartbeat _ => True
  | .rehash inFlight => inFlight.entries.Perm transfer.sender.inFlight.entries
  | .updateStats _ => True

theorem step_iff_exists_action (stamp : Nat → UInt64) (transfer next : Transfer) :
    Step stamp transfer next ↔
      ∃ action, transfer.Allowed stamp action ∧ transfer.act stamp action = next := by
  constructor
  · intro step
    cases step with
    | enqueueData now payload running => exact ⟨.enqueueData now payload, running, rfl⟩
    | processSack now sack running produced =>
        exact ⟨.processSack now sack, ⟨running, produced⟩, rfl⟩
    | sendBatch now accepted running => exact ⟨.sendBatch now accepted, running, rfl⟩
    | iterate iteration running clock produced =>
        exact ⟨.iterate iteration, ⟨running, clock, produced⟩, rfl⟩
    | processDatagram nowUs packet emitted => exact ⟨.processDatagram nowUs packet, emitted, rfl⟩
    | heartbeat nowUs => exact ⟨.heartbeat nowUs, trivial, rfl⟩
    | rehash inFlight sameEntries => exact ⟨.rehash inFlight, sameEntries, rfl⟩
    | updateStats stats => exact ⟨.updateStats stats, trivial, rfl⟩
  · rintro ⟨action, allowed, rfl⟩
    cases action with
    | enqueueData now payload => exact .enqueueData transfer now payload allowed
    | processSack now sack => exact .processSack transfer now sack allowed.1 allowed.2
    | sendBatch now accepted => exact .sendBatch transfer now accepted allowed
    | iterate iteration => exact .iterate transfer iteration allowed.1 allowed.2.1 allowed.2.2
    | processDatagram nowUs packet => exact .processDatagram transfer nowUs packet allowed
    | heartbeat nowUs => exact .heartbeat transfer nowUs
    | rehash inFlight => exact .rehash transfer inFlight allowed
    | updateStats stats => exact .updateStats transfer stats

def run (stamp : Nat → UInt64) (transfer : Transfer) (actions : List TransferAction) : Transfer :=
  actions.foldl (act stamp) transfer

def Possible (stamp : Nat → UInt64) (transfer : Transfer) (actions : List TransferAction) :
    Prop :=
  EachStep (act stamp) (Allowed stamp) transfer actions

/-! ### What arrives and what is pushed -/

def deliveredData (actions : List TransferAction) : List (Nat × Bytes) :=
  actions.filterMap fun action =>
    match action with
    | .processDatagram _ packet => dataOf packet
    | _ => none

/-- What one action adds to the application channel, under the number of the
datagram it handles. -/
def pushed (stamp : Nat → UInt64) (transfer : Transfer) : TransferAction → List (Nat × Bytes)
  | .processDatagram nowUs packet =>
      ((transfer.act stamp (.processDatagram nowUs packet)).receiver.dataTx.drop
        transfer.receiver.dataTx.length).map
          (fun payload => (((dataOf packet).map Prod.fst).getD 0, payload))
  | _ => []

def pushes (stamp : Nat → UInt64) (transfer : Transfer) :
    List TransferAction → List (Nat × Bytes)
  | [] => []
  | action :: rest =>
      transfer.pushed stamp action ++ (transfer.act stamp action).pushes stamp rest

/-- Every number is pushed at most once, and the statistics count every
delivered packet and its bytes once, however often it arrived. -/
def DeliversOnce (stamp : Nat → UInt64) (transfer : Transfer) (actions : List TransferAction) :
    Prop :=
  ((transfer.pushes stamp actions).map Prod.fst).Nodup ∧
  (transfer.run stamp actions).receiver.stats.packetsAcked =
    ((deliveredData actions).map Prod.fst).dedup.length ∧
  (transfer.run stamp actions).receiver.stats.bytesAcked =
    ((deliveredData actions).dedup.map (fun data => data.2.length)).sum

/-! ### The datagrams on the wire -/

/-- Everything in flight and on the wire is a DATA datagram of the session. -/
structure Wired (sessionId : UInt32) (stamp : Nat → UInt64) (transfer : Transfer) : Prop where
  tracks : Tracks sessionId stamp transfer.pieces transfer.acked transfer.sender
  session : transfer.receiver.sessionId = sessionId
  onWire : ∀ packet, packet ∈ transfer.wire →
    ∃ seq piece, piece.length ≤ MAX_PAYLOAD ∧
      packet = dataDatagram sessionId seq (stamp seq) piece

variable {sessionId : UInt32} {stamp : Nat → UInt64} {transfer : Transfer}

theorem wired_initial (now : Instant) : Wired sessionId stamp (initial sessionId now) where
  tracks := tracks_new now
  session := rfl
  onWire := by
    intro packet member
    cases member

theorem Wired.enqueue (wired : Wired sessionId stamp transfer) (now : Instant)
    (payload : Bytes) : Wired sessionId stamp (transfer.enqueue stamp now payload) where
  tracks := by
    rw [pieces_enqueue]
    exact wired.tracks.enqueueData now payload
  session := wired.session
  onWire := wired.onWire

theorem Wired.acknowledge (wired : Wired sessionId stamp transfer) (now : Instant)
    (sack : SackPayload) : Wired sessionId stamp (transfer.acknowledge now sack) where
  tracks := wired.tracks.processSack now sack
  session := wired.session
  onWire := wired.onWire

theorem Wired.dispatch (wired : Wired sessionId stamp transfer) (now : Instant)
    (accepted : Int) : Wired sessionId stamp (transfer.dispatch now accepted) where
  tracks := wired.tracks.sendBatch now accepted
  session := wired.session
  onWire := by
    intro packet member
    rcases List.mem_append.mp member with earlier | fresh
    · exact wired.onWire packet earlier
    · obtain ⟨seq, piece, placed, built⟩ := wired.tracks.sent now accepted packet fresh
      exact ⟨seq, piece, length_piece placed, built⟩

theorem Wired.of_sameSender (wired : Wired sessionId stamp transfer) (sender : Sender)
    (session : sender.sessionId = transfer.sender.sessionId)
    (nextSeq : sender.nextSeq = transfer.sender.nextSeq)
    (entries : sender.inFlight.entries.Perm transfer.sender.inFlight.entries) :
    Wired sessionId stamp { transfer with sender := sender } where
  tracks := wired.tracks.of_sameSender sender session nextSeq entries
  session := wired.session
  onWire := wired.onWire

theorem Wired.handle (wired : Wired sessionId stamp transfer) (iteration : Iteration)
    (clock : iteration.tsUs = stamp) : Wired sessionId stamp (transfer.handle iteration) := by
  unfold Transfer.handle
  split
  · rename_i event
    apply wired.of_sameSender <;> simp only [Sender.handleEvent, event, List.Perm.refl]
  · exact wired.acknowledge _ _
  · rw [clock]
    exact wired.enqueue _ _
  · exact ⟨wired.tracks, wired.session, wired.onWire⟩

theorem Wired.iterate (wired : Wired sessionId stamp transfer) (iteration : Iteration)
    (clock : iteration.tsUs = stamp) : Wired sessionId stamp (transfer.iterate iteration) := by
  have refilled : Wired sessionId stamp
      ((transfer.handle iteration).refill iteration.refillNow) :=
    (wired.handle iteration clock).of_sameSender _ rfl rfl (List.Perm.refl _)
  have sent := refilled.dispatch iteration.batchNow iteration.accepted
  exact ⟨sent.tracks, sent.session, sent.onWire⟩

theorem Wired.deliver (wired : Wired sessionId stamp transfer) (nowUs : UInt64)
    (packet : Bytes) (emitted : packet ∈ transfer.wire) :
    ∃ seq payload, dataOf packet = some (seq, payload) ∧
      (transfer.deliver nowUs packet).receiver = transfer.receiver.acceptData seq payload := by
  obtain ⟨seq, piece, short, built⟩ := wired.onWire packet emitted
  refine ⟨(UInt64.ofNat seq).toNat, piece, ?_, ?_⟩
  · rw [built]
    exact dataOf_datagram _ _ piece short
  · have accepted := transfer.receiver.processDatagram_data nowUs (stamp seq) (UInt64.ofNat seq)
      piece (by unfold MAX_PAYLOAD at short; omega)
    rw [wired.session] at accepted
    simp only [Transfer.deliver, built, dataDatagram, accepted]

theorem Wired.act (wired : Wired sessionId stamp transfer) (action : TransferAction)
    (allowed : transfer.Allowed stamp action) :
    Wired sessionId stamp (transfer.act stamp action) := by
  cases action with
  | enqueueData now payload => exact wired.enqueue now payload
  | processSack now sack => exact wired.acknowledge now sack
  | sendBatch now accepted => exact wired.dispatch now accepted
  | iterate iteration => exact wired.iterate iteration allowed.2.1
  | processDatagram nowUs packet =>
      obtain ⟨seq, payload, _, accepted⟩ := wired.deliver nowUs packet allowed
      refine ⟨wired.tracks, ?_, wired.onWire⟩
      change (transfer.deliver nowUs packet).receiver.sessionId = sessionId
      rw [accepted]
      exact wired.session
  | heartbeat nowUs => exact ⟨wired.tracks, wired.session, wired.onWire⟩
  | rehash inFlight => exact wired.of_sameSender _ rfl rfl allowed
  | updateStats stats => exact wired.of_sameSender _ rfl rfl (List.Perm.refl _)

/-! ### Every arrival is pushed and counted -/

theorem iterate_receiver (transfer : Transfer) (iteration : Iteration) :
    (transfer.iterate iteration).receiver = transfer.receiver := by
  change (transfer.handle iteration).receiver = transfer.receiver
  unfold Transfer.handle
  split <;> rfl

theorem Wired.pushed (wired : Wired sessionId stamp transfer) (action : TransferAction)
    (allowed : transfer.Allowed stamp action) :
    transfer.pushed stamp action = deliveredData [action] ∧
    (transfer.act stamp action).receiver.stats.packetsAcked =
      transfer.receiver.stats.packetsAcked + (deliveredData [action]).length ∧
    (transfer.act stamp action).receiver.stats.bytesAcked =
      transfer.receiver.stats.bytesAcked +
        ((deliveredData [action]).map (fun data => data.2.length)).sum := by
  cases action with
  | processDatagram nowUs packet =>
      obtain ⟨seq, payload, read, accepted⟩ := wired.deliver nowUs packet allowed
      have arrived : deliveredData [.processDatagram nowUs packet] = [(seq, payload)] := by
        simp only [deliveredData, List.filterMap_cons, read, List.filterMap_nil]
      refine ⟨?_, ?_, ?_⟩
      · rw [arrived]
        simp only [Transfer.pushed, Transfer.act, accepted, read, Receiver.acceptData,
          List.drop_left, List.map_singleton, Option.map_some, Option.getD_some]
      · rw [arrived]
        simp only [Transfer.act, accepted, Receiver.acceptData, List.length_singleton]
      · rw [arrived]
        simp only [Transfer.act, accepted, Receiver.acceptData, List.map_singleton,
          List.sum_singleton]
  | iterate iteration =>
      refine ⟨rfl, ?_, ?_⟩ <;>
        simp only [Transfer.act, iterate_receiver, deliveredData, List.filterMap_cons,
          List.filterMap_nil, List.length_nil, List.map_nil, List.sum_nil, Nat.add_zero]
  | _ => exact ⟨rfl, rfl, rfl⟩

theorem Wired.pushes_eq (wired : Wired sessionId stamp transfer) (actions : List TransferAction)
    (possible : transfer.Possible stamp actions) :
    transfer.pushes stamp actions = deliveredData actions ∧
    (transfer.run stamp actions).receiver.stats.packetsAcked =
      transfer.receiver.stats.packetsAcked + (deliveredData actions).length ∧
    (transfer.run stamp actions).receiver.stats.bytesAcked =
      transfer.receiver.stats.bytesAcked +
        ((deliveredData actions).map (fun data => data.2.length)).sum := by
  induction actions generalizing transfer with
  | nil => exact ⟨rfl, rfl, rfl⟩
  | cons action rest ih =>
      obtain ⟨allowed, laterPossible⟩ := possible
      obtain ⟨pushedNow, packetsNow, bytesNow⟩ := wired.pushed action allowed
      obtain ⟨pushedLater, packetsLater, bytesLater⟩ := ih (wired.act action allowed) laterPossible
      have split : deliveredData (action :: rest) = deliveredData [action] ++ deliveredData rest :=
        List.filterMap_append (l := [action])
      refine ⟨?_, ?_, ?_⟩
      · rw [split, pushes, pushedNow, pushedLater]
      · rw [split, List.length_append, ← Nat.add_assoc, ← packetsNow]
        exact packetsLater
      · rw [split, List.map_append, List.sum_append, ← Nat.add_assoc, ← bytesNow]
        exact bytesLater

/-- A run delivers every packet at most once exactly when no two of the DATA
datagrams that arrive in it carry the same number. -/
theorem deliversOnce_iff (sessionId : UInt32) (stamp : Nat → UInt64) (now : Instant)
    (actions : List TransferAction)
    (possible : (initial sessionId now).Possible stamp actions) :
    (initial sessionId now).DeliversOnce stamp actions ↔
      ((deliveredData actions).map Prod.fst).Nodup := by
  obtain ⟨pushed, packets, bytes⟩ := (wired_initial now).pushes_eq actions possible
  constructor
  · rintro ⟨once, _⟩
    rw [pushed] at once
    exact once
  · intro distinct
    refine ⟨?_, ?_, ?_⟩
    · rw [pushed]
      exact distinct
    · rw [packets, distinct.dedup, List.length_map]
      exact Nat.zero_add _
    · rw [bytes, distinct.of_map.dedup]
      exact Nat.zero_add _

/-- The general statement when a chunk is sent once and arrives once. -/
theorem deliversOnce_iff_singleCopy :
    (initial 7 0).DeliversOnce (fun _ => 0)
      [.iterate (passAt (.command (.sendChunk [1, 2, 3]))),
        .processDatagram 0 (dataDatagram 7 0 0 [1, 2, 3])] := by
  have possible : (initial 7 0).Possible (fun _ => 0)
      [.iterate (passAt (.command (.sendChunk [1, 2, 3]))),
        .processDatagram 0 (dataDatagram 7 0 0 [1, 2, 3])] := by
    refine ⟨⟨rfl, rfl, fun _ impossible => nomatch impossible⟩, ?_, trivial⟩
    change _ ∈ sentRun.wire
    decide +kernel
  exact (deliversOnce_iff 7 (fun _ => 0) 0 _ possible).mpr (by decide +kernel)

/-- A chunk is sent once and arrives twice. -/
def duplicatedRun : List TransferAction :=
  [.iterate (passAt (.command (.sendChunk [1, 2, 3]))),
    .processDatagram 0 (dataDatagram 7 0 0 [1, 2, 3]),
    .processDatagram 0 (dataDatagram 7 0 0 [1, 2, 3])]

theorem possible_duplicatedRun : (initial 7 0).Possible (fun _ => 0) duplicatedRun := by
  refine ⟨⟨rfl, rfl, fun _ impossible => nomatch impossible⟩, ?_, ?_, trivial⟩
  · change _ ∈ sentRun.wire
    decide +kernel
  · change _ ∈ sentRun.wire
    decide +kernel

theorem duplicatedRun_delivers_twice :
    ¬ ∀ (sessionId : UInt32) (stamp : Nat → UInt64) (now : Instant)
      (actions : List TransferAction), (initial sessionId now).Possible stamp actions →
        (initial sessionId now).DeliversOnce stamp actions := by
  intro once
  obtain ⟨distinct, _⟩ := once 7 (fun _ => 0) 0 duplicatedRun possible_duplicatedRun
  revert distinct
  decide +kernel

end Transfer

end Udpix.Protocol

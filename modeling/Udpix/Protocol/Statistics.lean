/-
What the statistics of a sender say about a transfer.

The loss rate is computed from counters that the sender keeps on its own.  Joined
with an honest receiver these counters can be trusted: what is counted as
acknowledged was on the wire, each packet once, so the subtraction in the loss
rate never saturates.
-/

import Udpix.Protocol.Bookkeeping
import Udpix.Protocol.DuplicateRequests
import Udpix.Protocol.Recovery

namespace Udpix.Protocol

open Chunks Sender Unwinding

namespace SessionStats

end SessionStats

namespace Transfer

variable {sessionId : UInt32} {stamp : Nat → UInt64} {transfer : Transfer}

/-! ### The counters along a run -/

/-- The statistics have one other writer, which feeds them round-trip samples. -/
def Samples (transfer : Transfer) (action : TransferAction) : Prop :=
  ∀ stats, action = .updateStats stats → ∃ rttUs, stats = transfer.sender.stats.updateRtt rttUs

def journal (transfer : Transfer) (placed : List Bytes) (resent : List Nat) : Journal :=
  { sender := transfer.sender
    submitted := transfer.submitted
    placed := placed
    resent := resent
    wire := transfer.wire }

def Ledgered (transfer : Transfer) : Prop :=
  ∃ placed resent, (transfer.journal placed resent).Balanced

theorem Ledgered.enqueue (ledgered : transfer.Ledgered) (now : Instant) (payload : Bytes) :
    (transfer.enqueue stamp now payload).Ledgered := by
  obtain ⟨placed, resent, balanced⟩ := ledgered
  exact ⟨placed, resent, balanced.act (.enqueueData stamp now payload) ⟨trivial, nofun⟩⟩

theorem Ledgered.acknowledge (ledgered : transfer.Ledgered) (now : Instant)
    (sack : SackPayload) : (transfer.acknowledge now sack).Ledgered := by
  obtain ⟨placed, resent, balanced⟩ := ledgered
  exact ⟨placed, resent, balanced.act (.processSack now sack) ⟨trivial, nofun⟩⟩

theorem Ledgered.dispatch (ledgered : transfer.Ledgered) (now : Instant) (accepted : Int) :
    (transfer.dispatch now accepted).Ledgered := by
  obtain ⟨placed, resent, balanced⟩ := ledgered
  exact ⟨_, _, balanced.act (.sendBatch now accepted) ⟨trivial, nofun⟩⟩

theorem Ledgered.refill (ledgered : transfer.Ledgered) (now : Instant) :
    (transfer.refill now).Ledgered := by
  obtain ⟨placed, resent, balanced⟩ := ledgered
  exact ⟨placed, resent, balanced.act (.refill now) ⟨trivial, nofun⟩⟩

theorem Ledgered.probe (ledgered : transfer.Ledgered) (now : Instant) :
    ({ transfer with sender := transfer.sender.probe now } : Transfer).Ledgered := by
  obtain ⟨placed, resent, balanced⟩ := ledgered
  exact ⟨placed, resent, balanced.act (.probeTick now) ⟨trivial, nofun⟩⟩

theorem Ledgered.handle (ledgered : transfer.Ledgered) (iteration : Iteration) :
    (transfer.handle iteration).Ledgered := by
  rw [Transfer.handle]
  cases event : iteration.event with
  | probeTick =>
      have probed : transfer.sender.handleEvent iteration =
          transfer.sender.probe iteration.eventNow := by
        rw [Sender.probe, handleEvent, handleEvent, event]
      dsimp only
      rw [probed]
      exact ledgered.probe iteration.eventNow
  | sack sack => exact ledgered.acknowledge _ _
  | command cmd =>
      cases cmd with
      | sendChunk payload => exact ledgered.enqueue _ _
      | shutdown => exact ledgered

theorem Ledgered.act (ledgered : transfer.Ledgered) {action : TransferAction}
    (allowed : transfer.Allowed stamp action) (samples : transfer.Samples action) :
    (transfer.act stamp action).Ledgered := by
  cases action with
  | enqueueData now payload => exact ledgered.enqueue now payload
  | processSack now sack => exact ledgered.acknowledge now sack
  | sendBatch now accepted => exact ledgered.dispatch now accepted
  | iterate iteration =>
      exact ((ledgered.handle iteration).refill iteration.refillNow).dispatch iteration.batchNow
        iteration.accepted
  | processDatagram nowUs packet => exact ledgered
  | heartbeat nowUs => exact ledgered
  | rehash inFlight =>
      obtain ⟨placed, resent, balanced⟩ := ledgered
      exact ⟨placed, resent, balanced.act (.rehash inFlight) ⟨allowed, nofun⟩⟩
  | updateStats stats =>
      obtain ⟨placed, resent, balanced⟩ := ledgered
      refine ⟨placed, resent, balanced.act (.updateStats stats) ⟨trivial, ?_⟩⟩
      rintro _ ⟨⟩
      exact samples stats rfl

/-! ### What was handed over was on the wire -/

def Carried (sessionId : UInt32) (stamp : Nat → UInt64) (transfer : Transfer) : Prop :=
  ∀ seq payload, (seq, payload) ∈ transfer.handed →
    dataDatagram sessionId seq (stamp seq) payload ∈ transfer.wire

theorem handle_keeps (transfer : Transfer) (iteration : Iteration) :
    (transfer.handle iteration).wire = transfer.wire ∧
      (transfer.handle iteration).handed = transfer.handed := by
  rw [Transfer.handle]
  split <;> exact ⟨rfl, rfl⟩

theorem Carried.step {next : Transfer} (carried : Carried sessionId stamp transfer)
    (sound : Sound sessionId stamp transfer) (bounded : transfer.pieces.length < 2 ^ 64)
    (step : Step stamp transfer next) : Carried sessionId stamp next := by
  cases step with
  | enqueueData now payload running => exact carried
  | processSack now sack running produced => exact carried
  | sendBatch now accepted running =>
      intro seq payload member
      exact List.mem_append_left _ (carried seq payload member)
  | iterate iteration running clock produced =>
      obtain ⟨sameWire, sameHanded⟩ := handle_keeps transfer iteration
      intro seq payload member
      have earlier := carried seq payload (sameHanded ▸ member)
      rw [← sameWire] at earlier
      exact List.mem_append_left _ earlier
  | processDatagram nowUs packet emitted =>
      obtain ⟨seq, piece, placed, rfl⟩ := sound.onWire packet emitted
      have fits : seq < 2 ^ 64 := Nat.lt_trans (List.getElem?_eq_some_iff.mp placed).1 bounded
      rw [deliver_eq sound nowUs seq piece fits (length_piece placed)]
      intro other payload member
      rcases List.mem_append.mp member with earlier | last
      · exact carried other payload earlier
      · cases List.mem_singleton.mp last
        exact emitted
  | heartbeat nowUs => exact carried
  | rehash inFlight sameEntries => exact carried
  | updateStats stats => exact carried

/-! ### Counting the acknowledged packets -/

structure Metered (sessionId : UInt32) (stamp : Nat → UInt64) (now : Instant)
    (transfer : Transfer) : Prop where
  reachable : Reachable sessionId stamp now transfer
  ledgered : transfer.Ledgered
  carried : transfer.pieces.length < 2 ^ 64 → Carried sessionId stamp transfer

theorem Metered.act {now : Instant} (metered : Metered sessionId stamp now transfer)
    {action : TransferAction} (allowed : transfer.Allowed stamp action)
    (samples : transfer.Samples action) :
    Metered sessionId stamp now (transfer.act stamp action) := by
  have step : Step stamp transfer (transfer.act stamp action) :=
    (step_iff_exists_action stamp transfer _).mpr ⟨action, allowed, rfl⟩
  refine ⟨metered.reachable.tail step, metered.ledgered.act allowed samples, ?_⟩
  intro bounded
  have earlier : transfer.pieces.length < 2 ^ 64 :=
    Nat.lt_of_le_of_lt step.pieces_length_le bounded
  exact (metered.carried earlier).step (sound_of_reachable metered.reachable earlier) earlier step

end Transfer

end Udpix.Protocol

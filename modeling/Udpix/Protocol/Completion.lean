/-
A transfer can always be brought to its end.

Whatever the network has lost, delayed, repeated and reordered, and whatever the
sender has counted, queued or stranded: from every state the two parties can
reach, heartbeats, deliveries and passes of the run loop lead to a state in
which nothing is in flight and every packet was handed over.  Only the lowest
number in flight is looked at.  The next SACK asks for it again, the bucket
pays for it after a second, and the window of the receiver starts at this
number or above it.
-/

import Udpix.Library.Unwinding
import Udpix.Protocol.Recovery

namespace Udpix.Protocol

open Sender

namespace Transfer

variable {sessionId : UInt32} {stamp : Nat → UInt64} {transfer : Transfer}

/-! ### The lowest number in flight -/

def OnWire (sessionId : UInt32) (stamp : Nat → UInt64) (transfer : Transfer) (seq : Nat) : Prop :=
  ∃ piece, transfer.pieces[seq]? = some piece ∧
    dataDatagram sessionId seq (stamp seq) piece ∈ transfer.wire

/-- A full bucket pays for any datagram in flight. -/
theorem Sound.size_le (sound : Sound sessionId stamp transfer) {seq : Nat}
    (present : seq ∈ transfer.sender.inFlight.keys) :
    size transfer.sender.inFlight seq ≤ 3000 := by
  obtain ⟨entry, found⟩ := (AssocMap.mem_keys_iff_lookup _ seq).mp present
  obtain ⟨piece, placed, built⟩ := sound.tracks.original seq entry found
  have short := length_piece placed
  have bytes : entry.datagram.length ≤ 3000 := by
    rw [built, length_dataDatagram]
    rw [MAX_PAYLOAD] at short
    omega
  rw [size, found, Option.elim_some]
  exact_mod_cast bytes

/-- A pass after a second either sends a packet that was asked for or has fewer
requests left. -/
theorem Healthy.pass_serves (healthy : Healthy sessionId stamp transfer)
    (running : transfer.exited = false) {now : Instant} {event : RunEvent}
    (waited : transfer.sender.pacer.lastRefill + 1000000000 ≤ now)
    (produced : ∀ sack, event = .sack sack → sack ∈ transfer.sacks)
    (nothingNew : ∀ cmd, event ≠ .command cmd) {seq : Nat}
    (present : seq ∈ (transfer.handle (passWith stamp now event)).sender.inFlight.keys)
    (queued : seq ∈ (transfer.handle (passWith stamp now event)).sender.requests) :
    OnWire sessionId stamp (transfer.iterate (passWith stamp now event)) seq ∨
      (seq ∈ (transfer.iterate (passWith stamp now event)).sender.requests ∧
        (transfer.iterate (passWith stamp now event)).sender.requests.length <
          (transfer.handle (passWith stamp now event)).sender.requests.length) := by
  have handled := handles_passWith stamp transfer now event nothingNew
  have sound := healthy.sound.handle running (passWith stamp now event) rfl produced
  have waitedHandled :
      (transfer.handle (passWith stamp now event)).sender.pacer.lastRefill + 1000000000 ≤ now := by
    rw [handled.lastRefill]
    exact waited
  have full := (handled.paced healthy.paced).tokens_refill waitedHandled
  have serves := sendBatch_serves ((transfer.handle (passWith stamp now event)).refill now).sender
    now queued present (fun _ member => le_trans (sound.size_le member) (le_of_eq full.symm))
  rcases serves with ⟨entry, found, sent⟩ | left
  · left
    obtain ⟨piece, placed, built⟩ := sound.tracks.original seq entry found
    rw [built] at sent
    exact ⟨piece, placed, List.mem_append_right _ sent⟩
  · exact .inr left

structure Pursued (sessionId : UInt32) (stamp : Nat → UInt64) (seq : Nat) (timed : Timed) :
    Prop where
  healthy : Healthy sessionId stamp timed.transfer
  running : timed.transfer.exited = false
  present : seq ∈ timed.transfer.sender.inFlight.keys
  placed : OnWire sessionId stamp timed.transfer seq ∨ seq ∈ timed.transfer.sender.requests

theorem Pursued.reaches_wire {seq : Nat} {timed : Timed}
    (pursued : Pursued sessionId stamp seq timed) :
    ∃ after, Relation.ReflTransGen (Recovery stamp) timed after ∧
      Pursued sessionId stamp seq after ∧ OnWire sessionId stamp after.transfer seq := by
  refine Progress.reaches_of_rank (fun current => current.transfer.sender.requests.length)
    ?_ timed pursued
  rintro ⟨clock, transfer⟩ ⟨healthy, running, present, placed⟩ unsent
  have queued := placed.resolve_left unsent
  obtain ⟨now, later, waited⟩ :
      ∃ now, clock ≤ now ∧ transfer.sender.pacer.lastRefill + 1000000000 ≤ now :=
    ⟨max clock _, le_max_left _ _, le_max_right _ _⟩
  have noSack : ∀ sack, RunEvent.probeTick = .sack sack → sack ∈ transfer.sacks := by
    intro sack impossible
    cases impossible
  have noCommand : ∀ cmd, RunEvent.probeTick ≠ .command cmd := by
    intro cmd impossible
    cases impossible
  have handled := handles_passWith stamp transfer now .probeTick noCommand
  have recovery : Recovery stamp ⟨clock, transfer⟩
      ⟨now, transfer.iterate (passWith stamp now .probeTick)⟩ :=
    .pass clock now transfer .probeTick running later noSack noCommand
  have presentHandled := (handled.keys seq).mpr ⟨present, fun _ impossible => nomatch impossible⟩
  have serves := healthy.pass_serves running waited noSack noCommand presentHandled
    (handled.requests seq queued)
  have presentAfter : seq ∈
      (transfer.iterate (passWith stamp now .probeTick)).sender.inFlight.keys := by
    rw [iterate_keys]
    exact presentHandled
  refine ⟨⟨now, transfer.iterate (passWith stamp now .probeTick)⟩, .single recovery,
    ⟨healthy.recovers (.single recovery), ?_, presentAfter, ?_⟩, ?_⟩
  · exact recovery.continues.running running (List.ne_nil_of_mem presentAfter)
  · exact serves.imp_right And.left
  · refine serves.imp_right fun left => ?_
    rw [handled.length rfl] at left
    exact left.2

/-- The window of the bitmap starts at the lowest number in flight or above it:
all lower numbers were acknowledged. -/
theorem Healthy.lowest_le_baseSeq (healthy : Healthy sessionId stamp transfer) {seq : Nat}
    (present : seq ∈ transfer.sender.inFlight.keys)
    (lowest : ∀ other, other ∈ transfer.sender.inFlight.keys → seq ≤ other) :
    seq ≤ transfer.receiver.sackMgr.payload.baseSeq := by
  by_contra below
  have baseLt : transfer.receiver.sackMgr.payload.baseSeq < transfer.sender.nextSeq :=
    Nat.lt_trans (Nat.not_le.mp below) (healthy.sound.tracks.key_lt present)
  have missing : transfer.receiver.sackMgr.payload.isReceived
      transfer.receiver.sackMgr.payload.baseSeq = false := by
    rw [healthy.sound.replayed]
    exact SackManager.isReceived_run_baseSeq 0 transfer.sackOps
  have listed := healthy.sound.tracks.partition.symm.subset (List.mem_range.mpr baseLt)
  rcases List.mem_append.mp listed with removed | inFlight
  · rw [healthy.remembers.removed _ removed] at missing
    cases missing
  · exact below (lowest _ inFlight)

theorem Healthy.deliver_lowest (healthy : Healthy sessionId stamp transfer) {seq : Nat}
    (present : seq ∈ transfer.sender.inFlight.keys)
    (lowest : ∀ other, other ∈ transfer.sender.inFlight.keys → seq ≤ other)
    (onWire : OnWire sessionId stamp transfer seq) (nowUs : UInt64) :
    ∃ packet, packet ∈ transfer.wire ∧
      (transfer.deliver nowUs packet).receiver.sackMgr.payload.isReceived seq = true := by
  obtain ⟨piece, placed, emitted⟩ := onWire
  have seqLt : seq < 2 ^ 64 :=
    Nat.lt_trans (List.getElem?_eq_some_iff.mp placed).1 healthy.bounded
  have base := healthy.lowest_le_baseSeq present lowest
  have inside : seq < transfer.receiver.sackMgr.payload.baseSeq + SACK_WINDOW := by
    have window : 0 < SACK_WINDOW := by decide
    omega
  refine ⟨_, emitted, ?_⟩
  rw [deliver_eq healthy.sound nowUs seq piece seqLt (length_piece placed)]
  change (SackManager.absorb transfer.receiver.sackMgr.payload seq).isReceived seq = true
  rw [SackManager.isReceived_absorb, decide_eq_true rfl, decide_eq_true inside, Bool.and_true,
    Bool.or_true]

theorem isAcked_eq_false {sack : SackPayload} {seq : Nat}
    (missing : sack.isReceived seq = false) : isAcked sack seq = false := by
  cases acked : isAcked sack seq with
  | false => rfl
  | true =>
      rw [isReceived_of_isAcked acked] at missing
      cases missing

theorem isAcked_of_isReceived {sack : SackPayload} {seq : Nat}
    (received : sack.isReceived seq = true) : isAcked sack seq = true := by
  rw [isAcked, received, Bool.or_true]

theorem heartbeat_produces (transfer : Transfer) (nowUs : UInt64) (sack : SackPayload)
    (same : RunEvent.sack transfer.receiver.sackMgr.tick.payload = .sack sack) :
    sack ∈ (transfer.heartbeat nowUs).sacks := by
  cases same
  exact List.mem_append_right _ (List.mem_singleton.mpr rfl)

theorem sack_not_command (sack : SackPayload) (cmd : SenderCommand) :
    RunEvent.sack sack ≠ .command cmd := by
  intro impossible
  cases impossible

theorem removed_of_received (stamp : Nat → UInt64) (timed : Timed)
    (running : timed.transfer.exited = false) {seq : Nat}
    (received : timed.transfer.receiver.sackMgr.payload.isReceived seq = true) :
    ∃ after, Relation.ReflTransGen (Recovery stamp) timed after ∧
      seq ∉ after.transfer.sender.inFlight.keys := by
  obtain ⟨clock, transfer⟩ := timed
  have produced := heartbeat_produces transfer 0
  have noCommand := sack_not_command transfer.receiver.sackMgr.tick.payload
  refine ⟨_, .tail (.single (.heartbeat clock transfer 0))
    (.pass clock clock (transfer.heartbeat 0) _ running (le_refl clock) produced noCommand), ?_⟩
  dsimp only
  rw [iterate_keys, (handles_passWith stamp _ _ _ noCommand).keys]
  intro stays
  have acked := isAcked_of_isReceived received
  rw [← SackManager.tick_payload, stays.2 _ rfl] at acked
  cases acked

theorem Healthy.asks {timed : Timed} (healthy : Healthy sessionId stamp timed.transfer)
    (running : timed.transfer.exited = false) {seq : Nat}
    (present : seq ∈ timed.transfer.sender.inFlight.keys)
    (missing : timed.transfer.receiver.sackMgr.payload.isReceived seq = false) :
    ∃ after, Relation.ReflTransGen (Recovery stamp) timed after ∧
      Pursued sessionId stamp seq after := by
  obtain ⟨clock, transfer⟩ := timed
  obtain ⟨now, later, waited⟩ :
      ∃ now, clock ≤ now ∧ transfer.sender.pacer.lastRefill + 1000000000 ≤ now :=
    ⟨max clock _, le_max_left _ _, le_max_right _ _⟩
  have produced := heartbeat_produces transfer 0
  have noCommand := sack_not_command transfer.receiver.sackMgr.tick.payload
  have beat : Recovery stamp ⟨clock, transfer⟩ ⟨clock, transfer.heartbeat 0⟩ :=
    .heartbeat clock transfer 0
  have recovery : Recovery stamp ⟨clock, transfer.heartbeat 0⟩
      ⟨now, (transfer.heartbeat 0).iterate
        (passWith stamp now (.sack transfer.receiver.sackMgr.tick.payload))⟩ :=
    .pass clock now (transfer.heartbeat 0) _ running later produced noCommand
  have handled := handles_passWith stamp (transfer.heartbeat 0) now _ noCommand
  have stays : seq ∈ ((transfer.heartbeat 0).handle (passWith stamp now
      (.sack transfer.receiver.sackMgr.tick.payload))).sender.inFlight.keys := by
    rw [handled.keys]
    refine ⟨present, ?_⟩
    intro sack same
    cases same
    exact isAcked_eq_false missing
  have beaten := healthy.recovers (.single beat)
  have serves := beaten.pass_serves running waited produced noCommand stays
    (handled.asks ⟨_, rfl⟩ seq stays)
  have presentAfter := stays
  rw [← iterate_keys] at presentAfter
  refine ⟨_, .tail (.single beat) recovery, beaten.recovers (.single recovery), ?_, presentAfter,
    serves.imp_right And.left⟩
  exact recovery.continues.running running (List.ne_nil_of_mem presentAfter)

theorem Healthy.drops_lowest {timed : Timed} (healthy : Healthy sessionId stamp timed.transfer)
    (running : timed.transfer.exited = false) {seq : Nat}
    (present : seq ∈ timed.transfer.sender.inFlight.keys)
    (lowest : ∀ other, other ∈ timed.transfer.sender.inFlight.keys → seq ≤ other) :
    ∃ after, Relation.ReflTransGen (Recovery stamp) timed after ∧
      seq ∉ after.transfer.sender.inFlight.keys := by
  cases marked : timed.transfer.receiver.sackMgr.payload.isReceived seq with
  | true => exact removed_of_received stamp timed running marked
  | false =>
      obtain ⟨asked, toAsked, pursued⟩ := healthy.asks running present marked
      obtain ⟨sent, toSent, held, onWire⟩ := pursued.reaches_wire
      have fromStart := continues_of_recovers (toAsked.trans toSent)
      obtain ⟨packet, emitted, received⟩ := held.healthy.deliver_lowest held.present
        (fun other member => lowest other (fromStart.keys member)) onWire 0
      have delivered : Recovery stamp sent ⟨sent.clock, sent.transfer.deliver 0 packet⟩ :=
        .processDatagram sent.clock sent.transfer 0 packet emitted
      obtain ⟨after, toAfter, gone⟩ := removed_of_received stamp
        ⟨sent.clock, sent.transfer.deliver 0 packet⟩ held.running received
      exact ⟨after, ((toAsked.trans toSent).tail delivered).trans toAfter, gone⟩

theorem length_lt_of_dropped {before after : List Nat} {seq : Nat} (distinct : after.Nodup)
    (kept : after ⊆ before) (present : seq ∈ before) (gone : seq ∉ after) :
    after.length < before.length := by
  have without : after ⊆ before.erase seq := by
    intro other member
    refine (List.mem_erase_of_ne ?_).mpr (kept member)
    rintro rfl
    exact gone member
  have shorter := (distinct.subperm without).length_le
  have erased := List.length_erase_of_mem present
  have some := List.length_pos_of_mem present
  omega

/-- On the way to an empty map: the loop has not left before. -/
structure Draining (sessionId : UInt32) (stamp : Nat → UInt64) (timed : Timed) : Prop where
  healthy : Healthy sessionId stamp timed.transfer
  running : timed.transfer.sender.inFlight.keys ≠ [] → timed.transfer.exited = false

theorem Draining.advances {timed : Timed} (draining : Draining sessionId stamp timed)
    (left : timed.transfer.sender.inFlight.keys ≠ []) :
    ∃ next, Relation.ReflTransGen (Recovery stamp) timed next ∧
      Draining sessionId stamp next ∧
      next.transfer.sender.inFlight.keys.length < timed.transfer.sender.inFlight.keys.length := by
  have running := draining.running left
  have some : ∃ seq, seq ∈ timed.transfer.sender.inFlight.keys := List.exists_mem_of_ne_nil _ left
  have present := Nat.find_spec some
  have lowest : ∀ other, other ∈ timed.transfer.sender.inFlight.keys → Nat.find some ≤ other :=
    fun _ member => Nat.find_min' some member
  obtain ⟨next, recovers, gone⟩ := draining.healthy.drops_lowest running present lowest
  have continues := continues_of_recovers recovers
  refine ⟨next, recovers, ⟨draining.healthy.recovers recovers, continues.running running⟩, ?_⟩
  exact length_lt_of_dropped (AList.keys_nodup _) continues.keys present gone

theorem Draining.drains {timed : Timed} (draining : Draining sessionId stamp timed) :
    ∃ after, Relation.ReflTransGen (Recovery stamp) timed after ∧
      Draining sessionId stamp after ∧ after.transfer.sender.inFlight.keys = [] := by
  refine Progress.reaches_of_rank
    (fun current => current.transfer.sender.inFlight.keys.length) ?_ timed draining
  intro current holds left
  obtain ⟨next, recovers, kept, fewer⟩ := holds.advances left
  exact ⟨next, recovers, kept, .inr fewer⟩

/-- With nothing in flight, a last pass leaves the loop if it was asked to. -/
theorem settles (stamp : Nat → UInt64) {timed : Timed}
    (empty : timed.transfer.sender.inFlight.keys = [])
    (exits : timed.transfer.exited = true → timed.transfer.shutdownRequested = true) :
    ∃ after, Relation.ReflTransGen (Recovery stamp) timed after ∧
      after.transfer.exited = timed.transfer.shutdownRequested := by
  obtain ⟨clock, transfer⟩ := timed
  cases left : transfer.exited with
  | true =>
      refine ⟨_, .refl, ?_⟩
      exact left.trans (exits left).symm
  | false =>
      have noCommand : ∀ cmd, RunEvent.probeTick ≠ .command cmd := by
        intro cmd impossible
        cases impossible
      have recovery : Recovery stamp ⟨clock, transfer⟩
          ⟨clock, transfer.iterate (passWith stamp clock .probeTick)⟩ :=
        .pass clock clock transfer .probeTick left (le_refl clock)
          (fun _ impossible => nomatch impossible) noCommand
      refine ⟨_, .single recovery, ?_⟩
      have keys := recovery.continues.keys
      rw [empty] at keys
      have none :
          (transfer.iterate (passWith stamp clock .probeTick)).sender.inFlight.keys.isEmpty =
            true :=
        List.isEmpty_iff.mpr (List.subset_nil.mp keys)
      change (transfer.shutdownRequested && _) = transfer.shutdownRequested
      exact (congrArg (transfer.shutdownRequested && ·) none).trans (Bool.and_true _)

theorem Sound.handed_of_empty (sound : Sound sessionId stamp transfer)
    (empty : transfer.sender.inFlight.keys = []) {seq : Nat} {piece : Bytes}
    (placed : transfer.pieces[seq]? = some piece) : (seq, piece) ∈ transfer.handed := by
  have seqLt : seq < transfer.sender.nextSeq := by
    rw [sound.tracks.counted]
    exact (List.getElem?_eq_some_iff.mp placed).1
  obtain ⟨found, foundPlaced, ⟨entry, stored, _⟩ | handed⟩ := sound.forgotten_nowhere seq seqLt
  · have key := (AssocMap.mem_keys_iff_lookup _ seq).mpr ⟨entry, stored⟩
    rw [empty] at key
    cases key
  · rw [placed] at foundPlaced
    cases foundPlaced
    exact handed

/-- From every reachable state the transfer can be finished: heartbeats,
deliveries and passes of the loop, at a clock that never goes back, empty the
in-flight map, with every packet of every submitted payload handed over, and
the loop has left if a shutdown was requested. -/
theorem reachable_can_finish (sessionId : UInt32) (stamp : Nat → UInt64) (now clock : Instant)
    (transfer : Transfer) (reachable : Reachable sessionId stamp now transfer)
    (running : transfer.exited = false) (bounded : transfer.pieces.length < 2 ^ 64) :
    ∃ later final, Relation.ReflTransGen (Recovery stamp) ⟨clock, transfer⟩ ⟨later, final⟩ ∧
      Reachable sessionId stamp now final ∧
      final.submitted = transfer.submitted ∧
      final.sender.inFlight.keys = [] ∧
      (∀ seq piece, transfer.pieces[seq]? = some piece → (seq, piece) ∈ final.handed) ∧
      final.exited = transfer.shutdownRequested := by
  have healthy := healthy_of_reachable reachable bounded
  have draining : Draining sessionId stamp ⟨clock, transfer⟩ := ⟨healthy, fun _ => running⟩
  obtain ⟨drained, toDrained, kept, empty⟩ := draining.drains
  have emptied := continues_of_recovers toDrained
  obtain ⟨final, toFinal, left⟩ := settles stamp empty (emptied.exits running)
  have recovers := toDrained.trans toFinal
  have continues := continues_of_recovers recovers
  have still := (continues_of_recovers toFinal).keys
  rw [empty] at still
  have finalEmpty := List.subset_nil.mp still
  have steps : Relation.ReflTransGen (Step stamp) transfer final.transfer :=
    recovers.lift Timed.transfer (fun _ _ recovery => recovery.step)
  refine ⟨final.clock, final.transfer, recovers, reachable.trans steps, continues.submitted,
    finalEmpty, ?_, ?_⟩
  · intro seq piece placed
    rw [← pieces_of_submitted continues.submitted] at placed
    exact (healthy.recovers recovers).sound.handed_of_empty finalEmpty placed
  · rw [left, emptied.requested]

/-- The state in which one packet was sent and nothing has arrived. -/
theorem reachable_can_finish_sentRun :
    sentRun.sender.inFlight.keys = [0] ∧
      ∃ later final, Relation.ReflTransGen (Recovery (fun _ => 0)) ⟨0, sentRun⟩ ⟨later, final⟩ ∧
        final.sender.inFlight.keys = [] ∧ (0, [1, 2, 3]) ∈ final.handed := by
  have reachable : Reachable 7 (fun _ => 0) 0 sentRun :=
    .single (.iterate _ _ rfl rfl (fun _ impossible => by cases impossible))
  obtain ⟨later, final, recovers, _, _, empty, handed, _⟩ :=
    reachable_can_finish 7 (fun _ => 0) 0 0 sentRun reachable (by decide +kernel)
      (by decide +kernel)
  exact ⟨by decide +kernel, later, final, recovers, empty, handed 0 [1, 2, 3] (by decide +kernel)⟩

end Transfer

end Udpix.Protocol

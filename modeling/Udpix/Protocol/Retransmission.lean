/-
When the sender sends a packet again.

The network here loses and reorders nothing: datagrams arrive in the order in
which they were put on the wire, and SACKs in the order in which the heartbeats
produced them.  The gap loop still takes every in-flight packet that a SACK
does not cover for lost, also one that is on its way or waits for tokens.
-/

import Udpix.Protocol.Duplicates
import Udpix.Protocol.SenderRuns
import Mathlib.Data.List.Nodup
import Mathlib.Data.List.Perm.Subperm

namespace Udpix.Protocol

open Sender Unwinding

namespace TransferAction

def sack? : TransferAction → Option SackPayload
  | .processSack _ sack => some sack
  | .iterate iteration =>
      match iteration.event with
      | .sack sack => some sack
      | _ => none
  | _ => none

def packet? : TransferAction → Option Bytes
  | .processDatagram _ packet => some packet
  | _ => none

end TransferAction

namespace Transfer

/-- The sender in the state in which an action assembles a batch, and the time
of that batch. -/
def batchStart (transfer : Transfer) : TransferAction → Option (Sender × Instant)
  | .sendBatch now _ => some (transfer.sender, now)
  | .iterate iteration =>
      some (((transfer.handle iteration).refill iteration.refillNow).sender, iteration.batchNow)
  | _ => none

/-- What an action places in a batch, whether or not the kernel takes it. -/
def batchOf (transfer : Transfer) (action : TransferAction) : List Bytes :=
  match transfer.batchStart action with
  | some (sender, now) => (sender.assembleBatch now).1.batch
  | none => []

def enqueued (sessionId : UInt32) (stamp : Nat → UInt64) (transfer : Transfer) : List Bytes :=
  transfer.pieces.mapIdx (fun seq piece => dataDatagram sessionId seq (stamp seq) piece)

end Transfer

/-- A transfer, all batches so far, and how many datagrams and SACKs have come
through. -/
structure Watched where
  transfer : Transfer
  placed : List Bytes
  arrived : Nat
  processed : Nat

namespace Watched

def initial (sessionId : UInt32) (now : Instant) : Watched :=
  { transfer := Transfer.initial sessionId now
    placed := []
    arrived := 0
    processed := 0 }

def act (stamp : Nat → UInt64) (watched : Watched) (action : TransferAction) : Watched :=
  { transfer := watched.transfer.act stamp action
    placed := watched.placed ++ watched.transfer.batchOf action
    arrived := watched.arrived + action.packet?.toList.length
    processed := watched.processed + action.sack?.toList.length }

def run (stamp : Nat → UInt64) (watched : Watched) (actions : List TransferAction) : Watched :=
  actions.foldl (act stamp) watched

/-- What is placed in a batch is acknowledged within the timeout: if it is still
in flight when a batch is assembled, it has been out for no longer. -/
def Prompt (watched : Watched) (action : TransferAction) : Prop :=
  match watched.transfer.batchStart action with
  | some (sender, now) =>
      ∀ stored, stored ∈ sender.inFlight.entries → stored.2.datagram ∈ watched.placed →
        Instant.elapsed now stored.2.lastSent ≤ sender.stats.rto
  | none => True

/-- One step over a network that loses and reorders nothing.  The other holders
of the statistics do not count retransmissions. -/
structure LossFree (stamp : Nat → UInt64) (watched : Watched) (action : TransferAction) :
    Prop where
  allowed : watched.transfer.Allowed stamp action
  dataInOrder : ∀ packet, action.packet? = some packet →
    watched.transfer.wire[watched.arrived]? = some packet
  sacksInOrder : ∀ sack, action.sack? = some sack →
    watched.transfer.sacks[watched.processed]? = some sack
  prompt : watched.Prompt action
  counter : ∀ stats, action = .updateStats stats →
    stats.retransmits = watched.transfer.sender.stats.retransmits

/-- A SACK acknowledges everything that is in flight when it is processed. -/
def Covered (watched : Watched) (action : TransferAction) : Prop :=
  ∀ sack, action.sack? = some sack →
    ∀ seq, seq ∈ watched.transfer.sender.inFlight.keys → isAcked sack seq = true

/-- No retransmission was counted and no enqueued datagram was placed in a batch
more often than it was enqueued. -/
def SendsOnce (sessionId : UInt32) (stamp : Nat → UInt64) (watched : Watched) : Prop :=
  watched.transfer.sender.stats.retransmits = 0 ∧
  watched.placed.Subperm (watched.transfer.enqueued sessionId stamp)

end Watched

/-! ### A batch with nothing queued -/

namespace Sender

structure Quiet (sender : Sender) : Prop where
  urgent : sender.urgentRetransmits = []
  normal : sender.normalRetransmits = []
  uncounted : sender.stats.retransmits = 0

theorem quiet_new (sessionId : UInt32) (now : Instant) : (new sessionId now).Quiet :=
  ⟨rfl, rfl, rfl⟩

theorem Quiet.requests {sender : Sender} (quiet : sender.Quiet) : sender.requests = [] := by
  rw [Sender.requests, quiet.urgent, quiet.normal, List.append_nil]

theorem quiet_of_requests {sender : Sender} (unqueued : sender.requests = [])
    (uncounted : sender.stats.retransmits = 0) : sender.Quiet := by
  obtain ⟨urgent, normal⟩ := List.append_eq_nil_iff.mp unqueued
  exact ⟨urgent, normal, uncounted⟩

theorem Quiet.retransmitsTaken {sender : Sender} (quiet : sender.Quiet) :
    sender.retransmitsTaken = [] := by
  have part := sender.retransmitsTaken_sublist
  rw [quiet.requests] at part
  exact List.sublist_nil.mp part

theorem Quiet.mem_batchPlan {sender : Sender} (quiet : sender.Quiet) {now : Instant} {seq : Nat}
    (member : seq ∈ sender.batchPlan now) :
    ∃ entry, sender.inFlight.lookup seq = some entry ∧
      sender.stats.rto < Instant.elapsed now entry.lastSent := by
  rw [batchPlan, quiet.retransmitsTaken, List.nil_append] at member
  have selected : seq ∈ sender.timerSelected now :=
    (Budget.served_isPrefix _ _ _ _).subset member
  obtain ⟨entry, found, late, _⟩ := (mem_timerSelected_iff sender now seq).mp selected
  exact ⟨entry, found, late⟩

theorem Quiet.processSack {sender : Sender} (quiet : sender.Quiet) (now : Instant)
    (sack : SackPayload) (covers : ∀ seq, seq ∈ sender.inFlight.keys → isAcked sack seq = true) :
    (sender.processSack now sack).Quiet := by
  have removed : (sender.processSack now sack).inFlight.keys = [] := by
    apply List.eq_nil_iff_forall_not_mem.mpr
    intro seq member
    obtain ⟨before, missing⟩ := (mem_keys_processSack sender now sack seq).mp member
    rw [covers seq before] at missing
    cases missing
  have pushed := requests_processSack sender now sack
  rw [quiet.requests, removed] at pushed
  exact quiet_of_requests (List.perm_nil.mp pushed) quiet.uncounted

theorem Quiet.enqueueData {sender : Sender} (quiet : sender.Quiet) (stamp : Nat → UInt64)
    (now : Instant) (payload : Bytes) : (sender.enqueueData stamp now payload).Quiet := by
  unfold Sender.enqueueData
  induction Chunks.chunks MAX_PAYLOAD payload generalizing sender with
  | nil => exact quiet
  | cons chunk rest ih => exact ih ⟨quiet.urgent, quiet.normal, quiet.uncounted⟩

theorem Quiet.sendBatch {sender : Sender} (quiet : sender.Quiet) (now : Instant)
    (accepted : Int) : (sender.sendBatch now accepted).1.Quiet := by
  have unqueued : (sender.sendBatch now accepted).1.requests = [] := by
    obtain ⟨gone, _, conserved⟩ := requests_sendBatch sender now accepted
    rw [quiet.requests] at conserved
    exact (List.append_eq_nil_iff.mp (List.nil_perm.mp conserved)).1
  apply quiet_of_requests unqueued
  rw [(sendBatch_takesOver sender now accepted).retransmits, assembleBatch_eq]
  dsimp only
  rw [quiet.uncounted, quiet.retransmitsTaken]
  rfl

/-! ### A packet that a SACK leaves out -/

/-- A batch serves a request for a packet in flight, if the bucket can pay for any
datagram. -/
theorem retransmitsTaken_ne_nil {sender : Sender} {seq : Nat} (queued : seq ∈ sender.requests)
    (present : seq ∈ sender.inFlight.keys)
    (pays : ∀ other, other ∈ sender.inFlight.keys →
      size sender.inFlight other ≤ sender.pacer.tokens) : sender.retransmitsTaken ≠ [] := by
  have starts : ∀ queue, seq ∈ queue →
      Budget.served (size sender.inFlight) BATCH_SIZE sender.pacer.tokens
        (live sender.inFlight queue) ≠ [] := by
    intro queue member
    have waits : seq ∈ live sender.inFlight queue :=
      List.mem_filter.mpr ⟨member, decide_eq_true present⟩
    obtain ⟨first, rest, split⟩ := List.exists_cons_of_ne_nil (List.ne_nil_of_mem waits)
    have listed : first ∈ live sender.inFlight queue := by
      rw [split]
      exact List.mem_cons_self
    rw [Budget.served_ne_nil_iff, split]
    exact ⟨Nat.succ_pos _, first, rfl, pays first (mem_keys_of_mem_live listed)⟩
  intro nothing
  obtain ⟨noUrgent, noNormal⟩ := List.append_eq_nil_iff.mp nothing
  rcases List.mem_append.mp queued with urgent | normal
  · exact starts _ urgent noUrgent
  · rw [normalTaken, noUrgent, Budget.total_nil, sub_zero] at noNormal
    exact starts _ normal noNormal

theorem size_le_tokens {inFlight : AssocMap Nat InFlightEntry} {pacer : TokenBucket} {seq : Nat}
    {entry : InFlightEntry} (found : inFlight.lookup seq = some entry)
    (pays : (pacer.tryConsume entry.datagram.length).isSome) :
    size inFlight seq ≤ pacer.tokens := by
  rw [size, found, Option.elim_some]
  rw [TokenBucket.tryConsume] at pays
  split at pays
  · assumption
  · cases pays

/-- A SACK that leaves out a packet in flight makes the same pass count a
retransmission, unless the bucket cannot pay for one datagram. -/
theorem resends_of_uncovered (sender : Sender) (now : Instant) (sack : SackPayload)
    (pacer : TokenBucket) (batchNow : Instant) {seq : Nat}
    (inFlight : seq ∈ sender.inFlight.keys) (uncovered : isAcked sack seq = false)
    (pays : ∀ other entry, sender.inFlight.lookup other = some entry →
      (pacer.tryConsume entry.datagram.length).isSome) :
    sender.stats.retransmits <
      (({ sender.processSack now sack with pacer := pacer }).assembleBatch
        batchNow).1.retransmits := by
  have stays : seq ∈ (sender.processSack now sack).inFlight.keys :=
    (mem_keys_processSack sender now sack seq).mpr ⟨inFlight, uncovered⟩
  have queued : seq ∈ (sender.processSack now sack).requests :=
    (requests_processSack sender now sack).mem_iff.mpr (List.mem_append_right _ stays)
  have affordable : ∀ other, other ∈ (sender.processSack now sack).inFlight.keys →
      size (sender.processSack now sack).inFlight other ≤ pacer.tokens := by
    intro other member
    obtain ⟨stored, found⟩ := (AssocMap.mem_keys_iff_lookup _ other).mp member
    apply size_le_tokens found
    rw [lookup_processSack] at found
    split at found
    · cases found
    · obtain ⟨original, isOriginal, rfl⟩ := Option.map_eq_some_iff.mp found
      rw [nakEntry_datagram]
      exact pays other original isOriginal
  have served : ({ sender.processSack now sack with pacer := pacer }).retransmitsTaken ≠ [] :=
    retransmitsTaken_ne_nil queued stays affordable
  rw [assembleBatch_eq]
  exact Nat.lt_add_of_pos_right (List.length_pos_iff.mpr served)

end Sender

/-! ### Positions in the list of enqueued datagrams -/

/-- The placed datagrams are those at pairwise different positions. -/
def PlacedOnce (enqueued placed : List Bytes) : Prop :=
  ∃ seqs : List Nat, seqs.Nodup ∧ placed.map some = seqs.map (fun seq => enqueued[seq]?)

theorem PlacedOnce.grow {enqueued placed : List Bytes} (once : PlacedOnce enqueued placed)
    (more : List Bytes) : PlacedOnce (enqueued ++ more) placed := by
  obtain ⟨seqs, distinct, taken⟩ := once
  refine ⟨seqs, distinct, taken.trans (List.map_congr_left ?_)⟩
  intro seq member
  have listed : enqueued[seq]? ∈ placed.map some := by
    rw [taken]
    exact List.mem_map_of_mem member
  obtain ⟨packet, _, found⟩ := List.mem_map.mp listed
  rw [← found, List.getElem?_append_left (List.getElem?_eq_some_iff.mp found.symm).1]
  exact found

private theorem filterMap_eq_of_map_eq {seqs : List Nat} {packets : List Bytes}
    {read : Nat → Option Bytes} (same : seqs.map read = packets.map some) :
    seqs.filterMap read = packets := by
  calc seqs.filterMap read = (seqs.map read).filterMap id := by
        rw [List.filterMap_map]
        rfl
    _ = (packets.map some).filterMap id := by rw [same]
    _ = packets := by
        rw [List.filterMap_map]
        exact List.filterMap_some

theorem PlacedOnce.subperm {enqueued placed : List Bytes} (once : PlacedOnce enqueued placed) :
    placed.Subperm enqueued := by
  obtain ⟨seqs, distinct, taken⟩ := once
  have inRange : seqs ⊆ List.range enqueued.length := by
    intro seq member
    have listed : enqueued[seq]? ∈ placed.map some := by
      rw [taken]
      exact List.mem_map_of_mem member
    obtain ⟨packet, _, found⟩ := List.mem_map.mp listed
    exact List.mem_range.mpr (List.getElem?_eq_some_iff.mp found.symm).1
  have whole : (List.range enqueued.length).map (fun seq => enqueued[seq]?) =
      enqueued.map some := by
    apply List.ext_getElem?
    intro seq
    by_cases within : seq < enqueued.length
    · simp [within]
    · simp [Nat.not_lt.mp within]
  obtain ⟨ordered, permuted, part⟩ := distinct.subperm inRange
  refine ⟨ordered.filterMap (fun seq => enqueued[seq]?), ?_, ?_⟩
  · have kept := permuted.filterMap (fun seq => enqueued[seq]?)
    rw [filterMap_eq_of_map_eq taken.symm] at kept
    exact kept
  · have kept := part.filterMap (fun seq => enqueued[seq]?)
    rw [filterMap_eq_of_map_eq whole] at kept
    exact kept

namespace Transfer

variable {sessionId : UInt32} {stamp : Nat → UInt64} {transfer : Transfer}

theorem enqueued_getElem? {seq : Nat} {entry : InFlightEntry}
    (wired : Wired sessionId stamp transfer)
    (found : transfer.sender.inFlight.lookup seq = some entry) :
    (transfer.enqueued sessionId stamp)[seq]? = some entry.datagram := by
  obtain ⟨piece, placed, built⟩ := wired.tracks.original seq entry found
  rw [enqueued, List.getElem?_mapIdx, placed, Option.map_some, built]

theorem enqueued_enqueue (sessionId : UInt32) (stamp : Nat → UInt64) (transfer : Transfer)
    (now : Instant) (payload : Bytes) :
    ∃ more, (transfer.enqueue stamp now payload).enqueued sessionId stamp =
      transfer.enqueued sessionId stamp ++ more := by
  unfold enqueued
  rw [pieces_enqueue, List.mapIdx_append]
  exact ⟨_, rfl⟩

/-- A batch begun with nothing queued places only datagrams that were never
placed, if those already placed are acknowledged within the timeout. -/
theorem placedOnce_assembleBatch {placed : List Bytes} (wired : Wired sessionId stamp transfer)
    (quiet : transfer.sender.Quiet) (now : Instant)
    (once : PlacedOnce (transfer.enqueued sessionId stamp) placed)
    (prompt : ∀ stored, stored ∈ transfer.sender.inFlight.entries →
      stored.2.datagram ∈ placed →
        Instant.elapsed now stored.2.lastSent ≤ transfer.sender.stats.rto) :
    PlacedOnce (transfer.enqueued sessionId stamp)
      (placed ++ (transfer.sender.assembleBatch now).1.batch) := by
  obtain ⟨seqs, distinct, taken⟩ := once
  have stored : ∀ seq, seq ∈ transfer.sender.batchPlan now → seq ∈ transfer.sender.inFlight.keys :=
    fun _ => mem_keys_of_mem_batchPlan
  have unqueued : transfer.sender.requests.Nodup := by
    rw [quiet.requests]
    exact List.nodup_nil
  refine ⟨seqs ++ transfer.sender.batchPlan now, List.nodup_append.mpr ⟨distinct, ?_, ?_⟩, ?_⟩
  · exact batchPlan_nodup unqueued now
  · intro seq already other member same
    subst same
    obtain ⟨entry, found, late⟩ := quiet.mem_batchPlan member
    have listed : (transfer.enqueued sessionId stamp)[seq]? ∈ placed.map some := by
      rw [taken]
      exact List.mem_map_of_mem already
    rw [enqueued_getElem? wired found] at listed
    obtain ⟨packet, isPlaced, equal⟩ := List.mem_map.mp listed
    cases equal
    have stored := AList.mem_lookup_iff.mp found
    exact absurd (prompt ⟨seq, entry⟩ stored isPlaced) (Nat.not_le_of_lt late)
  · rw [List.map_append, List.map_append, taken, assembleBatch_batch, map_some_datagramsOf stored]
    refine congrArg (List.map _ seqs ++ ·) (List.map_congr_left ?_)
    intro seq member
    obtain ⟨entry, found, _⟩ := quiet.mem_batchPlan member
    rw [enqueued_getElem? wired found, found, Option.map_some]

theorem enqueued_handle (sessionId : UInt32) (transfer : Transfer) (iteration : Iteration)
    (clock : iteration.tsUs = stamp) :
    ∃ more, (transfer.handle iteration).enqueued sessionId stamp =
      transfer.enqueued sessionId stamp ++ more := by
  unfold Transfer.handle
  split
  · exact ⟨[], (List.append_nil _).symm⟩
  · exact ⟨[], (List.append_nil _).symm⟩
  · rw [clock]
    exact enqueued_enqueue _ _ _ _ _
  · exact ⟨[], (List.append_nil _).symm⟩

end Transfer

/-! ### Runs in which every SACK covers what is in flight -/

namespace Watched

variable {sessionId : UInt32} {stamp : Nat → UInt64} {watched : Watched}

structure Calm (sessionId : UInt32) (stamp : Nat → UInt64) (watched : Watched) : Prop where
  wired : Transfer.Wired sessionId stamp watched.transfer
  quiet : watched.transfer.sender.Quiet
  once : PlacedOnce (watched.transfer.enqueued sessionId stamp) watched.placed

theorem calm_initial (now : Instant) : Calm sessionId stamp (initial sessionId now) where
  wired := Transfer.wired_initial now
  quiet := quiet_new sessionId now
  once := ⟨[], List.nodup_nil, rfl⟩

theorem Calm.handle (calm : Calm sessionId stamp watched) (iteration : Iteration)
    (covered : watched.Covered (.iterate iteration)) :
    (watched.transfer.handle iteration).sender.Quiet := by
  unfold Transfer.handle
  split
  · rename_i event
    refine ⟨?_, ?_, ?_⟩ <;> simp only [Sender.handleEvent, event]
    · exact calm.quiet.urgent
    · exact calm.quiet.normal
    · exact calm.quiet.uncounted
  · rename_i sack event
    refine calm.quiet.processSack _ sack (covered sack ?_)
    simp only [TransferAction.sack?, event]
  · exact calm.quiet.enqueueData _ _ _
  · exact calm.quiet

theorem Calm.act (calm : Calm sessionId stamp watched) (action : TransferAction)
    (lossFree : LossFree stamp watched action) (covered : watched.Covered action) :
    Calm sessionId stamp (watched.act stamp action) := by
  have wired := calm.wired.act action lossFree.allowed
  have unplaced : watched.transfer.batchStart action = none →
      ∀ more, (watched.act stamp action).transfer.enqueued sessionId stamp =
        watched.transfer.enqueued sessionId stamp ++ more →
      PlacedOnce ((watched.act stamp action).transfer.enqueued sessionId stamp)
        (watched.act stamp action).placed := by
    intro noBatch more grown
    rw [grown]
    simp only [Watched.act, Transfer.batchOf, noBatch, List.append_nil]
    exact calm.once.grow more
  have same := (List.append_nil (watched.transfer.enqueued sessionId stamp)).symm
  cases action with
  | enqueueData now payload =>
      obtain ⟨more, grown⟩ :=
        Transfer.enqueued_enqueue sessionId stamp watched.transfer now payload
      exact ⟨wired, calm.quiet.enqueueData _ _ _, unplaced rfl more grown⟩
  | processSack now sack =>
      exact ⟨wired, calm.quiet.processSack now sack (covered sack rfl), unplaced rfl [] same⟩
  | sendBatch now accepted =>
      exact ⟨wired, calm.quiet.sendBatch now accepted,
        Transfer.placedOnce_assembleBatch calm.wired calm.quiet now calm.once lossFree.prompt⟩
  | iterate iteration =>
      have clock := lossFree.allowed.2.1
      have handled := calm.handle iteration covered
      have quiet : ((watched.transfer.handle iteration).refill
          iteration.refillNow).sender.Quiet :=
        ⟨handled.urgent, handled.normal, handled.uncounted⟩
      have refilled : Transfer.Wired sessionId stamp
          ((watched.transfer.handle iteration).refill iteration.refillNow) :=
        (calm.wired.handle iteration clock).of_sameSender _ rfl rfl (List.Perm.refl _)
      obtain ⟨more, grown⟩ :=
        Transfer.enqueued_handle sessionId watched.transfer iteration clock
      have once : PlacedOnce (((watched.transfer.handle iteration).refill
          iteration.refillNow).enqueued sessionId stamp) watched.placed := by
        change PlacedOnce ((watched.transfer.handle iteration).enqueued _ _) _
        rw [grown]
        exact calm.once.grow more
      exact ⟨wired, quiet.sendBatch _ _,
        Transfer.placedOnce_assembleBatch refilled quiet iteration.batchNow once
          lossFree.prompt⟩
  | processDatagram nowUs packet => exact ⟨wired, calm.quiet, unplaced rfl [] same⟩
  | heartbeat nowUs => exact ⟨wired, calm.quiet, unplaced rfl [] same⟩
  | rehash inFlight =>
      exact ⟨wired, ⟨calm.quiet.urgent, calm.quiet.normal, calm.quiet.uncounted⟩,
        unplaced rfl [] same⟩
  | updateStats stats =>
      have uncounted := (lossFree.counter stats rfl).trans calm.quiet.uncounted
      exact ⟨wired, ⟨calm.quiet.urgent, calm.quiet.normal, uncounted⟩, unplaced rfl [] same⟩

/-- In every run over a network that loses and reorders nothing, in which each
SACK acknowledges all that is in flight when it is processed, nothing is ever
retransmitted or placed in a batch twice. -/
theorem sendsOnce_of_covered (sessionId : UInt32) (stamp : Nat → UInt64) (now : Instant)
    (actions : List TransferAction)
    (lossFree : EachStep (act stamp) (LossFree stamp) (initial sessionId now) actions)
    (covered : EachStep (act stamp) Covered (initial sessionId now) actions)
    (before : List TransferAction) (reached : before <+: actions) :
    SendsOnce sessionId stamp ((initial sessionId now).run stamp before) := by
  have each := (lossFree.and covered).of_isPrefix reached
  have calm : Calm sessionId stamp ((initial sessionId now).run stamp before) := by
    refine each.invariant ?_ (calm_initial now)
    intro watched action holds calm
    exact calm.act action holds.1 holds.2
  exact ⟨calm.quiet.uncounted, calm.once.subperm⟩

/-- A pass of the run loop at a given time in which the kernel takes one
datagram. -/
def passAt (now : Instant) (event : RunEvent) : TransferAction :=
  .iterate
    { event := event, tsUs := fun _ => 0, eventNow := now, refillNow := now,
      batchNow := now, accepted := 1 }

theorem lossFree_passAt (now : Instant) (event : RunEvent)
    (running : watched.transfer.exited = false)
    (inOrder : ∀ sack, event = .sack sack →
      watched.transfer.sacks[watched.processed]? = some sack)
    (prompt : watched.Prompt (passAt now event)) :
    LossFree (fun _ => 0) watched (passAt now event) where
  allowed := ⟨running, rfl, fun sack same => List.mem_of_getElem? (inOrder sack same)⟩
  dataInOrder := by
    intro packet impossible
    cases impossible
  sacksInOrder := by
    intro sack same
    apply inOrder
    cases event with
    | sack payload =>
        cases same
        rfl
    | probeTick => cases same
    | command cmd => cases same
  prompt := prompt
  counter := by
    intro stats impossible
    cases impossible

theorem lossFree_processDatagram (nowUs : UInt64) (packet : Bytes)
    (inOrder : watched.transfer.wire[watched.arrived]? = some packet) :
    LossFree stamp watched (.processDatagram nowUs packet) where
  allowed := List.mem_of_getElem? inOrder
  dataInOrder := by
    intro other same
    cases same
    exact inOrder
  sacksInOrder := by
    intro sack impossible
    cases impossible
  prompt := trivial
  counter := by
    intro stats impossible
    cases impossible

theorem lossFree_heartbeat (nowUs : UInt64) : LossFree stamp watched (.heartbeat nowUs) where
  allowed := trivial
  dataInOrder := by
    intro packet impossible
    cases impossible
  sacksInOrder := by
    intro sack impossible
    cases impossible
  prompt := trivial
  counter := by
    intro stats impossible
    cases impossible

theorem lossFree_firstPass :
    LossFree (fun _ => 0) (initial 7 0) (passAt 0 (.command (.sendChunk [1, 2, 3]))) := by
  refine lossFree_passAt _ _ rfl (fun sack impossible => nomatch impossible) ?_
  change ∀ stored, _ → _
  decide +kernel

/-- A chunk is sent, arrives and is acknowledged one millisecond later. -/
def acknowledgedRun : List TransferAction :=
  [passAt 0 (.command (.sendChunk [1, 2, 3])),
    .processDatagram 0 (dataDatagram 7 0 0 [1, 2, 3]),
    .heartbeat 0,
    passAt (Duration.fromMillis 1) (.sack ((SackManager.new 0).onPacketReceived 0).payload)]

theorem sendsOnce_of_covered_acknowledgedRun :
    SendsOnce 7 (fun _ => 0) ((initial 7 0).run (fun _ => 0) acknowledgedRun) := by
  refine sendsOnce_of_covered 7 (fun _ => 0) 0 acknowledgedRun ⟨?_, ?_, ?_, ?_, trivial⟩
    ⟨?_, ?_, ?_, ?_, trivial⟩ acknowledgedRun (List.prefix_refl _)
  · exact lossFree_firstPass
  · exact lossFree_processDatagram _ _ (by decide +kernel)
  · exact lossFree_heartbeat _
  · refine lossFree_passAt _ _ (by decide +kernel) ?_ ?_
    · intro sack same
      cases same
      decide +kernel
    · change ∀ stored, _ → _
      decide +kernel
  · exact fun sack impossible => nomatch impossible
  · exact fun sack impossible => nomatch impossible
  · exact fun sack impossible => nomatch impossible
  · intro sack same
    cases same
    decide +kernel

/-- The same with a heartbeat before the datagram arrives. -/
def heartbeatRun : List TransferAction :=
  [passAt 0 (.command (.sendChunk [1, 2, 3])),
    .heartbeat 0,
    passAt (Duration.fromMillis 1) (.sack (SackManager.new 0).payload),
    .processDatagram 0 (dataDatagram 7 0 0 [1, 2, 3]),
    .heartbeat 0,
    passAt (Duration.fromMillis 2) (.sack ((SackManager.new 0).onPacketReceived 0).payload)]

theorem lossFree_heartbeatRun :
    EachStep (act (fun _ => 0)) (LossFree (fun _ => 0)) (initial 7 0) heartbeatRun := by
  refine ⟨lossFree_firstPass, lossFree_heartbeat _, ?_, ?_, lossFree_heartbeat _, ?_, trivial⟩
  · refine lossFree_passAt _ _ (by decide +kernel) ?_ ?_
    · intro sack same
      cases same
      decide +kernel
    · change ∀ stored, _ → _
      decide +kernel
  · exact lossFree_processDatagram _ _ (by decide +kernel)
  · refine lossFree_passAt _ _ (by decide +kernel) ?_ ?_
    · intro sack same
      cases same
      decide +kernel
    · change ∀ stored, _ → _
      decide +kernel

/-- A heartbeat that overtakes the only datagram makes the sender send it again,
although nothing is lost and the acknowledgement comes after two milliseconds. -/
theorem heartbeatRun_resends :
    ¬ ∀ (sessionId : UInt32) (stamp : Nat → UInt64) (now : Instant)
      (actions : List TransferAction),
      EachStep (act stamp) (LossFree stamp) (initial sessionId now) actions →
      ∀ before, before <+: actions →
        SendsOnce sessionId stamp ((initial sessionId now).run stamp before) := by
  intro once
  obtain ⟨uncounted, _⟩ := once 7 (fun _ => 0) 0 heartbeatRun lossFree_heartbeatRun heartbeatRun
    (List.prefix_refl _)
  revert uncounted
  decide +kernel

end Watched

end Udpix.Protocol

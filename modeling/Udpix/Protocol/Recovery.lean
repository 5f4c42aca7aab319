/-
What a transfer can rely on when it recovers from losses.

The bucket runs at the floor rate or faster, so a second fills it.  A number
that was once reported stays in the bitmap of the receiver.  The steps that
lose nothing and submit nothing are a relation of their own, which carries the
clock of the sender.
-/

import Udpix.Protocol.PacingBound
import Udpix.Protocol.Pacing
import Udpix.Protocol.Retransmission
import Udpix.Protocol.Segmentation

namespace Udpix.Protocol

open Sender Unwinding

namespace BandwidthProfiler

theorem floor_le_of_mem {rate : Nat} (listed : rate ∈ PROBE_STEPS_BPS) : FLOOR_RATE_BPS ≤ rate := by
  have slowest : ∀ step, step ∈ PROBE_STEPS_BPS → FLOOR_RATE_BPS ≤ step := by decide
  exact slowest rate listed

theorem floor_le_currentRateBps {profiler : BandwidthProfiler} (known : profiler.RateInTable) :
    FLOOR_RATE_BPS ≤ profiler.currentRateBps := by
  by_cases throttled : profiler.phase = .throttling
  · rw [currentRateBps, throttled]
  · exact floor_le_of_mem (known.2 throttled)

end BandwidthProfiler

/-! ### The bucket never dries up for good -/

namespace Sender

/-- The bucket runs at the floor rate or faster, and the prober sets no rate
below it. -/
structure Paced (sender : Sender) : Prop where
  filled : sender.pacer.Filled
  rate : (FLOOR_RATE_BPS : ℚ) / 8 ≤ sender.pacer.rateBytesPerSec
  known : sender.profiler.RateInTable

theorem paced_new (sessionId : UInt32) (now : Instant) : (new sessionId now).Paced where
  filled := TokenBucket.filled_new now
  rate := by
    change ((5000000 : ℕ) : ℚ) / 8 ≤ ((10000000 : ℕ) : ℚ) / 8
    norm_num
  known := BandwidthProfiler.rateInTable_new now

theorem batchInvariant_filled (now : Instant) :
    BatchInvariant now (fun state => state.pacer.Filled) where
  transmitted := by
    intro state seq entry sent _ granted filled
    rw [transmit] at granted
    cases consumed : state.pacer.tryConsume entry.datagram.length with
    | none =>
        rw [consumed] at granted
        cases granted
    | some pacer =>
        rw [consumed] at granted
        cases granted
        have spent := filled.apply (.tryConsume entry.datagram.length)
        rw [TokenBucket.apply, consumed] at spent
        exact spent
  counted := fun _ _ filled => filled

theorem Paced.sendBatch {sender : Sender} (paced : sender.Paced) (now : Instant)
    (accepted : Int) : (sender.sendBatch now accepted).1.Paced := by
  obtain ⟨rate, _, known⟩ := sendBatch_rate sender now accepted
  refine ⟨?_, ?_, known paced.known⟩
  · rw [(sendBatch_takesOver sender now accepted).pacer]
    exact (batchInvariant_filled now).assembleBatch sender paced.filled
  · rw [rate]
    exact paced.rate

theorem Paced.probe {sender : Sender} (paced : sender.Paced) (now : Instant) :
    (sender.probe now).Paced := by
  have known := BandwidthProfiler.rateInTable_evaluateProbe sender.profiler now paced.known
  rcases BandwidthProfiler.evaluateProbe_reports sender.profiler now with silent | reported
  · have same : sender.probe now = sender := by
      rw [Sender.probe, handleEvent]
      dsimp only
      rw [silent]
    rw [same]
    exact paced
  · have set : (sender.probe now).pacer = sender.pacer.setRate
        (sender.profiler.evaluateProbe now).1.currentRateBps := by
      rw [Sender.probe, handleEvent]
      dsimp only
      rw [reported]
    refine ⟨?_, ?_, known⟩
    · rw [set]
      exact paced.filled.apply (.setRate _)
    · rw [set, TokenBucket.setRate_rate]
      have above := BandwidthProfiler.floor_le_currentRateBps known
      have cast : (FLOOR_RATE_BPS : ℚ) ≤
          ((sender.profiler.evaluateProbe now).1.currentRateBps : ℚ) := Nat.cast_le.mpr above
      linarith

theorem Paced.act {sender : Sender} (paced : sender.Paced) (action : SenderAction) :
    (sender.act action).Paced := by
  cases action with
  | enqueueData tsUs now payload =>
      obtain ⟨samePacer, sameProfiler⟩ := enqueueData_pacer sender tsUs now payload
      refine ⟨?_, ?_, ?_⟩
      · rw [Sender.act, samePacer]
        exact paced.filled
      · rw [Sender.act, samePacer]
        exact paced.rate
      · rw [Sender.act, sameProfiler]
        exact paced.known
  | processSack now sack =>
      exact ⟨paced.filled, paced.rate,
        BandwidthProfiler.rateInTable_onBytesAcked _ _ _ paced.known⟩
  | sendBatch now accepted => exact paced.sendBatch now accepted
  | refill now => exact ⟨paced.filled.apply (.refill now), paced.rate, paced.known⟩
  | probeTick now => exact paced.probe now
  | rehash inFlight => exact ⟨paced.filled, paced.rate, paced.known⟩
  | updateStats stats => exact ⟨paced.filled, paced.rate, paced.known⟩

theorem Paced.tokens_refill {sender : Sender} (paced : sender.Paced) {now : Instant}
    (waited : sender.pacer.lastRefill + 1000000000 ≤ now) :
    (sender.pacer.refill now).tokens = 3000 := by
  have elapsed : (1000000000 : ℚ) ≤ (Instant.elapsed now sender.pacer.lastRefill : ℚ) := by
    have nanos : 1000000000 ≤ Instant.elapsed now sender.pacer.lastRefill :=
      Int.toNat_le_toNat (Int.le_sub_left_of_add_le waited)
    exact_mod_cast nanos
  have second : 1 ≤ (Instant.elapsed now sender.pacer.lastRefill : ℚ) / 1000000000 := by
    linarith
  have rate : 3000 ≤ sender.pacer.rateBytesPerSec := by
    have floor := paced.rate
    rw [FLOOR_RATE_BPS] at floor
    norm_num at floor
    linarith
  have accrued : 3000 ≤ sender.pacer.rateBytesPerSec *
      ((Instant.elapsed now sender.pacer.lastRefill : ℚ) / 1000000000) := by
    nlinarith
  have lower := paced.filled.lower
  rw [TokenBucket.refill]
  dsimp only
  rw [paced.filled.capacity]
  exact min_eq_right (by push_cast; linarith)

/-- A request for a packet in flight is served by a batch, or the batch serves
another one and leaves fewer requests. -/
theorem sendBatch_serves (sender : Sender) {seq : Nat} (now : Instant)
    (queued : seq ∈ sender.requests) (present : seq ∈ sender.inFlight.keys)
    (pays : ∀ other, other ∈ sender.inFlight.keys →
      size sender.inFlight other ≤ sender.pacer.tokens) :
    (∃ entry, sender.inFlight.lookup seq = some entry ∧
        entry.datagram ∈ (sender.sendBatch now BATCH_SIZE).2) ∨
      (seq ∈ (sender.sendBatch now BATCH_SIZE).1.requests ∧
        (sender.sendBatch now BATCH_SIZE).1.requests.length < sender.requests.length) := by
  obtain ⟨gone, absent, conserved⟩ := requests_sendBatch sender now BATCH_SIZE
  by_cases taken : seq ∈ sender.retransmitsTaken
  · left
    obtain ⟨entry, found⟩ := (AssocMap.mem_keys_iff_lookup _ seq).mp present
    refine ⟨entry, found, ?_⟩
    have planned : seq ∈ sender.batchPlan now := List.mem_append_left _ taken
    have placed : entry.datagram ∈ (sender.assembleBatch now).1.batch := by
      rw [assembleBatch_batch]
      exact List.mem_filterMap.mpr ⟨seq, planned, by rw [found, Option.map_some]⟩
    have short : (sender.assembleBatch now).1.batch.length ≤ BATCH_SIZE := by
      rw [assembleBatch_batch, length_datagramsOf (fun _ => mem_keys_of_mem_batchPlan)]
      exact length_batchPlan_le sender now
    have whole : acceptedBatch BATCH_SIZE (sender.assembleBatch now).1.batch =
        (sender.assembleBatch now).1.batch := List.take_of_length_le short
    simp only [sendBatch]
    split
    · rename_i empty
      rw [List.isEmpty_iff.mp empty] at placed
      cases placed
    · rw [whole]
      exact placed
  · right
    constructor
    · rcases List.mem_append.mp (conserved.subset queued) with left | served
      · exact left
      · rcases List.mem_append.mp served with again | dropped
        · exact absurd again taken
        · exact absurd present (absent seq dropped)
    · have some := List.length_pos_iff.mpr (retransmitsTaken_ne_nil queued present pays)
      have lengths := conserved.length_eq
      rw [List.length_append, List.length_append] at lengths
      omega

end Sender

namespace Transfer

variable {sessionId : UInt32} {stamp : Nat → UInt64} {transfer : Transfer}

/-! ### The sender inside a transfer -/

theorem possible_passActions (sender : Sender) (iteration : Iteration) :
    sender.Possible (passActions iteration) := by
  rw [Sender.Possible, passActions]
  cases iteration.event with
  | probeTick => exact ⟨trivial, trivial, trivial, trivial⟩
  | sack payload => exact ⟨trivial, trivial, trivial, trivial⟩
  | command cmd =>
      cases cmd with
      | sendChunk payload => exact ⟨trivial, trivial, trivial, trivial⟩
      | shutdown => exact ⟨trivial, trivial, trivial⟩

theorem iterate_sender (transfer : Transfer) (iteration : Iteration) :
    (transfer.iterate iteration).sender = (transfer.sender.iterate iteration).1 := by
  rw [Transfer.iterate, Transfer.handle, Sender.iterate, Sender.handleEvent]
  cases event : iteration.event with
  | probeTick =>
      simp only [Transfer.dispatch, Transfer.refill]
  | sack payload => rfl
  | command cmd =>
      cases cmd with
      | sendChunk payload => rfl
      | shutdown => rfl

theorem Step.runs_sender {next : Transfer} (step : Step stamp transfer next) :
    ∃ actions, transfer.sender.Possible actions ∧
      next.sender = transfer.sender.runActions actions := by
  cases step with
  | enqueueData now payload running =>
      exact ⟨[.enqueueData stamp now payload], ⟨trivial, trivial⟩, rfl⟩
  | processSack now sack running produced =>
      exact ⟨[.processSack now sack], ⟨trivial, trivial⟩, rfl⟩
  | sendBatch now accepted running => exact ⟨[.sendBatch now accepted], ⟨trivial, trivial⟩, rfl⟩
  | iterate iteration running clock produced =>
      refine ⟨passActions iteration, possible_passActions transfer.sender iteration, ?_⟩
      rw [runActions_passActions, iterate_sender]
  | processDatagram nowUs packet emitted => exact ⟨[], trivial, rfl⟩
  | heartbeat nowUs => exact ⟨[], trivial, rfl⟩
  | rehash inFlight sameEntries => exact ⟨[.rehash inFlight], ⟨sameEntries, trivial⟩, rfl⟩
  | updateStats stats => exact ⟨[.updateStats stats], ⟨trivial, trivial⟩, rfl⟩

theorem Step.paced {next : Transfer} (step : Step stamp transfer next)
    (paced : transfer.sender.Paced) : next.sender.Paced := by
  obtain ⟨actions, possible, ran⟩ := step.runs_sender
  rw [ran]
  exact possible.invariant (fun _ action _ current => current.act action) paced

/-! ### What was once reported stays received -/

/-- The bitmap still holds every number that a SACK has reported or that an
acknowledgement has removed. -/
structure Remembers (transfer : Transfer) : Prop where
  reported : ∀ sack, sack ∈ transfer.sacks → ∀ seq, sack.isReceived seq = true →
    transfer.receiver.sackMgr.payload.isReceived seq = true
  removed : ∀ seq, seq ∈ transfer.acked →
    transfer.receiver.sackMgr.payload.isReceived seq = true

theorem remembers_initial (now : Instant) : (initial sessionId now).Remembers where
  reported := by
    intro sack member
    cases member
  removed := by
    intro seq member
    cases member

theorem isReceived_of_isAcked {sack : SackPayload} {seq : Nat} (acked : isAcked sack seq = true) :
    sack.isReceived seq = true := by
  rcases Bool.or_eq_true_iff.mp acked with below | marked
  · exact sack.isReceived_of_lt seq (of_decide_eq_true below)
  · exact marked

theorem Remembers.acknowledge (remembers : transfer.Remembers) (now : Instant)
    {sack : SackPayload} (produced : sack ∈ transfer.sacks) :
    (transfer.acknowledge now sack).Remembers where
  reported := remembers.reported
  removed := by
    intro seq member
    rcases List.mem_append.mp member with earlier | fresh
    · exact remembers.removed seq earlier
    · have acked : isAcked sack seq = true := (List.mem_filter.mp fresh).2
      exact remembers.reported sack produced seq (isReceived_of_isAcked acked)

theorem Remembers.handle (remembers : transfer.Remembers) (iteration : Iteration)
    (produced : ∀ sack, iteration.event = .sack sack → sack ∈ transfer.sacks) :
    (transfer.handle iteration).Remembers := by
  rw [Transfer.handle]
  split
  · exact ⟨remembers.reported, remembers.removed⟩
  · rename_i sack event
    exact remembers.acknowledge _ (produced sack event)
  · exact ⟨remembers.reported, remembers.removed⟩
  · exact ⟨remembers.reported, remembers.removed⟩

theorem Remembers.of_apply (remembers : transfer.Remembers) {next : Transfer} (op : SackOp)
    (applied : next.receiver.sackMgr = transfer.receiver.sackMgr.apply op)
    (sameAcked : next.acked = transfer.acked)
    (sacks : ∀ sack, sack ∈ next.sacks →
      sack ∈ transfer.sacks ∨ sack = transfer.receiver.sackMgr.payload) : next.Remembers := by
  have kept := (SackManager.apply_mono transfer.receiver.sackMgr op).2
  constructor
  · intro sack member seq received
    rw [applied]
    apply kept
    rcases sacks sack member with earlier | rfl
    · exact remembers.reported sack earlier seq received
    · exact received
  · intro seq member
    rw [sameAcked] at member
    rw [applied]
    exact kept seq (remembers.removed seq member)

theorem Step.remembers {next : Transfer} (step : Step stamp transfer next)
    (sound : Sound sessionId stamp transfer) (bounded : transfer.pieces.length < 2 ^ 64)
    (remembers : transfer.Remembers) : next.Remembers := by
  cases step with
  | enqueueData now payload running => exact ⟨remembers.reported, remembers.removed⟩
  | processSack now sack running produced => exact remembers.acknowledge now produced
  | sendBatch now accepted running => exact ⟨remembers.reported, remembers.removed⟩
  | iterate iteration running clock produced =>
      have handled := remembers.handle iteration produced
      exact ⟨handled.reported, handled.removed⟩
  | processDatagram nowUs packet emitted =>
      obtain ⟨seq, piece, placed, built⟩ := sound.onWire packet emitted
      have seqLt : seq < 2 ^ 64 :=
        Nat.lt_trans (List.getElem?_eq_some_iff.mp placed).1 bounded
      subst built
      rw [deliver_eq sound nowUs seq piece seqLt (length_piece placed)]
      exact remembers.of_apply (.arrive seq) rfl rfl (fun _ member => .inl member)
  | heartbeat nowUs =>
      apply remembers.of_apply .tick
      · rfl
      · rfl
      · intro sack member
        rcases List.mem_append.mp member with earlier | last
        · exact .inl earlier
        · rw [List.mem_singleton.mp last]
          exact .inr (SackManager.tick_payload _)
  | rehash inFlight sameEntries => exact ⟨remembers.reported, remembers.removed⟩
  | updateStats stats => exact ⟨remembers.reported, remembers.removed⟩

/-- What the way to the end relies on. -/
structure Healthy (sessionId : UInt32) (stamp : Nat → UInt64) (transfer : Transfer) : Prop where
  sound : Sound sessionId stamp transfer
  remembers : transfer.Remembers
  paced : transfer.sender.Paced
  bounded : transfer.pieces.length < 2 ^ 64

theorem Healthy.step (healthy : Healthy sessionId stamp transfer) {next : Transfer}
    (step : Step stamp transfer next) (bounded : next.pieces.length < 2 ^ 64) :
    Healthy sessionId stamp next where
  sound := healthy.sound.step healthy.bounded step
  remembers := step.remembers healthy.sound healthy.bounded healthy.remembers
  paced := step.paced healthy.paced
  bounded := bounded

theorem healthy_of_reachable {now : Instant} (reachable : Reachable sessionId stamp now transfer)
    (bounded : transfer.pieces.length < 2 ^ 64) : Healthy sessionId stamp transfer := by
  rw [Reachable] at reachable
  induction reachable with
  | refl => exact ⟨sound_initial now, remembers_initial now, paced_new sessionId now, bounded⟩
  | tail _ step ih =>
      have earlier := step.pieces_length_le
      exact (ih (by omega)).step step bounded

/-! ### Steps that lose nothing and submit nothing -/

structure Timed where
  clock : Instant
  transfer : Transfer

/-- A pass of the loop at one reading of the clock, in which the kernel takes
the whole batch. -/
def passWith (stamp : Nat → UInt64) (now : Instant) (event : RunEvent) : Iteration :=
  { event := event
    tsUs := stamp
    eventNow := now
    refillNow := now
    batchNow := now
    accepted := BATCH_SIZE }

inductive Recovery (stamp : Nat → UInt64) : Timed → Timed → Prop
  | pass (clock now : Instant) (transfer : Transfer) (event : RunEvent)
      (running : transfer.exited = false) (later : clock ≤ now)
      (produced : ∀ sack, event = .sack sack → sack ∈ transfer.sacks)
      (nothingNew : ∀ cmd, event ≠ .command cmd) :
      Recovery stamp ⟨clock, transfer⟩ ⟨now, transfer.iterate (passWith stamp now event)⟩
  | processDatagram (clock : Instant) (transfer : Transfer) (nowUs : UInt64) (packet : Bytes)
      (emitted : packet ∈ transfer.wire) :
      Recovery stamp ⟨clock, transfer⟩ ⟨clock, transfer.deliver nowUs packet⟩
  | heartbeat (clock : Instant) (transfer : Transfer) (nowUs : UInt64) :
      Recovery stamp ⟨clock, transfer⟩ ⟨clock, transfer.heartbeat nowUs⟩

theorem Recovery.step {before after : Timed} (recovery : Recovery stamp before after) :
    Step stamp before.transfer after.transfer := by
  cases recovery with
  | pass clock now transfer event running later produced nothingNew =>
      exact .iterate transfer (passWith stamp now event) running rfl produced
  | processDatagram clock transfer nowUs packet emitted =>
      exact .processDatagram transfer nowUs packet emitted
  | heartbeat clock transfer nowUs => exact .heartbeat transfer nowUs

/-- What such steps leave alone, and that the loop goes on while something is in
flight. -/
structure Continues (before after : Transfer) : Prop where
  submitted : after.submitted = before.submitted
  requested : after.shutdownRequested = before.shutdownRequested
  keys : after.sender.inFlight.keys ⊆ before.sender.inFlight.keys
  running : before.exited = false → after.sender.inFlight.keys ≠ [] → after.exited = false
  exits : before.exited = false → after.exited = true → after.shutdownRequested = true

theorem Continues.refl (transfer : Transfer) : Continues transfer transfer where
  submitted := rfl
  requested := rfl
  keys := List.Subset.refl _
  running := fun running _ => running
  exits := by
    intro running exited
    rw [running] at exited
    cases exited

theorem Continues.trans {before middle after : Transfer} (first : Continues before middle)
    (second : Continues middle after) : Continues before after where
  submitted := second.submitted.trans first.submitted
  requested := second.requested.trans first.requested
  keys := List.Subset.trans second.keys first.keys
  running := by
    intro running left
    refine second.running (first.running running ?_) left
    intro empty
    have none := second.keys
    rw [empty] at none
    exact left (List.subset_nil.mp none)
  exits := by
    intro running exited
    cases left : middle.exited with
    | false => exact second.exits left exited
    | true =>
        rw [second.requested]
        exact first.exits running left

/-- The event of a pass without a command: it takes nothing up, and drops only
what a SACK covers. -/
structure Handles (event : RunEvent) (before after : Transfer) : Prop where
  submitted : after.submitted = before.submitted
  requested : after.shutdownRequested = before.shutdownRequested
  wire : after.wire = before.wire
  lastRefill : after.sender.pacer.lastRefill = before.sender.pacer.lastRefill
  paced : before.sender.Paced → after.sender.Paced
  keys : ∀ seq, seq ∈ after.sender.inFlight.keys ↔ seq ∈ before.sender.inFlight.keys ∧
    ∀ sack, event = .sack sack → isAcked sack seq = false
  requests : ∀ seq, seq ∈ before.sender.requests → seq ∈ after.sender.requests
  asks : (∃ sack, event = .sack sack) → ∀ seq, seq ∈ after.sender.inFlight.keys →
    seq ∈ after.sender.requests
  length : event = .probeTick →
    after.sender.requests.length = before.sender.requests.length

theorem handles_passWith (stamp : Nat → UInt64) (transfer : Transfer) (now : Instant)
    (event : RunEvent) (nothingNew : ∀ cmd, event ≠ .command cmd) :
    Handles event transfer (transfer.handle (passWith stamp now event)) := by
  cases event with
  | probeTick =>
      exact
        { submitted := rfl
          requested := rfl
          wire := rfl
          lastRefill := by
            change (transfer.sender.probe now).pacer.lastRefill = _
            rw [Sender.probe, handleEvent]
            dsimp only
            cases (transfer.sender.profiler.evaluateProbe now).2 with
            | some rate => rfl
            | none => rfl
          paced := fun paced => paced.probe now
          keys := fun seq => ⟨fun member => ⟨member, fun _ impossible => nomatch impossible⟩,
            fun both => both.1⟩
          requests := fun _ member => member
          asks := by
            rintro ⟨sack, impossible⟩
            cases impossible
          length := fun _ => rfl }
  | sack sack =>
      have requests := requests_processSack transfer.sender now sack
      refine
        { submitted := rfl
          requested := rfl
          wire := rfl
          lastRefill := rfl
          paced := fun paced => paced.act (.processSack now sack)
          keys := ?_
          requests := ?_
          asks := ?_
          length := ?_ }
      · intro seq
        refine (mem_keys_processSack transfer.sender now sack seq).trans (and_congr_right ?_)
        intro _
        constructor
        · intro missing other same
          cases same
          exact missing
        · intro missing
          exact missing sack rfl
      · intro seq member
        exact requests.symm.subset (List.mem_append_left _ member)
      · intro _ seq member
        exact requests.symm.subset (List.mem_append_right _ member)
      · intro impossible
        cases impossible
  | command cmd => exact absurd rfl (nothingNew cmd)

theorem iterate_keys (stamp : Nat → UInt64) (transfer : Transfer) (now : Instant)
    (event : RunEvent) :
    (transfer.iterate (passWith stamp now event)).sender.inFlight.keys =
      (transfer.handle (passWith stamp now event)).sender.inFlight.keys :=
  (sendBatch_assembling _ _ _).1

theorem pieces_of_submitted {before after : Transfer}
    (same : after.submitted = before.submitted) : after.pieces = before.pieces := by
  rw [pieces, pieces, same]

theorem Recovery.continues {before after : Timed} (recovery : Recovery stamp before after) :
    Continues before.transfer after.transfer := by
  cases recovery with
  | pass clock now transfer event running later produced nothingNew =>
      have handled := handles_passWith stamp transfer now event nothingNew
      refine ⟨handled.submitted, handled.requested, ?_, ?_, ?_⟩
      · intro seq member
        change seq ∈ (transfer.iterate (passWith stamp now event)).sender.inFlight.keys at member
        rw [iterate_keys, handled.keys] at member
        exact member.1
      · intro _ left
        have nonempty : (transfer.iterate (passWith stamp now event)).sender.inFlight.keys.isEmpty =
            false := List.isEmpty_eq_false_iff.mpr left
        exact Bool.and_eq_false_iff.mpr (.inr nonempty)
      · intro _ exited
        exact (Bool.and_eq_true_iff.mp exited).1
  | processDatagram clock transfer nowUs packet emitted =>
      have same := Continues.refl transfer
      exact ⟨rfl, rfl, same.keys, same.running, same.exits⟩
  | heartbeat clock transfer nowUs =>
      have same := Continues.refl transfer
      exact ⟨rfl, rfl, same.keys, same.running, same.exits⟩

theorem continues_of_recovers {before after : Timed}
    (recovers : Relation.ReflTransGen (Recovery stamp) before after) :
    Continues before.transfer after.transfer := by
  induction recovers with
  | refl => exact Continues.refl _
  | tail _ recovery ih => exact ih.trans recovery.continues

theorem Healthy.recovers {before after : Timed}
    (healthy : Healthy sessionId stamp before.transfer)
    (recovers : Relation.ReflTransGen (Recovery stamp) before after) :
    Healthy sessionId stamp after.transfer := by
  induction recovers with
  | refl => exact healthy
  | tail _ recovery ih =>
      have same := pieces_of_submitted recovery.continues.submitted
      refine ih.step recovery.step ?_
      rw [same]
      exact ih.bounded

end Transfer

end Udpix.Protocol

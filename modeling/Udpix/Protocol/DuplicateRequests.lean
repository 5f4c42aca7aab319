/-
Requests that are made twice.

Every SACK pushes a request for every packet that it leaves in flight, whether
or not the request of the SACK before is still waiting.  So a number is queued
once as long as each SACK comes when the requests it would repeat are served,
and twice otherwise.
-/

import Udpix.Protocol.SenderRuns

namespace Udpix.Protocol

open Unwinding

namespace Sender

/-- A number waits at most once, and no batch holds a datagram twice.  The
header of a datagram has 64 bits for the number. -/
structure NoDuplicates (sender : Sender) : Prop where
  requests : sender.requests.Nodup
  batch : sender.nextSeq ≤ 2 ^ 64 → ∀ now, (sender.assembleBatch now).1.batch.Nodup

/-- A SACK reports only packets that no request waits for. -/
def ReportsUnqueued (sender : Sender) : SenderAction → Prop
  | .processSack _ sack => ∀ seq, seq ∈ sender.inFlight.keys → isAcked sack seq = false →
      seq ∉ sender.requests
  | _ => True

/-! ### The queues -/

theorem nodup_requests_processSack_iff {sender : Sender} (distinct : sender.requests.Nodup)
    (now : Instant) (sack : SackPayload) :
    (sender.processSack now sack).requests.Nodup ↔
      sender.ReportsUnqueued (.processSack now sack) := by
  rw [(requests_processSack sender now sack).nodup_iff, List.nodup_append']
  constructor
  · rintro ⟨_, _, disjoint⟩ seq present missing queued
    exact disjoint queued ((mem_keys_processSack sender now sack seq).mpr ⟨present, missing⟩)
  · intro unqueued
    refine ⟨distinct, AList.keys_nodup _, ?_⟩
    intro seq queued stays
    obtain ⟨present, missing⟩ := (mem_keys_processSack sender now sack seq).mp stays
    exact unqueued seq present missing queued

theorem nodup_requests_act_iff (sender : Sender) (action : SenderAction)
    (_ : sender.Allowed action) (distinct : sender.requests.Nodup) :
    (sender.act action).requests.Nodup ↔ sender.ReportsUnqueued action := by
  cases action with
  | enqueueData tsUs now payload =>
      rw [act, requests_enqueueData]
      exact iff_of_true distinct trivial
  | processSack now sack => exact nodup_requests_processSack_iff distinct now sack
  | sendBatch now accepted =>
      obtain ⟨gone, _, conserved⟩ := requests_sendBatch sender now accepted
      exact iff_of_true (List.Nodup.of_append_left (conserved.nodup_iff.mp distinct)) trivial
  | refill now => exact iff_of_true distinct trivial
  | probeTick now => exact iff_of_true distinct trivial
  | rehash inFlight => exact iff_of_true distinct trivial
  | updateStats stats => exact iff_of_true distinct trivial

/-! ### The batches -/

def Numbered (sender : Sender) : Prop :=
  ∀ seq entry, sender.inFlight.lookup seq = some entry →
    ∃ tsUs chunk, entry.datagram = dataDatagram sender.sessionId seq tsUs chunk

theorem Numbered.act {sender : Sender} (numbered : sender.Numbered) {action : SenderAction}
    (allowed : sender.Allowed action) : (sender.act action).Numbered := by
  intro seq entry found
  obtain ⟨tsUs, now, payload, rfl⟩ | ⟨now, sack, rfl⟩ | ⟨now, accepted, rfl⟩ | ⟨_, same⟩ :=
    act_cases allowed
  · have extended := extends_enqueueData sender tsUs now payload
    rw [Sender.act, extended.sessionId]
    rcases extended.lookup_cases found with older | ⟨_, _, _, built⟩
    · exact numbered seq entry older
    · exact built
  · rw [Sender.act, lookup_processSack] at found
    split at found
    · cases found
    · obtain ⟨old, present, rfl⟩ := Option.map_eq_some_iff.mp found
      rw [nakEntry_datagram]
      exact numbered seq old present
  · have same := datagram_stamped now (sender.batchPlan now) sender.inFlight seq
    rw [← sendBatch_inFlight sender now accepted] at same
    rw [Sender.act] at found
    rw [found] at same
    obtain ⟨old, present, carried⟩ := Option.map_eq_some_iff.mp same.symm
    rw [Sender.act, (sendBatch_takesOver sender now accepted).sessionId, ← carried]
    exact numbered seq old present
  · rw [same.lookup] at found
    rw [same.sessionId]
    exact numbered seq entry found

theorem Reachable.numbered {sender : Sender} (reachable : sender.Reachable) : sender.Numbered := by
  apply reachable.invariant
  · intro sessionId now seq entry found
    cases found
  · intro current action allowed numbered
    exact numbered.act allowed

theorem seq_eq_of_dataDatagram_eq {sessionId : UInt32} {first second : Nat}
    {firstTs secondTs : UInt64} {firstChunk secondChunk : Bytes} (firstFits : first < 2 ^ 64)
    (secondFits : second < 2 ^ 64)
    (same : dataDatagram sessionId first firstTs firstChunk =
      dataDatagram sessionId second secondTs secondChunk) : first = second := by
  have read := congrArg RudpHeader.readFrom same
  rw [dataDatagram, dataDatagram, datagram_eq, datagram_eq, RudpHeader.readFrom_toBytes_append,
    RudpHeader.readFrom_toBytes_append] at read
  have fields : UInt64.ofNat first = UInt64.ofNat second :=
    congrArg RudpHeader.sequenceNumber (Option.some.inj read)
  have numbers := congrArg UInt64.toNat fields
  rw [UInt64.toNat_ofNat_of_lt' firstFits, UInt64.toNat_ofNat_of_lt' secondFits] at numbers
  exact numbers

/-- In a run of the code the batches follow the queues. -/
theorem Reachable.noDuplicates_iff {sender : Sender} (reachable : sender.Reachable) :
    sender.NoDuplicates ↔ sender.requests.Nodup := by
  constructor
  · exact NoDuplicates.requests
  · intro distinct
    refine ⟨distinct, fun counted now => ?_⟩
    have fits : ∀ seq entry, sender.inFlight.lookup seq = some entry → seq < 2 ^ 64 := by
      intro seq entry found
      have listed : seq ∈ sender.inFlight.keys :=
        (AssocMap.mem_keys_iff_lookup _ seq).mpr ⟨entry, found⟩
      exact Nat.lt_of_lt_of_le (reachable.keysBelow seq listed) counted
    rw [assembleBatch_batch, datagramsOf]
    refine List.Nodup.filterMap ?_ (batchPlan_nodup distinct now)
    -- equal datagrams have equal numbers in their headers
    intro first second datagram inFirst inSecond
    obtain ⟨firstEntry, firstFound, rfl⟩ := Option.map_eq_some_iff.mp inFirst
    obtain ⟨secondEntry, secondFound, same⟩ := Option.map_eq_some_iff.mp inSecond
    obtain ⟨_, _, firstBuilt⟩ := reachable.numbered first firstEntry firstFound
    obtain ⟨_, _, secondBuilt⟩ := reachable.numbered second secondEntry secondFound
    rw [firstBuilt, secondBuilt] at same
    exact (seq_eq_of_dataDatagram_eq (fits second secondEntry secondFound)
      (fits first firstEntry firstFound) same).symm

/-! ### Whole runs -/

/-- No state of a run has a duplicate, exactly when every SACK of the run reports
only packets that no request waits for. -/
theorem noDuplicates_run_iff (sessionId : UInt32) (now : Instant) (actions : List SenderAction)
    (possible : Possible (new sessionId now) actions) :
    (∀ before, before <+: actions → ((new sessionId now).runActions before).NoDuplicates) ↔
      EachStep act ReportsUnqueued (new sessionId now) actions := by
  have start : (new sessionId now).requests.Nodup := List.nodup_nil
  have queues := forall_prefix_iff_eachStep nodup_requests_act_iff start possible
  rw [← queues]
  refine forall₂_congr fun before initial => ?_
  have reachable : ((new sessionId now).runActions before).Reachable :=
    ⟨sessionId, now, before, possible.of_isPrefix initial, rfl⟩
  exact reachable.noDuplicates_iff

/-- One SACK that comes when both queues are empty. -/
theorem noDuplicates_run_iff_single :
    Possible (new 7 0)
        [.enqueueData (fun _ => 0) 0 [1, 2, 3], .processSack 0 SackPayload.default] ∧
      ((new 7 0).runActions [.enqueueData (fun _ => 0) 0 [1, 2, 3],
        .processSack 0 SackPayload.default]).NoDuplicates := by
  have possible : Possible (new 7 0)
      [.enqueueData (fun _ => 0) 0 [1, 2, 3], .processSack 0 SackPayload.default] :=
    ⟨trivial, trivial, trivial⟩
  have unqueued : ReportsUnqueued ((new 7 0).act (.enqueueData (fun _ => 0) 0 [1, 2, 3]))
      (.processSack 0 SackPayload.default) := by
    intro seq _ _ queued
    cases queued
  have everywhere := (noDuplicates_run_iff 7 0 _ possible).mpr ⟨trivial, unqueued, trivial⟩
  exact ⟨possible, everywhere _ List.prefix_rfl⟩

/-- A packet of 1229 bytes takes nearly all of the first 1250 tokens.  Two SACKs
report it before there are tokens to serve the first request, then the bucket
fills up. -/
def reportedTwice : List SenderAction :=
  passAt 0 (.command (.sendChunk (List.replicate 1200 0))) ++
    passAt 0 (.sack SackPayload.default) ++ passAt 0 (.sack SackPayload.default) ++
    [.refill 10000000]

/-- The number waits in both queues, and the next batch sends the packet twice. -/
theorem reportedTwice_duplicates :
    Possible (new 7 0) reportedTwice ∧
      ¬ ((new 7 0).runActions reportedTwice).requests.Nodup ∧
      ((new 7 0).runActions reportedTwice).nextSeq ≤ 2 ^ 64 ∧
      ¬ (((new 7 0).runActions reportedTwice).assembleBatch 10000000).1.batch.Nodup := by
  refine ⟨?_, ?_, ?_, ?_⟩
  · exact ⟨trivial, trivial, trivial, trivial, trivial, trivial, trivial, trivial, trivial, trivial,
      trivial⟩
  · decide +kernel
  · decide +kernel
  · decide +kernel

end Sender

end Udpix.Protocol

/-
Packets that nothing will send again.

Without a further SACK a packet in flight is sent again for a request in one of
the queues, or by the timer, which leaves out the packets whose counter is not
zero.  A SACK that reports a packet for the first time sets the counter and
pushes one request.  When that request is served, the packet is left with
neither.
-/

import Udpix.Protocol.SenderRuns

namespace Udpix.Protocol

open Unwinding

namespace Sender

/-- Nothing in flight for longer than the timeout depends on a further SACK. -/
def NoneStranded (sender : Sender) : Prop :=
  ∀ now seq entry, sender.inFlight.lookup seq = some entry →
    sender.stats.rto < Instant.elapsed now entry.lastSent →
    seq ∈ sender.urgentRetransmits ∨ seq ∈ sender.normalRetransmits ∨ entry.nakCount = 0

/-- A batch leaves a request for every packet that the timer passes over.  What
is served are the requests for packets in flight that the tokens and the places
of a batch cover, the urgent ones before the normal ones. -/
def LeavesRequest (sender : Sender) : SenderAction → Prop
  | .sendBatch _ _ => ∀ seq entry, sender.inFlight.lookup seq = some entry →
      entry.nakCount ≠ 0 → sender.retransmitsTaken.count seq < sender.requests.count seq
  | _ => True

/-- Any packet is overdue some day. -/
theorem noneStranded_iff (sender : Sender) :
    sender.NoneStranded ↔ ∀ seq entry, sender.inFlight.lookup seq = some entry →
      seq ∈ sender.requests ∨ entry.nakCount = 0 := by
  simp only [requests, List.mem_append, or_assoc]
  constructor
  · intro unstranded seq entry found
    have late : Instant.elapsed (entry.lastSent + ((sender.stats.rto + 1 : Nat) : Int))
        entry.lastSent = sender.stats.rto + 1 := by
      rw [Instant.elapsed, add_sub_cancel_left, Int.toNat_natCast]
    apply unstranded _ seq entry found
    rw [late]
    exact Nat.lt_succ_self _
  · intro unstranded now seq entry found _
    exact unstranded seq entry found

theorem noneStranded_new (sessionId : UInt32) (now : Instant) :
    (new sessionId now).NoneStranded := by
  intro later seq entry found
  cases found

/-! ### One step -/

theorem NoneStranded.act {sender : Sender} (unstranded : sender.NoneStranded)
    {action : SenderAction} (allowed : sender.Allowed action)
    (kept : action.sacks = 0 → ∀ seq, seq ∈ sender.requests → seq ∈ (sender.act action).requests) :
    (sender.act action).NoneStranded := by
  rw [noneStranded_iff] at unstranded ⊢
  intro seq entry found
  rcases lookup_act_cases allowed found with
    ⟨_, _, _, counter⟩ | ⟨old, present, noSack, counter⟩ |
      ⟨old, now, sack, present, rfl, missing, rfl⟩
  · exact .inr counter
  · rw [counter]
    exact (unstranded seq old present).imp_left (kept noSack seq)
  · have stays : seq ∈ (sender.processSack now sack).inFlight.keys :=
      (AssocMap.mem_keys_iff_lookup _ seq).mpr ⟨_, found⟩
    exact .inl ((requests_processSack sender now sack).mem_iff.mpr (List.mem_append_right _ stays))

/-- A request for a packet in flight is left unless all of them are served. -/
theorem mem_requests_sendBatch_iff (sender : Sender) (now : Instant) (accepted : Int) {seq : Nat}
    (present : seq ∈ sender.inFlight.keys) :
    seq ∈ (sender.sendBatch now accepted).1.requests ↔
      sender.retransmitsTaken.count seq < sender.requests.count seq := by
  obtain ⟨gone, absent, conserved⟩ := requests_sendBatch sender now accepted
  have counts := conserved.count_eq seq
  have notGone : gone.count seq = 0 :=
    List.count_eq_zero.mpr (fun member => absent seq member present)
  rw [List.count_append, List.count_append, notGone] at counts
  rw [← List.count_pos_iff]
  omega

theorem noneStranded_sendBatch_iff (sender : Sender) (now : Instant) (accepted : Int) :
    (sender.sendBatch now accepted).1.NoneStranded ↔
      sender.LeavesRequest (.sendBatch now accepted) := by
  rw [noneStranded_iff]
  constructor
  · intro unstranded seq entry found counter
    have counters := nakCount_sendBatch sender now accepted seq
    rw [found, Option.map_some] at counters
    obtain ⟨after, isAfter, same⟩ := Option.map_eq_some_iff.mp counters
    have present : seq ∈ sender.inFlight.keys :=
      (AssocMap.mem_keys_iff_lookup _ seq).mpr ⟨entry, found⟩
    rcases unstranded seq after isAfter with left | reset
    · exact (mem_requests_sendBatch_iff sender now accepted present).mp left
    · rw [same] at reset
      exact absurd reset counter
  · intro leaves seq entry found
    have counters := nakCount_sendBatch sender now accepted seq
    rw [found, Option.map_some] at counters
    obtain ⟨old, isOld, same⟩ := Option.map_eq_some_iff.mp counters.symm
    have present : seq ∈ sender.inFlight.keys :=
      (AssocMap.mem_keys_iff_lookup _ seq).mpr ⟨old, isOld⟩
    rw [← same]
    by_cases counter : old.nakCount = 0
    · exact .inr counter
    · have left := leaves seq old isOld counter
      exact .inl ((mem_requests_sendBatch_iff sender now accepted present).mpr left)

theorem noneStranded_act_iff (sender : Sender) (action : SenderAction)
    (allowed : sender.Allowed action) (unstranded : sender.NoneStranded) :
    (sender.act action).NoneStranded ↔ sender.LeavesRequest action := by
  cases action with
  | enqueueData tsUs now payload =>
      have same := requests_enqueueData sender tsUs now payload
      exact iff_of_true (unstranded.act allowed (fun _ _ member => same ▸ member)) trivial
  | processSack now sack =>
      exact iff_of_true (unstranded.act allowed (fun noSack => nomatch noSack)) trivial
  | sendBatch now accepted => exact noneStranded_sendBatch_iff sender now accepted
  | refill now => exact iff_of_true (unstranded.act allowed (fun _ _ member => member)) trivial
  | probeTick now => exact iff_of_true (unstranded.act allowed (fun _ _ member => member)) trivial
  | rehash inFlight => exact iff_of_true (unstranded.act allowed (fun _ _ member => member)) trivial
  | updateStats stats =>
      exact iff_of_true (unstranded.act allowed (fun _ _ member => member)) trivial

/-! ### Whole runs -/

/-- No state of a run has a stranded packet, exactly when every batch of the run
leaves a request for each packet that the timer passes over. -/
theorem noneStranded_run_iff (sessionId : UInt32) (now : Instant) (actions : List SenderAction)
    (possible : Possible (new sessionId now) actions) :
    (∀ before, before <+: actions → ((new sessionId now).runActions before).NoneStranded) ↔
      EachStep act LeavesRequest (new sessionId now) actions :=
  forall_prefix_iff_eachStep noneStranded_act_iff (noneStranded_new sessionId now) possible

theorem leavesRequest_of_entries {sender : Sender} (now : Instant) (accepted : Int)
    (left : ∀ stored, stored ∈ sender.inFlight.entries → stored.2.nakCount ≠ 0 →
      sender.retransmitsTaken.count stored.1 < sender.requests.count stored.1) :
    sender.LeavesRequest (.sendBatch now accepted) := by
  intro seq entry found counter
  exact left ⟨seq, entry⟩ (AList.mem_lookup_iff.mp found) counter

/-- Three passes of the loop.  The second one sends a full packet, and the third one
finds too few tokens for the request that a SACK has pushed. -/
def reportedDry : List SenderAction :=
  passAt 0 (.command (.sendChunk (List.replicate 1443 8))) ++ passAt 1000000 .probeTick ++
    passAt 1000000 (.sack SackPayload.default)

theorem noneStranded_run_iff_reportedDry :
    Possible (new 7 0) reportedDry ∧ ((new 7 0).runActions reportedDry).NoneStranded ∧
      ((new 7 0).runActions reportedDry).normalRetransmits = [0] := by
  have possible : Possible (new 7 0) reportedDry :=
    ⟨trivial, trivial, trivial, trivial, trivial, trivial, trivial, trivial, trivial, trivial⟩
  have leaves : EachStep act LeavesRequest (new 7 0) reportedDry :=
    ⟨trivial, trivial, leavesRequest_of_entries _ _ (by decide +kernel),
      trivial, trivial, leavesRequest_of_entries _ _ (by decide +kernel),
      trivial, trivial, leavesRequest_of_entries _ _ (by decide +kernel), trivial⟩
  have everywhere := (noneStranded_run_iff 7 0 _ possible).mpr leaves
  exact ⟨possible, everywhere _ List.prefix_rfl, by decide +kernel⟩

/-- Two passes of the loop.  The only packet is sent and lost, the SACK of 50 ms
later reports it, and the request is served at once. -/
def reportedOnce : List SenderAction :=
  passAt 0 (.command (.sendChunk [1, 2, 3])) ++ passAt 50000000 (.sack SackPayload.default)

/-- A second later the packet is overdue, without a request and with a counter. -/
theorem reportedOnce_stranded :
    Possible (new 7 0) reportedOnce ∧ ¬ ((new 7 0).runActions reportedOnce).NoneStranded := by
  have possible : Possible (new 7 0) reportedOnce :=
    ⟨trivial, trivial, trivial, trivial, trivial, trivial, trivial⟩
  refine ⟨possible, fun unstranded => ?_⟩
  have stored : ((new 7 0).runActions reportedOnce).inFlight.lookup 0 =
      some
        { datagram := dataDatagram 7 0 0 [1, 2, 3]
          lastSent := 50000000
          nakCount := 1 } := by
    decide +kernel
  have overdue : ((new 7 0).runActions reportedOnce).stats.rto <
      Instant.elapsed 1000000000 50000000 := by
    decide +kernel
  have unrequested : 0 ∉ ((new 7 0).runActions reportedOnce).urgentRetransmits ∧
      0 ∉ ((new 7 0).runActions reportedOnce).normalRetransmits := by
    decide +kernel
  rcases unstranded 1000000000 0 _ stored overdue with urgent | normal | reset
  · exact unrequested.1 urgent
  · exact unrequested.2 normal
  · cases reset

end Sender

end Udpix.Protocol

/-
Which queue a missing packet goes to.

The counter of a packet has one bit: it tells whether the number of SACKs that
were processed since the packet was enqueued is odd.  Every one of them reported
the packet missing, or it would not be in flight any more.
-/

import Udpix.Protocol.SenderRuns

namespace Udpix.Protocol

open Unwinding

namespace Sender

/-- A sender beside the number of SACKs it has processed, in all and at the time
each packet was enqueued. -/
structure Audited where
  sender : Sender
  sacks : Nat
  sacksAtEnqueue : Nat → Nat

def Audited.initial (sessionId : UInt32) (now : Instant) : Audited :=
  { sender := new sessionId now
    sacks := 0
    sacksAtEnqueue := fun _ => 0 }

def audit (state : Audited) (action : SenderAction) : Audited where
  sender := state.sender.act action
  sacks := state.sacks + action.sacks
  sacksAtEnqueue := fun seq =>
    if state.sender.nextSeq ≤ seq ∧ seq < (state.sender.act action).nextSeq then state.sacks
    else state.sacksAtEnqueue seq

def Audited.sacksSince (state : Audited) (seq : Nat) : Nat :=
  state.sacks - state.sacksAtEnqueue seq

/-- The counters of the packets in flight, and what a further SACK does. -/
structure PromotesEverySecond (state : Audited) : Prop where
  counter : ∀ seq entry, state.sender.inFlight.lookup seq = some entry →
    entry.nakCount = 0 ∨ entry.nakCount = 1
  removes : ∀ now sack seq, seq ∈ (state.sender.processSack now sack).inFlight.keys ↔
    seq ∈ state.sender.inFlight.keys ∧ ¬ (seq < sack.baseSeq ∨ sack.isReceived seq = true)
  pushes : ∀ now sack, ∃ urgent normal : List Nat,
    (state.sender.processSack now sack).urgentRetransmits =
        state.sender.urgentRetransmits ++ urgent ∧
      (state.sender.processSack now sack).normalRetransmits =
        state.sender.normalRetransmits ++ normal ∧
      (urgent ++ normal).Perm (state.sender.processSack now sack).inFlight.keys ∧
      ∀ seq, seq ∈ (state.sender.processSack now sack).inFlight.keys →
        (seq ∈ urgent ↔ state.sacksSince seq % 2 = 1)

/-- The counter of a packet in flight is the parity of the SACKs since. -/
structure Counted (state : Audited) : Prop where
  below : state.sender.KeysBelow
  since : ∀ seq entry, state.sender.inFlight.lookup seq = some entry →
    state.sacksAtEnqueue seq ≤ state.sacks ∧ entry.nakCount = state.sacksSince seq % 2

theorem counted_initial (sessionId : UInt32) (now : Instant) :
    Counted (Audited.initial sessionId now) where
  below := by
    intro seq member
    cases member
  since := by
    intro seq entry found
    cases found

/-- The SACKs of a packet are counted from when it was enqueued. -/
theorem sacksAtEnqueue_audit {state : Audited} {seq : Nat} (older : seq < state.sender.nextSeq)
    (action : SenderAction) :
    (audit state action).sacksAtEnqueue seq = state.sacksAtEnqueue seq :=
  if_neg (fun inside => Nat.not_le.mpr older inside.1)

theorem nakCount_nakEntry {sack : SackPayload} {seq : Nat} (missing : isAcked sack seq = false)
    {entry : InFlightEntry} {count : Nat} (parity : entry.nakCount = count % 2) :
    (nakEntry sack seq entry).1.nakCount = (count + 1) % 2 := by
  rw [nakEntry_of_not_acked missing]
  split
  · rename_i second
    change 0 = (count + 1) % 2
    omega
  · rename_i first
    change entry.nakCount + 1 = (count + 1) % 2
    omega

theorem Counted.audit {state : Audited} (counted : Counted state) {action : SenderAction}
    (allowed : state.sender.Allowed action) : Counted (audit state action) where
  below := counted.below.act allowed
  since := by
    -- an entry from before keeps its start, and its counter moves with the SACKs
    have carried : ∀ seq old, state.sender.inFlight.lookup seq = some old →
        (Sender.audit state action).sacksAtEnqueue seq ≤ (Sender.audit state action).sacks ∧
          (Sender.audit state action).sacksSince seq = state.sacksSince seq + action.sacks := by
      intro seq old found
      have older := counted.below seq ((AssocMap.mem_keys_iff_lookup _ seq).mpr ⟨old, found⟩)
      have start := (counted.since seq old found).1
      rw [Audited.sacksSince, Audited.sacksSince, sacksAtEnqueue_audit older]
      change _ ≤ state.sacks + action.sacks ∧ state.sacks + action.sacks - _ = _
      omega
    intro seq entry found
    rcases lookup_act_cases allowed found with
      ⟨noSack, older, newer, counter⟩ | ⟨old, present, noSack, counter⟩ |
        ⟨old, now, sack, present, rfl, missing, rfl⟩
    · have start : (Sender.audit state action).sacksAtEnqueue seq = state.sacks :=
        if_pos ⟨older, newer⟩
      rw [Audited.sacksSince, start, counter]
      change _ ≤ state.sacks + action.sacks ∧ 0 = (state.sacks + action.sacks - state.sacks) % 2
      omega
    · obtain ⟨start, since⟩ := carried seq old present
      refine ⟨start, ?_⟩
      rw [since, noSack, counter]
      exact (counted.since seq old present).2
    · obtain ⟨start, since⟩ := carried seq old present
      refine ⟨start, ?_⟩
      rw [since]
      exact nakCount_nakEntry missing (counted.since seq old present).2

theorem Counted.promotesEverySecond {state : Audited} (counted : Counted state) :
    PromotesEverySecond state where
  counter := by
    intro seq entry found
    have parity := (counted.since seq entry found).2
    omega
  removes := by
    intro now sack seq
    rw [mem_keys_processSack, isAcked, Bool.or_eq_false_iff, decide_eq_false_iff_not, not_or,
      Bool.not_eq_true]
  pushes := by
    intro now sack
    refine ⟨state.sender.sackPushes .urgent sack, state.sender.sackPushes .normal sack, rfl, rfl,
      sackPushes_perm state.sender now sack, ?_⟩
    intro seq stays
    obtain ⟨present, missing⟩ := (mem_keys_processSack _ now sack seq).mp stays
    obtain ⟨entry, found⟩ := (AssocMap.mem_keys_iff_lookup _ seq).mp present
    have parity := (counted.since seq entry found).2
    rw [mem_sackPushes_iff]
    constructor
    · rintro ⟨_, other, isOther, pushed⟩
      rw [found] at isOther
      obtain rfl := Option.some.inj isOther
      split at pushed
      · omega
      · cases pushed
    · intro odd
      exact ⟨missing, entry, found, if_pos (by omega)⟩

/-- The promotion rule holds after every run. -/
theorem promotesEverySecond_run (sessionId : UInt32) (now : Instant) (actions : List SenderAction)
    (possible : Possible (new sessionId now) actions) :
    PromotesEverySecond (actions.foldl audit (Audited.initial sessionId now)) := by
  have audited : EachStep audit (fun state action => state.sender.Allowed action)
      (Audited.initial sessionId now) actions :=
    (eachStep_map (fun _ _ => rfl) (Audited.initial sessionId now) actions).mpr possible
  exact (audited.invariant (fun _ _ allowed counted => counted.audit allowed)
    (counted_initial sessionId now)).promotesEverySecond

/-- One packet that two SACKs report missing. -/
theorem promotesEverySecond_run_twice :
    PromotesEverySecond
      ([.enqueueData (fun _ => 0) 0 [1, 2, 3], .processSack 0 SackPayload.default,
        .processSack 0 SackPayload.default].foldl audit (Audited.initial 7 0)) := by
  have possible : Possible (new 7 0)
      [.enqueueData (fun _ => 0) 0 [1, 2, 3], .processSack 0 SackPayload.default,
        .processSack 0 SackPayload.default] :=
    ⟨trivial, trivial, trivial, trivial⟩
  exact promotesEverySecond_run 7 0 _ possible

end Sender

end Udpix.Protocol

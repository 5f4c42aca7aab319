/-
Runs of the sender on its own.

The calls of the sender task come in any order and with any arguments, so with
any SACKs and any readings of the clock.  Between the calls the in-flight map
may change its order, and other holders of the statistics may write them.
-/

import Udpix.Library.Unwinding
import Udpix.Protocol.BatchPlan
import Udpix.Protocol.InFlight

namespace Udpix.Protocol

open Unwinding

inductive SenderAction where
  | enqueueData (tsUs : Nat → UInt64) (now : Instant) (payload : Bytes)
  | processSack (now : Instant) (sack : SackPayload)
  | sendBatch (now : Instant) (accepted : Int)
  | refill (now : Instant)
  | probeTick (now : Instant)
  | rehash (inFlight : AssocMap Nat InFlightEntry)
  | updateStats (stats : SessionStats)

def SenderAction.sacks : SenderAction → Nat
  | .processSack _ _ => 1
  | _ => 0

namespace Sender

def probe (sender : Sender) (now : Instant) : Sender :=
  sender.handleEvent
    { event := .probeTick
      tsUs := fun _ => 0
      eventNow := now
      refillNow := now
      batchNow := now
      accepted := 0 }

def act (sender : Sender) : SenderAction → Sender
  | .enqueueData tsUs now payload => sender.enqueueData tsUs now payload
  | .processSack now sack => sender.processSack now sack
  | .sendBatch now accepted => (sender.sendBatch now accepted).1
  | .refill now => { sender with pacer := sender.pacer.refill now }
  | .probeTick now => sender.probe now
  | .rehash inFlight => { sender with inFlight := inFlight }
  | .updateStats stats => { sender with stats := stats }

/-- A map that is rehashed keeps its entries. -/
def Allowed (sender : Sender) : SenderAction → Prop
  | .rehash inFlight => inFlight.entries.Perm sender.inFlight.entries
  | _ => True

def runActions (sender : Sender) (actions : List SenderAction) : Sender :=
  actions.foldl act sender

def Possible (sender : Sender) (actions : List SenderAction) : Prop :=
  EachStep act Allowed sender actions

def Reachable (sender : Sender) : Prop :=
  ∃ sessionId now actions, Possible (new sessionId now) actions ∧
    sender = (new sessionId now).runActions actions

def passActions (iteration : Iteration) : List SenderAction :=
  (match iteration.event with
    | .probeTick => [.probeTick iteration.eventNow]
    | .sack payload => [.processSack iteration.eventNow payload]
    | .command (.sendChunk payload) => [.enqueueData iteration.tsUs iteration.eventNow payload]
    | .command .shutdown => []) ++
  [.refill iteration.refillNow, .sendBatch iteration.batchNow iteration.accepted]

/-- The calls of a pass whose readings of the clock all are `now`. -/
def passAt (now : Instant) (event : RunEvent) : List SenderAction :=
  passActions
    { event := event
      tsUs := fun _ => 0
      eventNow := now
      refillNow := now
      batchNow := now
      accepted := 1 }

theorem runActions_passActions (sender : Sender) (iteration : Iteration) :
    sender.runActions (passActions iteration) = (sender.iterate iteration).1 := by
  rw [runActions, passActions, iterate, handleEvent]
  cases iteration.event with
  | probeTick => rfl
  | sack payload => rfl
  | command cmd =>
      cases cmd with
      | sendChunk payload => rfl
      | shutdown => rfl

/-! ### What an action can do -/

/-- The packets, their numbers and the requests stay as they are. -/
structure SameWork (before after : Sender) : Prop where
  sessionId : after.sessionId = before.sessionId
  nextSeq : after.nextSeq = before.nextSeq
  urgent : after.urgentRetransmits = before.urgentRetransmits
  normal : after.normalRetransmits = before.normalRetransmits
  entries : after.inFlight.entries.Perm before.inFlight.entries

theorem SameWork.lookup {before after : Sender} (same : SameWork before after) (seq : Nat) :
    after.inFlight.lookup seq = before.inFlight.lookup seq :=
  AList.perm_lookup same.entries

theorem SameWork.keys {before after : Sender} (same : SameWork before after) :
    after.inFlight.keys.Perm before.inFlight.keys :=
  same.entries.map Sigma.fst

theorem act_cases {sender : Sender} {action : SenderAction} (allowed : sender.Allowed action) :
    (∃ tsUs now payload, action = .enqueueData tsUs now payload) ∨
      (∃ now sack, action = .processSack now sack) ∨
      (∃ now accepted, action = .sendBatch now accepted) ∨
      (action.sacks = 0 ∧ SameWork sender (sender.act action)) := by
  cases action with
  | enqueueData tsUs now payload => exact .inl ⟨tsUs, now, payload, rfl⟩
  | processSack now sack => exact .inr (.inl ⟨now, sack, rfl⟩)
  | sendBatch now accepted => exact .inr (.inr (.inl ⟨now, accepted, rfl⟩))
  | refill now => exact .inr (.inr (.inr ⟨rfl, rfl, rfl, rfl, rfl, List.Perm.refl _⟩))
  | probeTick now => exact .inr (.inr (.inr ⟨rfl, rfl, rfl, rfl, rfl, List.Perm.refl _⟩))
  | rehash inFlight => exact .inr (.inr (.inr ⟨rfl, rfl, rfl, rfl, rfl, allowed⟩))
  | updateStats stats => exact .inr (.inr (.inr ⟨rfl, rfl, rfl, rfl, rfl, List.Perm.refl _⟩))

/-- What holds of a new sender and is kept by every action holds of every sender
in a run. -/
theorem Reachable.invariant {sender : Sender} (reachable : sender.Reachable) {Inv : Sender → Prop}
    (initially : ∀ sessionId now, Inv (new sessionId now))
    (kept : ∀ current action, current.Allowed action → Inv current → Inv (current.act action)) :
    Inv sender := by
  obtain ⟨sessionId, now, actions, possible, rfl⟩ := reachable
  exact possible.invariant kept (initially sessionId now)

/-! ### New packets -/

/-- The sender after pieces were given the next numbers. -/
structure Extends (sender after : Sender) (pieces : List Bytes) : Prop where
  sessionId : after.sessionId = sender.sessionId
  urgent : after.urgentRetransmits = sender.urgentRetransmits
  normal : after.normalRetransmits = sender.normalRetransmits
  nextSeq : after.nextSeq = sender.nextSeq + pieces.length
  outside : ∀ seq, seq < sender.nextSeq ∨ after.nextSeq ≤ seq →
    after.inFlight.lookup seq = sender.inFlight.lookup seq
  built : ∀ index piece, pieces[index]? = some piece → ∃ entry tsUs,
    after.inFlight.lookup (sender.nextSeq + index) = some entry ∧ entry.nakCount = 0 ∧
      entry.datagram = dataDatagram sender.sessionId (sender.nextSeq + index) tsUs piece

theorem Extends.refl (sender : Sender) : Extends sender sender [] where
  sessionId := rfl
  urgent := rfl
  normal := rfl
  nextSeq := rfl
  outside := fun _ _ => rfl
  built := by
    intro index piece placed
    cases placed

theorem Extends.trans {sender middle after : Sender} {first second : List Bytes}
    (left : Extends sender middle first) (right : Extends middle after second) :
    Extends sender after (first ++ second) where
  sessionId := right.sessionId.trans left.sessionId
  urgent := right.urgent.trans left.urgent
  normal := right.normal.trans left.normal
  nextSeq := by
    rw [right.nextSeq, left.nextSeq, List.length_append, Nat.add_assoc]
  outside := by
    intro seq outside
    have grows : sender.nextSeq ≤ middle.nextSeq ∧ middle.nextSeq ≤ after.nextSeq := by
      rw [right.nextSeq, left.nextSeq]
      omega
    rw [right.outside seq (by omega), left.outside seq (by omega)]
  built := by
    intro index piece placed
    have offset := left.nextSeq
    by_cases early : index < first.length
    · rw [List.getElem?_append_left early] at placed
      obtain ⟨entry, tsUs, stored, counter, datagram⟩ := left.built index piece placed
      refine ⟨entry, tsUs, ?_, counter, datagram⟩
      rw [right.outside _ (by omega)]
      exact stored
    · have late := Nat.not_lt.mp early
      rw [List.getElem?_append_right late] at placed
      obtain ⟨entry, tsUs, stored, counter, datagram⟩ := right.built _ piece placed
      have position : middle.nextSeq + (index - first.length) = sender.nextSeq + index := by omega
      rw [position] at stored datagram
      rw [left.sessionId] at datagram
      exact ⟨entry, tsUs, stored, counter, datagram⟩

theorem extends_enqueueChunk (tsUs : Nat → UInt64) (now : Instant) (sender : Sender)
    (chunk : Bytes) : Extends sender (enqueueChunk tsUs now sender chunk) [chunk] where
  sessionId := rfl
  urgent := rfl
  normal := rfl
  nextSeq := rfl
  outside := by
    intro seq outside
    apply AList.lookup_insert_ne
    rintro rfl
    have advanced : (enqueueChunk tsUs now sender chunk).nextSeq = sender.nextSeq + 1 := rfl
    omega
  built := by
    intro index piece placed
    obtain ⟨inside, isPiece⟩ := List.getElem?_eq_some_iff.mp placed
    obtain rfl : index = 0 := Nat.lt_one_iff.mp inside
    obtain rfl : chunk = piece := isPiece
    exact ⟨_, tsUs sender.nextSeq, AList.lookup_insert _, rfl, rfl⟩

theorem extends_enqueueData (sender : Sender) (tsUs : Nat → UInt64) (now : Instant)
    (payload : Bytes) :
    Extends sender (sender.enqueueData tsUs now payload) (Chunks.chunks MAX_PAYLOAD payload) := by
  rw [enqueueData]
  induction Chunks.chunks MAX_PAYLOAD payload generalizing sender with
  | nil => exact Extends.refl sender
  | cons chunk rest ih =>
      exact (extends_enqueueChunk tsUs now sender chunk).trans
        (ih (enqueueChunk tsUs now sender chunk))

theorem Extends.lookup_cases {sender after : Sender} {pieces : List Bytes}
    (extended : Extends sender after pieces) {seq : Nat} {entry : InFlightEntry}
    (found : after.inFlight.lookup seq = some entry) :
    sender.inFlight.lookup seq = some entry ∨
      (sender.nextSeq ≤ seq ∧ seq < after.nextSeq ∧ entry.nakCount = 0 ∧ ∃ tsUs piece,
        entry.datagram = dataDatagram sender.sessionId seq tsUs piece) := by
  by_cases outside : seq < sender.nextSeq ∨ after.nextSeq ≤ seq
  · rw [extended.outside seq outside] at found
    exact .inl found
  · have advanced := extended.nextSeq
    have inside : seq - sender.nextSeq < pieces.length := by omega
    obtain ⟨built, tsUs, stored, counter, datagram⟩ :=
      extended.built (seq - sender.nextSeq) _ (List.getElem?_eq_getElem inside)
    have position : sender.nextSeq + (seq - sender.nextSeq) = seq := by omega
    rw [position] at stored datagram
    rw [stored] at found
    obtain rfl := Option.some.inj found
    exact .inr ⟨by omega, by omega, counter, tsUs, _, datagram⟩

theorem Extends.mem_keys_iff {sender after : Sender} {pieces : List Bytes}
    (extended : Extends sender after pieces) (seq : Nat) :
    seq ∈ after.inFlight.keys ↔
      seq ∈ sender.inFlight.keys ∨ (sender.nextSeq ≤ seq ∧ seq < after.nextSeq) := by
  by_cases outside : seq < sender.nextSeq ∨ after.nextSeq ≤ seq
  · rw [AssocMap.mem_keys_iff_lookup, extended.outside seq outside,
      ← AssocMap.mem_keys_iff_lookup]
    constructor
    · exact .inl
    · rintro (present | inside)
      · exact present
      · omega
  · have advanced := extended.nextSeq
    have inside : seq - sender.nextSeq < pieces.length := by omega
    obtain ⟨entry, _, stored, _, _⟩ :=
      extended.built (seq - sender.nextSeq) _ (List.getElem?_eq_getElem inside)
    have position : sender.nextSeq + (seq - sender.nextSeq) = seq := by omega
    rw [position] at stored
    exact ⟨fun _ => .inr (by omega),
      fun _ => (AssocMap.mem_keys_iff_lookup _ seq).mpr ⟨entry, stored⟩⟩

/-! ### Acknowledgements -/

theorem nakEntry_of_not_acked {sack : SackPayload} {seq : Nat} (missing : isAcked sack seq = false)
    (entry : InFlightEntry) :
    nakEntry sack seq entry =
      if 2 ≤ entry.nakCount + 1 then ({ entry with nakCount := 0 }, some .urgent)
      else ({ entry with nakCount := entry.nakCount + 1 }, some .normal) := by
  obtain ⟨below, unmarked⟩ := Bool.or_eq_false_iff.mp missing
  have gap : sack.baseSeq ≤ seq ∧ sack.isReceived seq = false :=
    ⟨Nat.not_lt.mp (of_decide_eq_false below), unmarked⟩
  rw [nakEntry, if_pos gap]

theorem lookup_processSack (sender : Sender) (now : Instant) (sack : SackPayload) (seq : Nat) :
    (sender.processSack now sack).inFlight.lookup seq =
      if isAcked sack seq then none
      else (sender.inFlight.lookup seq).map (fun entry => (nakEntry sack seq entry).1) := by
  have updated : (sender.processSack now sack).inFlight.lookup seq =
      ((sender.removeAcked sack).inFlight.lookup seq).map
        (fun entry => (nakEntry sack seq entry).1) :=
    AssocMap.lookup_mapValues _ _ seq
  rw [updated, removeAcked_lookup]
  split
  · rfl
  · rfl

theorem mem_keys_processSack (sender : Sender) (now : Instant) (sack : SackPayload) (seq : Nat) :
    seq ∈ (sender.processSack now sack).inFlight.keys ↔
      seq ∈ sender.inFlight.keys ∧ isAcked sack seq = false := by
  rw [AssocMap.mem_keys_iff_lookup, AssocMap.mem_keys_iff_lookup, lookup_processSack]
  cases isAcked sack seq with
  | true => simp
  | false => simp

theorem mem_nakPushes_iff (queue : RetransmitQueue) (sack : SackPayload)
    (inFlight : AssocMap Nat InFlightEntry) (seq : Nat) :
    seq ∈ nakPushes queue sack inFlight ↔
      ∃ entry, inFlight.lookup seq = some entry ∧ (nakEntry sack seq entry).2 = some queue := by
  rw [nakPushes, List.mem_map]
  constructor
  · rintro ⟨stored, kept, rfl⟩
    obtain ⟨listed, pushed⟩ := List.mem_filter.mp kept
    exact ⟨stored.2, AList.mem_lookup_iff.mpr listed, of_decide_eq_true pushed⟩
  · rintro ⟨entry, found, pushed⟩
    exact ⟨⟨seq, entry⟩,
      List.mem_filter.mpr ⟨AList.mem_lookup_iff.mp found, decide_eq_true pushed⟩, rfl⟩

def sackPushes (sender : Sender) (queue : RetransmitQueue) (sack : SackPayload) : List Nat :=
  nakPushes queue sack (sender.removeAcked sack).inFlight

theorem mem_sackPushes_iff (sender : Sender) (queue : RetransmitQueue) (sack : SackPayload)
    (seq : Nat) :
    seq ∈ sender.sackPushes queue sack ↔
      isAcked sack seq = false ∧ ∃ entry, sender.inFlight.lookup seq = some entry ∧
        (if 2 ≤ entry.nakCount + 1 then RetransmitQueue.urgent else .normal) = queue := by
  rw [sackPushes, mem_nakPushes_iff]
  simp only [removeAcked_lookup]
  cases acked : isAcked sack seq with
  | true => simp
  | false =>
      simp only [Bool.false_eq_true, if_false, true_and, nakEntry_of_not_acked acked]
      refine exists_congr fun entry => and_congr_right fun _ => ?_
      split
      · exact Option.some_inj
      · exact Option.some_inj

theorem sackPushes_perm (sender : Sender) (now : Instant) (sack : SackPayload) :
    (sender.sackPushes .urgent sack ++ sender.sackPushes .normal sack).Perm
      (sender.processSack now sack).inFlight.keys := by
  have keys : (sender.processSack now sack).inFlight.keys =
      (sender.removeAcked sack).inFlight.keys :=
    AssocMap.keys_mapValues _ _
  have opposite : ∀ stored, stored ∈ (sender.removeAcked sack).inFlight.entries →
      decide ((nakEntry sack stored.1 stored.2).2 = some RetransmitQueue.normal) =
        !decide ((nakEntry sack stored.1 stored.2).2 = some RetransmitQueue.urgent) := by
    intro stored listed
    have found : (sender.removeAcked sack).inFlight.lookup stored.1 = some stored.2 :=
      AList.mem_lookup_iff.mpr listed
    rw [removeAcked_lookup] at found
    cases acked : isAcked sack stored.1 with
    | true =>
        rw [acked] at found
        cases found
    | false =>
        rw [nakEntry_of_not_acked acked]
        split
        · rfl
        · rfl
  rw [keys, sackPushes, sackPushes, nakPushes, nakPushes, List.filter_congr opposite,
    ← List.map_append]
  exact (List.filter_append_perm _ _).map Sigma.fst

/-! ### Requests -/

theorem requests_enqueueData (sender : Sender) (tsUs : Nat → UInt64) (now : Instant)
    (payload : Bytes) : (sender.enqueueData tsUs now payload).requests = sender.requests := by
  have extended := extends_enqueueData sender tsUs now payload
  rw [requests, extended.urgent, extended.normal, requests]

theorem requests_processSack (sender : Sender) (now : Instant) (sack : SackPayload) :
    (sender.processSack now sack).requests.Perm
      (sender.requests ++ (sender.processSack now sack).inFlight.keys) := by
  have pushed : (sender.processSack now sack).requests =
      (sender.urgentRetransmits ++ sender.sackPushes .urgent sack) ++
        (sender.normalRetransmits ++ sender.sackPushes .normal sack) := rfl
  rw [pushed, List.perm_iff_count]
  intro seq
  have added := (sackPushes_perm sender now sack).count_eq seq
  simp only [requests, List.count_append] at added ⊢
  omega

/-- Where an entry comes from: it is new, it was there before with the same
counter, or a SACK has moved its counter. -/
theorem lookup_act_cases {sender : Sender} {action : SenderAction}
    (allowed : sender.Allowed action) {seq : Nat} {entry : InFlightEntry}
    (found : (sender.act action).inFlight.lookup seq = some entry) :
    (action.sacks = 0 ∧ sender.nextSeq ≤ seq ∧ seq < (sender.act action).nextSeq ∧
        entry.nakCount = 0) ∨
      (∃ old, sender.inFlight.lookup seq = some old ∧ action.sacks = 0 ∧
        entry.nakCount = old.nakCount) ∨
      ∃ old now sack, sender.inFlight.lookup seq = some old ∧ action = .processSack now sack ∧
        isAcked sack seq = false ∧ entry = (nakEntry sack seq old).1 := by
  obtain ⟨tsUs, now, payload, rfl⟩ | ⟨now, sack, rfl⟩ | ⟨now, accepted, rfl⟩ | ⟨noSack, same⟩ :=
    act_cases allowed
  · rcases (extends_enqueueData sender tsUs now payload).lookup_cases found with
      older | ⟨newer, inside, counter, _⟩
    · exact .inr (.inl ⟨entry, older, rfl, rfl⟩)
    · exact .inl ⟨rfl, newer, inside, counter⟩
  · rw [act, lookup_processSack] at found
    cases acked : isAcked sack seq with
    | true =>
        rw [acked] at found
        cases found
    | false =>
        rw [acked, if_neg Bool.false_ne_true] at found
        obtain ⟨old, present, rfl⟩ := Option.map_eq_some_iff.mp found
        exact .inr (.inr ⟨old, now, sack, present, rfl, acked, rfl⟩)
  · have counters := nakCount_sendBatch sender now accepted seq
    rw [act] at found
    rw [found, Option.map_some] at counters
    obtain ⟨old, present, same⟩ := Option.map_eq_some_iff.mp counters.symm
    exact .inr (.inl ⟨old, present, rfl, same.symm⟩)
  · rw [same.lookup] at found
    exact .inr (.inl ⟨entry, found, noSack, rfl⟩)

/-! ### Numbers in flight -/

/-- Every packet in flight has a number that was handed out. -/
def KeysBelow (sender : Sender) : Prop :=
  ∀ seq, seq ∈ sender.inFlight.keys → seq < sender.nextSeq

theorem KeysBelow.act {sender : Sender} (below : sender.KeysBelow) {action : SenderAction}
    (allowed : sender.Allowed action) : (sender.act action).KeysBelow := by
  intro seq member
  obtain ⟨tsUs, now, payload, rfl⟩ | ⟨now, sack, rfl⟩ | ⟨now, accepted, rfl⟩ | ⟨_, same⟩ :=
    act_cases allowed
  · have extended := extends_enqueueData sender tsUs now payload
    have advanced := extended.nextSeq
    rw [Sender.act] at member ⊢
    rcases (extended.mem_keys_iff seq).mp member with older | ⟨_, inside⟩
    · have old := below seq older
      omega
    · exact inside
  · exact below seq ((mem_keys_processSack sender now sack seq).mp member).1
  · rw [Sender.act, sendBatch_inFlight, keys_stamped] at member
    rw [Sender.act, (sendBatch_takesOver sender now accepted).nextSeq]
    exact below seq member
  · rw [same.nextSeq]
    exact below seq (same.keys.subset member)

theorem Reachable.keysBelow {sender : Sender} (reachable : sender.Reachable) :
    sender.KeysBelow := by
  apply reachable.invariant
  · intro sessionId now seq member
    cases member
  · intro current action allowed below
    exact below.act allowed

end Sender

end Udpix.Protocol

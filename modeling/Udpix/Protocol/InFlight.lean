/-
What the sender remembers about the packets it has built.

`Tracks` relates a sender to the list of all pieces it was ever given and to
the list of numbers that acknowledgements removed: the removed numbers and the
in-flight keys together are exactly the numbers handed out, each once, and an
in-flight entry still holds the datagram it was built with.
-/

import Udpix.Protocol.Sender
import Mathlib.Data.List.Range
import Mathlib.Data.List.Perm.Basic

namespace Udpix.Protocol

open Chunks

namespace Sender

variable (sessionId : UInt32) (stamp : Nat → UInt64)

/-- `pieces` are all packet payloads in order, `acked` the numbers removed. -/
structure Tracks (pieces : List Bytes) (acked : List Nat) (sender : Sender) : Prop where
  session : sender.sessionId = sessionId
  counted : sender.nextSeq = pieces.length
  partition : (acked ++ sender.inFlight.keys).Perm (List.range sender.nextSeq)
  original : ∀ seq entry, sender.inFlight.lookup seq = some entry →
    ∃ piece, pieces[seq]? = some piece ∧
      entry.datagram = dataDatagram sessionId seq (stamp seq) piece

variable {sessionId stamp}
variable {pieces : List Bytes} {acked : List Nat} {sender : Sender}

theorem tracks_new (now : Instant) : Tracks sessionId stamp [] [] (new sessionId now) where
  session := rfl
  counted := rfl
  partition := by
    change List.Perm ([] ++ []) (List.range 0)
    exact List.Perm.refl _
  original := by
    intro seq entry found
    cases found

/-- Parts of the sender that the relation does not mention may be replaced. -/
theorem Tracks.of_sameSender (tracks : Tracks sessionId stamp pieces acked sender)
    (other : Sender) (session : other.sessionId = sender.sessionId)
    (nextSeq : other.nextSeq = sender.nextSeq)
    (entries : other.inFlight.entries.Perm sender.inFlight.entries) :
    Tracks sessionId stamp pieces acked other := by
  have keys : other.inFlight.keys.Perm sender.inFlight.keys := entries.map Sigma.fst
  refine ⟨session.trans tracks.session, nextSeq.trans tracks.counted, ?_, ?_⟩
  · rw [nextSeq]
    exact (keys.append_left acked).trans tracks.partition
  · intro seq entry found
    rw [AList.perm_lookup entries] at found
    exact tracks.original seq entry found

/-! ### New data -/

theorem Tracks.key_lt (tracks : Tracks sessionId stamp pieces acked sender)
    {seq : Nat} (member : seq ∈ sender.inFlight.keys) : seq < sender.nextSeq := by
  have listed := tracks.partition.subset (List.mem_append_right acked member)
  exact List.mem_range.mp listed

theorem Tracks.enqueueChunk (tracks : Tracks sessionId stamp pieces acked sender)
    (now : Instant) (chunk : Bytes) :
    Tracks sessionId stamp (pieces ++ [chunk]) acked
      (enqueueChunk stamp now sender chunk) := by
  have fresh : sender.nextSeq ∉ sender.inFlight.keys := by
    intro member
    exact Nat.lt_irrefl _ (tracks.key_lt member)
  refine ⟨tracks.session, ?_, ?_, ?_⟩
  · change sender.nextSeq + 1 = _
    rw [List.length_append, List.length_singleton, tracks.counted]
  · change (acked ++ (sender.inFlight.insert sender.nextSeq _).keys).Perm
      (List.range (sender.nextSeq + 1))
    rw [AList.keys_insert, List.erase_of_not_mem fresh, List.range_succ]
    have moved : (acked ++ sender.nextSeq :: sender.inFlight.keys).Perm
        (sender.nextSeq :: (acked ++ sender.inFlight.keys)) :=
      List.perm_middle
    have appended : (sender.nextSeq :: List.range sender.nextSeq).Perm
        (List.range sender.nextSeq ++ [sender.nextSeq]) :=
      (List.perm_append_singleton _ _).symm
    exact (moved.trans (tracks.partition.cons _)).trans appended
  · intro seq entry found
    by_cases same : seq = sender.nextSeq
    · subst same
      refine ⟨chunk, ?_, ?_⟩
      · rw [tracks.counted, List.getElem?_append_right (Nat.le_refl _), Nat.sub_self]
        rfl
      · change (sender.inFlight.insert sender.nextSeq _).lookup sender.nextSeq = _ at found
        rw [AList.lookup_insert] at found
        cases found
        rw [tracks.session]
    · change (sender.inFlight.insert sender.nextSeq _).lookup seq = _ at found
      rw [AList.lookup_insert_ne same] at found
      obtain ⟨piece, placed, built⟩ := tracks.original seq entry found
      refine ⟨piece, ?_, built⟩
      rw [List.getElem?_append_left (List.getElem?_eq_some_iff.mp placed).1]
      exact placed

theorem Tracks.enqueueData (tracks : Tracks sessionId stamp pieces acked sender)
    (now : Instant) (payload : Bytes) :
    Tracks sessionId stamp (pieces ++ chunks MAX_PAYLOAD payload) acked
      (sender.enqueueData stamp now payload) := by
  unfold Sender.enqueueData
  generalize chunks MAX_PAYLOAD payload = rest
  induction rest generalizing pieces sender with
  | nil =>
      rw [List.append_nil]
      exact tracks
  | cons chunk rest ih =>
      have step := ih (tracks.enqueueChunk now chunk)
      rw [List.append_assoc] at step
      exact step

/-! ### Acknowledgements -/

theorem removeSeq_lookup (removal : Removal) (seq other : Nat) :
    (removeSeq removal seq).inFlight.lookup other =
      if other = seq then none else removal.inFlight.lookup other := by
  unfold removeSeq
  cases found : removal.inFlight.lookup seq with
  | none =>
      by_cases same : other = seq
      · rw [if_pos same, same]
        exact found
      · rw [if_neg same]
  | some entry =>
      by_cases same : other = seq
      · rw [if_pos same, same]
        exact AList.lookup_erase seq _
      · rw [if_neg same]
        exact AList.lookup_erase_ne same

theorem foldl_removeSeq_lookup (seqs : List Nat) (removal : Removal) (other : Nat) :
    (seqs.foldl removeSeq removal).inFlight.lookup other =
      if other ∈ seqs then none else removal.inFlight.lookup other := by
  induction seqs generalizing removal with
  | nil => simp
  | cons seq rest ih =>
      rw [List.foldl_cons, ih, removeSeq_lookup]
      by_cases inRest : other ∈ rest
      · rw [if_pos inRest, if_pos (List.mem_cons_of_mem seq inRest)]
      · rw [if_neg inRest]
        by_cases same : other = seq
        · rw [if_pos same, if_pos (by rw [same]; exact List.mem_cons_self)]
        · rw [if_neg same, if_neg (by simp [same, inRest])]

theorem removeAcked_lookup (sender : Sender) (sack : SackPayload) (seq : Nat) :
    (sender.removeAcked sack).inFlight.lookup seq =
      if isAcked sack seq then none else sender.inFlight.lookup seq := by
  unfold removeAcked
  rw [foldl_removeSeq_lookup]
  unfold ackedSeqs
  dsimp only
  by_cases isAck : isAcked sack seq = true
  · rw [if_pos isAck]
    by_cases present : seq ∈ sender.inFlight.keys
    · rw [if_pos (List.mem_filter.mpr ⟨present, isAck⟩)]
    · rw [if_neg (fun member => present (List.mem_filter.mp member).1)]
      exact AList.lookup_eq_none.mpr (fun member => present (AList.mem_keys.mp member))
  · rw [if_neg isAck, if_neg (fun member => isAck (List.mem_filter.mp member).2)]

theorem removeAcked_keys (sender : Sender) (sack : SackPayload) :
    (sender.ackedSeqs sack ++ (sender.removeAcked sack).inFlight.keys).Perm
      sender.inFlight.keys := by
  have stays : ∀ seq, seq ∈ (sender.removeAcked sack).inFlight.keys ↔
      seq ∈ sender.inFlight.keys ∧ ¬ isAcked sack seq = true := by
    intro seq
    rw [AssocMap.mem_keys_iff_lookup, AssocMap.mem_keys_iff_lookup, removeAcked_lookup]
    by_cases isAck : isAcked sack seq = true
    · simp [isAck]
    · simp [isAck]
  have goes : ∀ seq, seq ∈ sender.ackedSeqs sack ↔
      seq ∈ sender.inFlight.keys ∧ isAcked sack seq = true := by
    intro seq
    exact List.mem_filter
  have distinct :
      (sender.ackedSeqs sack ++ (sender.removeAcked sack).inFlight.keys).Nodup := by
    rw [List.nodup_append]
    refine ⟨sender.inFlight.keys_nodup.filter _, AList.keys_nodup _, ?_⟩
    intro left leftMember right rightMember same
    rw [← same] at rightMember
    exact ((stays left).mp rightMember).2 ((goes left).mp leftMember).2
  rw [List.perm_ext_iff_of_nodup distinct sender.inFlight.keys_nodup]
  intro seq
  rw [List.mem_append, goes, stays]
  by_cases isAck : isAcked sack seq = true
  · simp [isAck]
  · simp [isAck]

theorem nakEntry_datagram (sack : SackPayload) (seq : Nat) (entry : InFlightEntry) :
    (nakEntry sack seq entry).1.datagram = entry.datagram := by
  unfold nakEntry
  split
  · split <;> rfl
  · rfl

theorem Tracks.processSack (tracks : Tracks sessionId stamp pieces acked sender)
    (now : Instant) (sack : SackPayload) :
    Tracks sessionId stamp pieces (acked ++ sender.ackedSeqs sack)
      (sender.processSack now sack) := by
  refine ⟨tracks.session, tracks.counted, ?_, ?_⟩
  · change (acked ++ sender.ackedSeqs sack ++
      ((sender.removeAcked sack).inFlight.mapValues _).keys).Perm _
    rw [AssocMap.keys_mapValues, List.append_assoc]
    exact ((removeAcked_keys sender sack).append_left acked).trans tracks.partition
  · intro seq entry found
    change ((sender.removeAcked sack).inFlight.mapValues _).lookup seq = _ at found
    rw [AssocMap.lookup_mapValues, removeAcked_lookup] at found
    split at found
    · cases found
    · obtain ⟨stored, isStored, updated⟩ := Option.map_eq_some_iff.mp found
      obtain ⟨piece, placed, built⟩ := tracks.original seq stored isStored
      refine ⟨piece, placed, ?_⟩
      rw [← updated, nakEntry_datagram]
      exact built

/-! ### Batches -/

/-- A batch under assembly against the in-flight map it started from. -/
structure Assembling (start : AssocMap Nat InFlightEntry) (state : BatchState) : Prop where
  keys : state.inFlight.keys = start.keys
  datagrams : ∀ seq, (state.inFlight.lookup seq).map InFlightEntry.datagram =
    (start.lookup seq).map InFlightEntry.datagram
  stored : ∀ packet, packet ∈ state.batch →
    ∃ seq entry, start.lookup seq = some entry ∧ entry.datagram = packet

theorem batchInvariant_assembling (now : Instant) (start : AssocMap Nat InFlightEntry) :
    BatchInvariant now (Assembling start) where
  transmitted := by
    intro state seq entry sent found granted holds
    unfold transmit at granted
    cases consumed : state.pacer.tryConsume entry.datagram.length with
    | none =>
        rw [consumed] at granted
        cases granted
    | some pacer =>
        rw [consumed] at granted
        cases granted
        refine ⟨?_, ?_, ?_⟩
        · exact (AssocMap.keys_modify _ _ _).trans holds.keys
        · intro other
          rw [← holds.datagrams other]
          dsimp only
          rw [AssocMap.lookup_modify]
          split
          · rw [Option.map_map]
            rfl
          · rfl
        · intro packet member
          rcases List.mem_append.mp member with earlier | last
          · exact holds.stored packet earlier
          · have same : packet = entry.datagram := List.mem_singleton.mp last
            have sameDatagram := holds.datagrams seq
            rw [found, Option.map_some] at sameDatagram
            obtain ⟨original, isOriginal, equal⟩ :=
              Option.map_eq_some_iff.mp sameDatagram.symm
            exact ⟨seq, original, isOriginal, by rw [equal, same]⟩
  counted := fun _ _ holds => ⟨holds.keys, holds.datagrams, holds.stored⟩

theorem sendBatch_assembling (sender : Sender) (now : Instant) (accepted : Int) :
    (sender.sendBatch now accepted).1.inFlight.keys = sender.inFlight.keys ∧
    (∀ seq, ((sender.sendBatch now accepted).1.inFlight.lookup seq).map
        InFlightEntry.datagram =
      (sender.inFlight.lookup seq).map InFlightEntry.datagram) ∧
    (∀ packet, packet ∈ (sender.sendBatch now accepted).2 →
      ∃ seq entry, sender.inFlight.lookup seq = some entry ∧ entry.datagram = packet) ∧
    (sender.sendBatch now accepted).1.sessionId = sender.sessionId ∧
    (sender.sendBatch now accepted).1.nextSeq = sender.nextSeq := by
  have start : Assembling sender.inFlight
      { inFlight := sender.inFlight
        pacer := sender.pacer
        retransmits := sender.stats.retransmits
        batch := [] } :=
    ⟨rfl, fun _ => rfl, by intro packet member; cases member⟩
  have assembled := (batchInvariant_assembling now sender.inFlight).assembleBatch sender start
  unfold sendBatch
  dsimp only
  split
  · exact ⟨assembled.keys, assembled.datagrams,
      fun packet member => absurd member List.not_mem_nil, rfl, rfl⟩
  · exact ⟨assembled.keys, assembled.datagrams,
      fun packet member => assembled.stored packet (List.mem_of_mem_take member), rfl, rfl⟩

theorem Tracks.sendBatch (tracks : Tracks sessionId stamp pieces acked sender)
    (now : Instant) (accepted : Int) :
    Tracks sessionId stamp pieces acked (sender.sendBatch now accepted).1 := by
  obtain ⟨keys, datagrams, _, session, nextSeq⟩ := sendBatch_assembling sender now accepted
  refine ⟨session.trans tracks.session, nextSeq.trans tracks.counted, ?_, ?_⟩
  · rw [keys, nextSeq]
    exact tracks.partition
  · intro seq entry found
    have sameDatagram := datagrams seq
    rw [found, Option.map_some] at sameDatagram
    obtain ⟨original, isOriginal, equal⟩ := Option.map_eq_some_iff.mp sameDatagram.symm
    obtain ⟨piece, placed, built⟩ := tracks.original seq original isOriginal
    exact ⟨piece, placed, by rw [← equal]; exact built⟩

theorem Tracks.sent (tracks : Tracks sessionId stamp pieces acked sender)
    (now : Instant) (accepted : Int) (packet : Bytes)
    (member : packet ∈ (sender.sendBatch now accepted).2) :
    ∃ seq piece, pieces[seq]? = some piece ∧
      packet = dataDatagram sessionId seq (stamp seq) piece := by
  obtain ⟨_, _, stored, _, _⟩ := sendBatch_assembling sender now accepted
  obtain ⟨seq, entry, found, same⟩ := stored packet member
  obtain ⟨piece, placed, built⟩ := tracks.original seq entry found
  exact ⟨seq, piece, placed, by rw [← same]; exact built⟩

end Sender

end Udpix.Protocol

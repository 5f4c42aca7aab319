/-
What a batch takes, read off the state it starts from.

The three phases share one bucket and the places of one batch.  Each serves an
initial part of its list: the requests of the urgent queue that are in flight,
then those of the normal queue, then the packets that the timer selects.  The
loops of `send_batch` are shown to send exactly this plan.
-/

import Udpix.Library.Budget
import Udpix.Protocol.Sender
import Mathlib.Algebra.Order.Ring.Rat
import Mathlib.Data.List.Perm.Basic

namespace Udpix.Protocol

open Budget

namespace Sender

/-! ### Requests and datagrams -/

def live (inFlight : AssocMap Nat InFlightEntry) (queue : List Nat) : List Nat :=
  queue.filter (fun seq => decide (seq ∈ inFlight.keys))

def size (inFlight : AssocMap Nat InFlightEntry) (seq : Nat) : ℚ :=
  (inFlight.lookup seq).elim 0 (fun entry => (entry.datagram.length : ℚ))

def datagramsOf (inFlight : AssocMap Nat InFlightEntry) (seqs : List Nat) : List Bytes :=
  seqs.filterMap (fun seq => (inFlight.lookup seq).map InFlightEntry.datagram)

def stamped (now : Instant) (seqs : List Nat) (inFlight : AssocMap Nat InFlightEntry) :
    AssocMap Nat InFlightEntry :=
  inFlight.mapValues (fun seq entry => if seq ∈ seqs then { entry with lastSent := now } else entry)

theorem lookup_stamped (now : Instant) (seqs : List Nat) (inFlight : AssocMap Nat InFlightEntry)
    (seq : Nat) :
    (stamped now seqs inFlight).lookup seq = (inFlight.lookup seq).map
      (fun entry => if seq ∈ seqs then { entry with lastSent := now } else entry) :=
  AssocMap.lookup_mapValues _ inFlight seq

theorem keys_stamped (now : Instant) (seqs : List Nat) (inFlight : AssocMap Nat InFlightEntry) :
    (stamped now seqs inFlight).keys = inFlight.keys :=
  AssocMap.keys_mapValues _ inFlight

theorem map_stamped {β : Type*} (read : InFlightEntry → β)
    (untimed : ∀ entry time, read { entry with lastSent := time } = read entry) (now : Instant)
    (seqs : List Nat) (inFlight : AssocMap Nat InFlightEntry) (seq : Nat) :
    ((stamped now seqs inFlight).lookup seq).map read = (inFlight.lookup seq).map read := by
  rw [lookup_stamped, Option.map_map]
  cases inFlight.lookup seq with
  | none => rfl
  | some entry =>
      rw [Option.map_some, Option.map_some, Function.comp_apply]
      split
      · rw [untimed]
      · rfl

theorem datagram_stamped (now : Instant) (seqs : List Nat)
    (inFlight : AssocMap Nat InFlightEntry) (seq : Nat) :
    ((stamped now seqs inFlight).lookup seq).map InFlightEntry.datagram =
      (inFlight.lookup seq).map InFlightEntry.datagram :=
  map_stamped InFlightEntry.datagram (fun _ _ => rfl) now seqs inFlight seq

theorem size_nonneg (inFlight : AssocMap Nat InFlightEntry) (seq : Nat) :
    0 ≤ size inFlight seq := by
  rw [size]
  cases inFlight.lookup seq with
  | none => exact le_refl 0
  | some entry => exact Nat.cast_nonneg _

theorem size_eq_of_datagram {first second : AssocMap Nat InFlightEntry} {seq : Nat}
    (same : (first.lookup seq).map InFlightEntry.datagram =
      (second.lookup seq).map InFlightEntry.datagram) : size first seq = size second seq := by
  have throughDatagram : ∀ inFlight : AssocMap Nat InFlightEntry, size inFlight seq =
      ((inFlight.lookup seq).map InFlightEntry.datagram).elim 0
        (fun datagram => (datagram.length : ℚ)) := by
    intro inFlight
    rw [size]
    cases inFlight.lookup seq with
    | none => rfl
    | some entry => rfl
  rw [throughDatagram, throughDatagram, same]

theorem size_stamped (now : Instant) (seqs : List Nat) (inFlight : AssocMap Nat InFlightEntry) :
    size (stamped now seqs inFlight) = size inFlight := by
  funext seq
  exact size_eq_of_datagram (datagram_stamped now seqs inFlight seq)

theorem live_stamped (now : Instant) (seqs : List Nat) (inFlight : AssocMap Nat InFlightEntry)
    (queue : List Nat) : live (stamped now seqs inFlight) queue = live inFlight queue := by
  rw [live, keys_stamped, live]

theorem datagramsOf_stamped (now : Instant) (seqs : List Nat)
    (inFlight : AssocMap Nat InFlightEntry) (others : List Nat) :
    datagramsOf (stamped now seqs inFlight) others = datagramsOf inFlight others := by
  simp only [datagramsOf, datagram_stamped]

theorem datagramsOf_append (inFlight : AssocMap Nat InFlightEntry) (first second : List Nat) :
    datagramsOf inFlight (first ++ second) =
      datagramsOf inFlight first ++ datagramsOf inFlight second :=
  List.filterMap_append

theorem stamped_append (now : Instant) (first second : List Nat)
    (inFlight : AssocMap Nat InFlightEntry) :
    stamped now second (stamped now first inFlight) = stamped now (first ++ second) inFlight := by
  rw [stamped, stamped, AssocMap.mapValues_mapValues]
  apply AssocMap.mapValues_congr
  intro seq entry
  by_cases inFirst : seq ∈ first
  · by_cases inSecond : seq ∈ second
    · simp [inFirst, inSecond]
    · simp [inFirst, inSecond]
  · by_cases inSecond : seq ∈ second
    · simp [inFirst, inSecond]
    · simp [inFirst, inSecond]

/-! ### Sending a list -/

def sending (now : Instant) (seqs : List Nat) (state : BatchState) : BatchState where
  inFlight := stamped now seqs state.inFlight
  pacer := { state.pacer with tokens := state.pacer.tokens - total (size state.inFlight) seqs }
  retransmits := state.retransmits
  batch := state.batch ++ datagramsOf state.inFlight seqs

theorem sending_append (now : Instant) (first second : List Nat) (state : BatchState) :
    sending now second (sending now first state) = sending now (first ++ second) state := by
  simp only [sending, stamped_append, size_stamped, datagramsOf_stamped, total_append,
    List.append_assoc, datagramsOf_append, sub_sub]

theorem sending_nil (now : Instant) (state : BatchState) : sending now [] state = state := by
  have unstamped : stamped now [] state.inFlight = state.inFlight :=
    AssocMap.mapValues_eq_self _ (fun seq entry => if_neg List.not_mem_nil)
  simp only [sending, unstamped, total_nil, sub_zero, datagramsOf, List.filterMap_nil,
    List.append_nil]

theorem transmit_eq {now : Instant} {state : BatchState} {seq : Nat} {entry : InFlightEntry}
    (found : state.inFlight.lookup seq = some entry) :
    transmit now state seq entry =
      if size state.inFlight seq ≤ state.pacer.tokens then some (sending now [seq] state)
      else none := by
  have cost : size state.inFlight seq = (entry.datagram.length : ℚ) := by
    rw [size, found]
    rfl
  have modified : state.inFlight.modify seq (fun stored => { stored with lastSent := now }) =
      stamped now [seq] state.inFlight := by
    apply AssocMap.mapValues_congr
    intro other stored
    simp only [List.mem_singleton]
  rw [transmit, TokenBucket.tryConsume, cost]
  by_cases covered : (entry.datagram.length : ℚ) ≤ state.pacer.tokens
  · simp only [if_pos covered, sending, total_cons, total_nil, add_zero, cost, modified,
      datagramsOf, List.filterMap_cons, found, Option.map_some, List.filterMap_nil]
  · simp only [if_neg covered]

theorem length_batch_sending_one (now : Instant) {state : BatchState} {seq : Nat}
    {entry : InFlightEntry} (found : state.inFlight.lookup seq = some entry) :
    (sending now [seq] state).batch.length = state.batch.length + 1 := by
  simp only [sending, datagramsOf, List.filterMap_cons, found, Option.map_some, List.filterMap_nil,
    List.length_append, List.length_singleton]

/-! ### The two queues -/

def taken (state : BatchState) (queue : List Nat) : List Nat :=
  served (size state.inFlight) (BATCH_SIZE - state.batch.length) state.pacer.tokens
    (live state.inFlight queue)

theorem live_cons_of_lookup {inFlight : AssocMap Nat InFlightEntry} {seq : Nat}
    {entry : InFlightEntry} (found : inFlight.lookup seq = some entry) (rest : List Nat) :
    live inFlight (seq :: rest) = seq :: live inFlight rest := by
  have present : seq ∈ inFlight.keys :=
    (AssocMap.mem_keys_iff_lookup inFlight seq).mpr ⟨entry, found⟩
  exact List.filter_cons_of_pos (decide_eq_true present)

theorem live_cons_of_gone {inFlight : AssocMap Nat InFlightEntry} {seq : Nat}
    (gone : inFlight.lookup seq = none) (rest : List Nat) :
    live inFlight (seq :: rest) = live inFlight rest := by
  have absent : seq ∉ inFlight.keys := by
    intro present
    obtain ⟨entry, found⟩ := (AssocMap.mem_keys_iff_lookup inFlight seq).mp present
    rw [gone] at found
    cases found
  apply List.filter_cons_of_neg
  rw [decide_eq_false absent]
  exact Bool.false_ne_true

/-- A live request that the bucket covers is taken before the rest of its queue. -/
theorem taken_cons_of_le (now : Instant) {state : BatchState} {seq : Nat} {entry : InFlightEntry}
    (found : state.inFlight.lookup seq = some entry) (room : state.batch.length < BATCH_SIZE)
    (covered : size state.inFlight seq ≤ state.pacer.tokens) (rest : List Nat) :
    taken state (seq :: rest) = seq :: taken (sending now [seq] state) rest := by
  have places : BATCH_SIZE - state.batch.length =
      BATCH_SIZE - (sending now [seq] state).batch.length + 1 := by
    rw [length_batch_sending_one now found]
    omega
  rw [taken, live_cons_of_lookup found, places, served_of_le _ _ covered, taken]
  simp only [sending, size_stamped, live_stamped, total_cons, total_nil, add_zero]

theorem taken_cons_of_lt {state : BatchState} {seq : Nat} {entry : InFlightEntry}
    (found : state.inFlight.lookup seq = some entry)
    (uncovered : state.pacer.tokens < size state.inFlight seq) (rest : List Nat) :
    taken state (seq :: rest) = [] := by
  rw [taken, live_cons_of_lookup found, served_of_lt _ _ _ uncovered]

theorem taken_cons_of_gone {state : BatchState} {seq : Nat}
    (gone : state.inFlight.lookup seq = none) (rest : List Nat) :
    taken state (seq :: rest) = taken state rest := by
  rw [taken, live_cons_of_gone gone, taken]

theorem taken_of_full {state : BatchState} (full : ¬ state.batch.length < BATCH_SIZE)
    (queue : List Nat) : taken state queue = [] := by
  rw [taken, Nat.sub_eq_zero_of_le (Nat.not_lt.mp full), served_zero]

/-- A queue is drained by the requests that are taken. -/
theorem drainQueue_eq (now : Instant) (queue : List Nat) (state : BatchState) :
    (drainQueue now queue state).1 =
      { sending now (taken state queue) state with
        retransmits := state.retransmits + (taken state queue).length } := by
  induction queue generalizing state with
  | nil =>
      have nothing : taken state [] = [] := by
        rw [taken, live, List.filter_nil, served_nil]
      rw [drainQueue, nothing, sending_nil]
      rfl
  | cons seq rest ih =>
      rw [drainQueue]
      split
      · rename_i room
        cases found : state.inFlight.lookup seq with
        | none =>
            rw [taken_cons_of_gone found]
            exact ih state
        | some entry =>
            dsimp only
            rw [transmit_eq found]
            by_cases covered : size state.inFlight seq ≤ state.pacer.tokens
            · rw [if_pos covered, taken_cons_of_le now found room covered]
              dsimp only
              rw [ih]
              have joined := sending_append now [seq] (taken (sending now [seq] state) rest) state
              rw [List.singleton_append] at joined
              have counted : state.retransmits +
                  (seq :: taken (sending now [seq] state) rest).length =
                    state.retransmits + 1 + (taken (sending now [seq] state) rest).length := by
                rw [List.length_cons]
                omega
              rw [← joined, counted]
              rfl
            · rw [if_neg covered, taken_cons_of_lt found (lt_of_not_ge covered), sending_nil]
              rfl
      · rename_i full
        rw [taken_of_full full, sending_nil]
        rfl

/-- What becomes of the requests of a queue: they stay, they are taken, or their
packets are no longer in flight. -/
theorem drainQueue_conserves (now : Instant) (queue : List Nat) (state : BatchState) :
    ∃ gone, (∀ seq, seq ∈ gone → seq ∉ state.inFlight.keys) ∧
      queue.Perm ((drainQueue now queue state).2 ++ (taken state queue ++ gone)) := by
  induction queue generalizing state with
  | nil =>
      refine ⟨[], fun seq member => absurd member List.not_mem_nil, ?_⟩
      have nothing : taken state [] = [] := by
        rw [taken, live, List.filter_nil, served_nil]
      rw [drainQueue, nothing]
      exact List.Perm.refl []
  | cons seq rest ih =>
      rw [drainQueue]
      split
      · rename_i room
        cases found : state.inFlight.lookup seq with
        | none =>
            have absent : seq ∉ state.inFlight.keys := by
              rw [← AList.mem_keys]
              exact AList.lookup_eq_none.mp found
            obtain ⟨gone, goneAbsent, conserved⟩ := ih state
            refine ⟨seq :: gone, List.forall_mem_cons.mpr ⟨absent, goneAbsent⟩, ?_⟩
            rw [taken_cons_of_gone found, ← List.append_assoc]
            rw [← List.append_assoc] at conserved
            exact (conserved.cons seq).trans List.perm_middle.symm
        | some entry =>
            dsimp only
            rw [transmit_eq found]
            by_cases covered : size state.inFlight seq ≤ state.pacer.tokens
            · rw [if_pos covered, taken_cons_of_le now found room covered]
              obtain ⟨gone, goneAbsent, conserved⟩ :=
                ih { sending now [seq] state with
                  retransmits := (sending now [seq] state).retransmits + 1 }
              refine ⟨gone, ?_, (conserved.cons seq).trans List.perm_middle.symm⟩
              intro other member
              rw [← keys_stamped now [seq]]
              exact goneAbsent other member
            · rw [if_neg covered, taken_cons_of_lt found (lt_of_not_ge covered)]
              refine ⟨[], fun other member => absurd member List.not_mem_nil, ?_⟩
              rw [List.append_nil, List.append_nil]
              exact (List.perm_append_singleton seq rest).symm
      · rename_i full
        refine ⟨[], fun other member => absurd member List.not_mem_nil, ?_⟩
        rw [taken_of_full full, List.append_nil, List.append_nil]

/-! ### The timer -/

theorem sendUnsent_eq (now : Instant) (seqs : List Nat) (state : BatchState)
    (stored : ∀ seq, seq ∈ seqs → seq ∈ state.inFlight.keys) {places : Nat}
    (fits : seqs.length ≤ places) :
    sendUnsent now seqs state =
      sending now (served (size state.inFlight) places state.pacer.tokens seqs) state := by
  induction seqs generalizing state places with
  | nil => rw [sendUnsent, served_nil, sending_nil]
  | cons seq rest ih =>
      obtain ⟨entry, found⟩ :=
        (AssocMap.mem_keys_iff_lookup _ seq).mp (stored seq List.mem_cons_self)
      obtain ⟨fewer, rfl⟩ := Nat.exists_eq_succ_of_ne_zero
        (Nat.ne_of_gt (Nat.lt_of_lt_of_le (Nat.succ_pos rest.length) fits))
      rw [sendUnsent, found]
      dsimp only
      rw [transmit_eq found]
      by_cases covered : size state.inFlight seq ≤ state.pacer.tokens
      · rw [if_pos covered, served_of_le _ _ covered]
        dsimp only
        have later := ih (sending now [seq] state) (fun other member => by
          rw [sending, keys_stamped]
          exact stored other (List.mem_cons_of_mem seq member)) (Nat.le_of_succ_le_succ fits)
        rw [later, sending_append, List.singleton_append]
        simp only [sending, size_stamped, total_cons, total_nil, add_zero]
      · rw [if_neg covered, served_of_lt _ _ _ (lt_of_not_ge covered), sending_nil]

theorem mem_keys_of_mem_live {inFlight : AssocMap Nat InFlightEntry} {queue : List Nat} {seq : Nat}
    (member : seq ∈ live inFlight queue) : seq ∈ inFlight.keys :=
  of_decide_eq_true (List.mem_filter.mp member).2

theorem map_some_datagramsOf {inFlight : AssocMap Nat InFlightEntry} {seqs : List Nat}
    (stored : ∀ seq, seq ∈ seqs → seq ∈ inFlight.keys) :
    (datagramsOf inFlight seqs).map some =
      seqs.map (fun seq => (inFlight.lookup seq).map InFlightEntry.datagram) := by
  induction seqs with
  | nil => rfl
  | cons seq rest ih =>
      obtain ⟨entry, found⟩ :=
        (AssocMap.mem_keys_iff_lookup _ seq).mp (stored seq List.mem_cons_self)
      have later := ih (fun other member => stored other (List.mem_cons_of_mem seq member))
      simp only [datagramsOf, List.filterMap_cons, found, Option.map_some, List.map_cons] at later ⊢
      rw [later]

theorem length_datagramsOf {inFlight : AssocMap Nat InFlightEntry} {seqs : List Nat}
    (stored : ∀ seq, seq ∈ seqs → seq ∈ inFlight.keys) :
    (datagramsOf inFlight seqs).length = seqs.length := by
  have added := congrArg List.length (map_some_datagramsOf stored)
  rw [List.length_map, List.length_map] at added
  exact added

/-! ### The plan of a batch -/

def startBatch (sender : Sender) : BatchState :=
  { inFlight := sender.inFlight
    pacer := sender.pacer
    retransmits := sender.stats.retransmits
    batch := [] }

def requests (sender : Sender) : List Nat :=
  sender.urgentRetransmits ++ sender.normalRetransmits

def urgentTaken (sender : Sender) : List Nat :=
  served (size sender.inFlight) BATCH_SIZE sender.pacer.tokens
    (live sender.inFlight sender.urgentRetransmits)

/-- The normal requests that are covered by what the urgent ones leave. -/
def normalTaken (sender : Sender) : List Nat :=
  served (size sender.inFlight) (BATCH_SIZE - sender.urgentTaken.length)
    (sender.pacer.tokens - total (size sender.inFlight) sender.urgentTaken)
    (live sender.inFlight sender.normalRetransmits)

def retransmitsTaken (sender : Sender) : List Nat := sender.urgentTaken ++ sender.normalTaken

/-- The packets that are silent for longer than the timeout and not reported
missing, without those of a list. -/
def overdueExcept (sender : Sender) (now : Instant) (sent : List Nat) : List Nat :=
  (sender.inFlight.entries.filter (fun entry =>
    decide (sender.stats.rto < Instant.elapsed now entry.2.lastSent ∧ entry.2.nakCount = 0 ∧
      entry.1 ∉ sent))).map Sigma.fst

/-- The packets that the timer selects: what is not in the batch yet. -/
def timerSelected (sender : Sender) (now : Instant) : List Nat :=
  sender.overdueExcept now sender.retransmitsTaken

def newTaken (sender : Sender) (now : Instant) : List Nat :=
  served (size sender.inFlight) (BATCH_SIZE - sender.retransmitsTaken.length)
    (sender.pacer.tokens - total (size sender.inFlight) sender.retransmitsTaken)
    (sender.timerSelected now)

def batchPlan (sender : Sender) (now : Instant) : List Nat :=
  sender.retransmitsTaken ++ sender.newTaken now

theorem mem_keys_of_mem_retransmitsTaken {sender : Sender} {seq : Nat}
    (member : seq ∈ sender.retransmitsTaken) : seq ∈ sender.inFlight.keys := by
  rcases List.mem_append.mp member with urgent | normal
  · exact mem_keys_of_mem_live ((served_isPrefix _ _ _ _).subset urgent)
  · exact mem_keys_of_mem_live ((served_isPrefix _ _ _ _).subset normal)

theorem mem_timerSelected_iff (sender : Sender) (now : Instant) (seq : Nat) :
    seq ∈ sender.timerSelected now ↔ ∃ entry, sender.inFlight.lookup seq = some entry ∧
      sender.stats.rto < Instant.elapsed now entry.lastSent ∧ entry.nakCount = 0 ∧
        seq ∉ sender.retransmitsTaken := by
  rw [timerSelected, overdueExcept, List.mem_map]
  constructor
  · rintro ⟨stored, kept, rfl⟩
    obtain ⟨listed, selected⟩ := List.mem_filter.mp kept
    exact ⟨stored.2, AList.mem_lookup_iff.mpr listed, of_decide_eq_true selected⟩
  · rintro ⟨entry, found, selected⟩
    exact ⟨⟨seq, entry⟩,
      List.mem_filter.mpr ⟨AList.mem_lookup_iff.mp found, decide_eq_true selected⟩, rfl⟩

theorem mem_keys_of_mem_timerSelected {sender : Sender} {now : Instant} {seq : Nat}
    (member : seq ∈ sender.timerSelected now) : seq ∈ sender.inFlight.keys := by
  obtain ⟨entry, found, _⟩ := (mem_timerSelected_iff sender now seq).mp member
  exact (AssocMap.mem_keys_iff_lookup _ seq).mpr ⟨entry, found⟩

theorem mem_keys_of_mem_batchPlan {sender : Sender} {now : Instant} {seq : Nat}
    (member : seq ∈ sender.batchPlan now) : seq ∈ sender.inFlight.keys := by
  rcases List.mem_append.mp member with retransmit | fresh
  · exact mem_keys_of_mem_retransmitsTaken retransmit
  · exact mem_keys_of_mem_timerSelected ((served_isPrefix _ _ _ _).subset fresh)

theorem retransmitsTaken_sublist (sender : Sender) :
    sender.retransmitsTaken.Sublist sender.requests :=
  List.Sublist.append ((served_isPrefix _ _ _ _).sublist.trans List.filter_sublist)
    ((served_isPrefix _ _ _ _).sublist.trans List.filter_sublist)

theorem timerSelected_nodup (sender : Sender) (now : Instant) :
    (sender.timerSelected now).Nodup := by
  have listed : (sender.timerSelected now).Sublist sender.inFlight.keys :=
    List.filter_sublist.map Sigma.fst
  exact (AList.keys_nodup _).sublist listed

/-- The timer selects nothing that a request has put in the batch. -/
theorem batchPlan_nodup {sender : Sender} (distinct : sender.requests.Nodup) (now : Instant) :
    (sender.batchPlan now).Nodup := by
  have fresh : (sender.newTaken now).Sublist (sender.timerSelected now) :=
    (served_isPrefix _ _ _ _).sublist
  rw [batchPlan, List.nodup_append']
  refine ⟨distinct.sublist sender.retransmitsTaken_sublist,
    (timerSelected_nodup sender now).sublist fresh, ?_⟩
  intro seq again new
  obtain ⟨_, _, _, _, notTaken⟩ := (mem_timerSelected_iff sender now seq).mp (fresh.subset new)
  exact notTaken again

theorem unsentSeqs_stamped (sender : Sender) (now : Instant) (pacer : TokenBucket)
    (retransmits : Nat) (batch : List Bytes) :
    unsentSeqs now sender.stats.rto
        { inFlight := stamped now sender.retransmitsTaken sender.inFlight
          pacer := pacer
          retransmits := retransmits
          batch := batch } =
      (sender.timerSelected now).take (BATCH_SIZE - batch.length) := by
  have notSilent : ¬ sender.stats.rto < Instant.elapsed now now := by
    rw [Instant.elapsed, Int.sub_self]
    exact Nat.not_lt_zero _
  rw [unsentSeqs, timerSelected, overdueExcept]
  congr 1
  simp only [stamped, AssocMap.mapValues, List.filter_map, List.map_map]
  congr 1
  apply List.filter_congr
  intro entry _
  simp only [Function.comp_apply]
  by_cases sent : entry.1 ∈ sender.retransmitsTaken
  · simp only [sent, if_true, notSilent, false_and, not_true, and_false]
  · simp only [sent, if_false, not_false_iff, and_true]

def retransmitted (sender : Sender) (now : Instant) : BatchState :=
  { sending now sender.retransmitsTaken sender.startBatch with
    retransmits := sender.stats.retransmits + sender.retransmitsTaken.length }

theorem length_batch_retransmitted (sender : Sender) (now : Instant) :
    (sender.retransmitted now).batch.length = sender.retransmitsTaken.length :=
  length_datagramsOf (fun _ => mem_keys_of_mem_retransmitsTaken)

def urgentDrained (sender : Sender) (now : Instant) : BatchState :=
  (drainQueue now sender.urgentRetransmits sender.startBatch).1

theorem urgentDrained_eq (sender : Sender) (now : Instant) :
    sender.urgentDrained now =
      { sending now sender.urgentTaken sender.startBatch with
        retransmits := sender.stats.retransmits + sender.urgentTaken.length } :=
  drainQueue_eq now sender.urgentRetransmits sender.startBatch

theorem taken_urgentDrained (sender : Sender) (now : Instant) :
    taken (sender.urgentDrained now) sender.normalRetransmits = sender.normalTaken := by
  have places : (datagramsOf sender.inFlight sender.urgentTaken).length =
      sender.urgentTaken.length :=
    length_datagramsOf (fun seq member =>
      mem_keys_of_mem_retransmitsTaken (List.mem_append_left _ member))
  rw [urgentDrained_eq, taken, normalTaken]
  simp only [sending, startBatch, size_stamped, live_stamped, List.nil_append, places]

theorem normalDrained_eq (sender : Sender) (now : Instant) :
    (drainQueue now sender.normalRetransmits (sender.urgentDrained now)).1 =
      sender.retransmitted now := by
  have joined := sending_append now sender.urgentTaken sender.normalTaken sender.startBatch
  rw [drainQueue_eq, taken_urgentDrained, urgentDrained_eq, retransmitted, retransmitsTaken,
    ← joined, List.length_append, ← Nat.add_assoc]
  rfl

theorem assembleBatch_eq (sender : Sender) (now : Instant) :
    (sender.assembleBatch now).1 =
      { sending now (sender.batchPlan now) sender.startBatch with
        retransmits := sender.stats.retransmits + sender.retransmitsTaken.length } := by
  have phases : (sender.assembleBatch now).1 =
      sendUnsent now (unsentSeqs now sender.stats.rto (sender.retransmitted now))
        (sender.retransmitted now) := by
    rw [← normalDrained_eq]
    rfl
  have selected : unsentSeqs now sender.stats.rto (sender.retransmitted now) =
      (sender.timerSelected now).take (BATCH_SIZE - sender.retransmitsTaken.length) := by
    rw [← length_batch_retransmitted sender now]
    exact unsentSeqs_stamped sender now _ _ _
  have stored : ∀ seq, seq ∈ (sender.timerSelected now).take
      (BATCH_SIZE - sender.retransmitsTaken.length) →
      seq ∈ (sender.retransmitted now).inFlight.keys := by
    intro seq member
    rw [retransmitted, sending, keys_stamped]
    exact mem_keys_of_mem_timerSelected (List.mem_of_mem_take member)
  have fresh : served (size (sender.retransmitted now).inFlight)
      (BATCH_SIZE - sender.retransmitsTaken.length) (sender.retransmitted now).pacer.tokens
      ((sender.timerSelected now).take (BATCH_SIZE - sender.retransmitsTaken.length)) =
        sender.newTaken now := by
    rw [served_take, newTaken]
    simp only [retransmitted, sending, startBatch, size_stamped]
  have joined := sending_append now sender.retransmitsTaken (sender.newTaken now) sender.startBatch
  rw [phases, selected, sendUnsent_eq now _ _ stored (List.length_take_le _ _), fresh, batchPlan,
    ← joined]
  rfl

theorem assembleBatch_batch (sender : Sender) (now : Instant) :
    (sender.assembleBatch now).1.batch = datagramsOf sender.inFlight (sender.batchPlan now) := by
  rw [assembleBatch_eq]
  rfl

/-! ### What a call leaves behind -/

/-- A call takes over what was assembled, whether or not there is anything to
dispatch. -/
structure TakesOver (sender : Sender) (now : Instant) (after : Sender) : Prop where
  inFlight : after.inFlight = (sender.assembleBatch now).1.inFlight
  pacer : after.pacer = (sender.assembleBatch now).1.pacer
  urgent : after.urgentRetransmits = (sender.assembleBatch now).2.1
  normal : after.normalRetransmits = (sender.assembleBatch now).2.2
  sessionId : after.sessionId = sender.sessionId
  nextSeq : after.nextSeq = sender.nextSeq
  retransmits : after.stats.retransmits = (sender.assembleBatch now).1.retransmits

theorem sendBatch_takesOver (sender : Sender) (now : Instant) (accepted : Int) :
    TakesOver sender now (sender.sendBatch now accepted).1 := by
  simp only [sendBatch]
  split
  · exact ⟨rfl, rfl, rfl, rfl, rfl, rfl, rfl⟩
  · exact ⟨rfl, rfl, rfl, rfl, rfl, rfl, rfl⟩

theorem sendBatch_inFlight (sender : Sender) (now : Instant) (accepted : Int) :
    (sender.sendBatch now accepted).1.inFlight =
      stamped now (sender.batchPlan now) sender.inFlight := by
  rw [(sendBatch_takesOver sender now accepted).inFlight, assembleBatch_eq]
  rfl

theorem nakCount_sendBatch (sender : Sender) (now : Instant) (accepted : Int) (seq : Nat) :
    ((sender.sendBatch now accepted).1.inFlight.lookup seq).map InFlightEntry.nakCount =
      (sender.inFlight.lookup seq).map InFlightEntry.nakCount := by
  rw [sendBatch_inFlight]
  exact map_stamped InFlightEntry.nakCount (fun _ _ => rfl) now _ _ seq

theorem sendBatch_tokens (sender : Sender) (now : Instant) (accepted : Int) :
    (sender.sendBatch now accepted).1.pacer.tokens =
      sender.pacer.tokens - total (size sender.inFlight) (sender.batchPlan now) := by
  rw [(sendBatch_takesOver sender now accepted).pacer, assembleBatch_eq]
  rfl

/-- The requests of both queues before and after a call. -/
structure QueuesConserved (sender after : Sender) (goneUrgent goneNormal : List Nat) : Prop where
  urgent : sender.urgentRetransmits.Perm
    (after.urgentRetransmits ++ (sender.urgentTaken ++ goneUrgent))
  normal : sender.normalRetransmits.Perm
    (after.normalRetransmits ++ (sender.normalTaken ++ goneNormal))
  urgentGone : ∀ seq, seq ∈ goneUrgent → seq ∉ sender.inFlight.keys
  normalGone : ∀ seq, seq ∈ goneNormal → seq ∉ sender.inFlight.keys

theorem sendBatch_queues (sender : Sender) (now : Instant) (accepted : Int) :
    ∃ goneUrgent goneNormal,
      QueuesConserved sender (sender.sendBatch now accepted).1 goneUrgent goneNormal := by
  obtain ⟨goneUrgent, urgentGone, urgent⟩ :=
    drainQueue_conserves now sender.urgentRetransmits sender.startBatch
  obtain ⟨goneNormal, normalGone, normal⟩ :=
    drainQueue_conserves now sender.normalRetransmits (sender.urgentDrained now)
  rw [taken_urgentDrained] at normal
  rw [urgentDrained_eq, sending, keys_stamped] at normalGone
  have left := sendBatch_takesOver sender now accepted
  refine ⟨goneUrgent, goneNormal, ?_, ?_, urgentGone, normalGone⟩
  · rw [left.urgent]
    exact urgent
  · rw [left.normal]
    exact normal

theorem requests_sendBatch (sender : Sender) (now : Instant) (accepted : Int) :
    ∃ gone, (∀ seq, seq ∈ gone → seq ∉ sender.inFlight.keys) ∧
      sender.requests.Perm
        ((sender.sendBatch now accepted).1.requests ++ (sender.retransmitsTaken ++ gone)) := by
  obtain ⟨goneUrgent, goneNormal, queues⟩ := sendBatch_queues sender now accepted
  refine ⟨goneUrgent ++ goneNormal, ?_, ?_⟩
  · intro seq member
    rcases List.mem_append.mp member with urgent | normal
    · exact queues.urgentGone seq urgent
    · exact queues.normalGone seq normal
  · rw [List.perm_iff_count]
    intro seq
    have urgent := queues.urgent.count_eq seq
    have normal := queues.normal.count_eq seq
    simp only [requests, retransmitsTaken, List.count_append] at urgent normal ⊢
    omega

theorem total_size_eq (inFlight : AssocMap Nat InFlightEntry) (seqs : List Nat) :
    total (size inFlight) seqs = (((datagramsOf inFlight seqs).map List.length).sum : ℚ) := by
  induction seqs with
  | nil => rfl
  | cons seq rest ih =>
      rw [total_cons, ih, size]
      simp only [datagramsOf, List.filterMap_cons]
      cases inFlight.lookup seq with
      | none => exact zero_add _
      | some entry =>
          rw [Option.elim_some, Option.map_some, List.map_cons, List.sum_cons, Nat.cast_add]

theorem length_batchPlan_le (sender : Sender) (now : Instant) :
    (sender.batchPlan now).length ≤ BATCH_SIZE := by
  have urgent := length_served_le (size sender.inFlight) BATCH_SIZE sender.pacer.tokens
    (live sender.inFlight sender.urgentRetransmits)
  have normal := length_served_le (size sender.inFlight)
    (BATCH_SIZE - sender.urgentTaken.length)
    (sender.pacer.tokens - total (size sender.inFlight) sender.urgentTaken)
    (live sender.inFlight sender.normalRetransmits)
  have fresh := length_served_le (size sender.inFlight)
    (BATCH_SIZE - sender.retransmitsTaken.length)
    (sender.pacer.tokens - total (size sender.inFlight) sender.retransmitsTaken)
    (sender.timerSelected now)
  rw [← urgentTaken] at urgent
  rw [← normalTaken] at normal
  rw [← newTaken] at fresh
  have retransmits : sender.retransmitsTaken.length =
      sender.urgentTaken.length + sender.normalTaken.length := List.length_append
  rw [batchPlan, List.length_append]
  omega

theorem total_batchPlan_le (sender : Sender) (now : Instant) :
    total (size sender.inFlight) (sender.batchPlan now) ≤ max sender.pacer.tokens 0 := by
  rw [batchPlan, total_append]
  by_cases noneNew : sender.newTaken now = []
  · rw [noneNew, total_nil, add_zero, retransmitsTaken, total_append]
    by_cases noneNormal : sender.normalTaken = []
    · rw [noneNormal, total_nil, add_zero]
      by_cases noneUrgent : sender.urgentTaken = []
      · rw [noneUrgent, total_nil]
        exact le_max_right _ _
      · exact le_max_of_le_left (total_served_le _ noneUrgent)
    · exact le_max_of_le_left (le_sub_iff_add_le'.mp (total_served_le _ noneNormal))
  · exact le_max_of_le_left (le_sub_iff_add_le'.mp (total_served_le _ noneNew))

/-- One call of `send_batch`: the batch, its tokens, the stored datagrams, and
the requests of the two queues. -/
structure Conserves (sender after : Sender) (batch : List Bytes) : Prop where
  size : batch.length ≤ 64
  consumed : sender.pacer.tokens - after.pacer.tokens = ((batch.map List.length).sum : ℚ)
  available : ((batch.map List.length).sum : ℚ) ≤ max sender.pacer.tokens 0
  keys : after.inFlight.keys = sender.inFlight.keys
  datagrams : ∀ seq, (after.inFlight.lookup seq).map InFlightEntry.datagram =
    (sender.inFlight.lookup seq).map InFlightEntry.datagram
  requests : ∃ sentUrgent sentNormal sentNew goneUrgent goneNormal : List Nat,
    batch.map some = (sentUrgent ++ sentNormal ++ sentNew).map
      (fun seq => (sender.inFlight.lookup seq).map InFlightEntry.datagram) ∧
    sender.urgentRetransmits.Perm (after.urgentRetransmits ++ (sentUrgent ++ goneUrgent)) ∧
    sender.normalRetransmits.Perm (after.normalRetransmits ++ (sentNormal ++ goneNormal)) ∧
    (∀ seq, seq ∈ goneUrgent ++ goneNormal → seq ∉ sender.inFlight.keys)

theorem sendBatch_conserves (sender : Sender) (now : Instant) (accepted : Int) :
    Conserves sender (sender.sendBatch now accepted).1 (sender.assembleBatch now).1.batch := by
  have stored : ∀ seq, seq ∈ sender.batchPlan now → seq ∈ sender.inFlight.keys :=
    fun _ => mem_keys_of_mem_batchPlan
  rw [assembleBatch_batch]
  constructor
  case size =>
    rw [length_datagramsOf stored]
    exact length_batchPlan_le sender now
  case consumed => rw [sendBatch_tokens, sub_sub_cancel, total_size_eq]
  case available =>
    rw [← total_size_eq]
    exact total_batchPlan_le sender now
  case keys => rw [sendBatch_inFlight, keys_stamped]
  case datagrams =>
    intro seq
    rw [sendBatch_inFlight, datagram_stamped]
  case requests =>
    obtain ⟨goneUrgent, goneNormal, queues⟩ := sendBatch_queues sender now accepted
    refine ⟨sender.urgentTaken, sender.normalTaken, sender.newTaken now, goneUrgent, goneNormal,
      map_some_datagramsOf stored, queues.urgent, queues.normal, ?_⟩
    intro seq member
    rcases List.mem_append.mp member with urgent | normal
    · exact queues.urgentGone seq urgent
    · exact queues.normalGone seq normal

end Sender

end Udpix.Protocol

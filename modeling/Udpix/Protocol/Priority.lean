/-
The order of the three classes in a batch.

Each phase stops at the first datagram that the bucket does not cover, and the
next phase goes on with the tokens that are left.  So a smaller datagram of a
lower class overtakes a larger one of a higher class that has just been put back
into its queue.
-/

import Udpix.Protocol.BatchPlan

namespace Udpix.Protocol

open Budget

namespace Sender

def normalDrained (sender : Sender) (now : Instant) : BatchState :=
  (drainQueue now sender.normalRetransmits (sender.urgentDrained now)).1

def PutsNormal (sender : Sender) (now : Instant) : Prop :=
  (sender.urgentDrained now).batch.length < (sender.normalDrained now).batch.length

def PutsNew (sender : Sender) (now : Instant) : Prop :=
  (sender.normalDrained now).batch.length < (sender.assembleBatch now).1.batch.length

def Exhausted (inFlight : AssocMap Nat InFlightEntry) (queue : List Nat) : Prop :=
  ∀ seq, seq ∈ queue → seq ∉ inFlight.keys

/-- A class is sent only when nothing is left of the classes above it. -/
structure StrictPriority (sender : Sender) (now : Instant) (after : Sender) : Prop where
  urgentFirst : sender.PutsNormal now ∨ sender.PutsNew now →
    Exhausted after.inFlight after.urgentRetransmits
  normalFirst : sender.PutsNew now → Exhausted after.inFlight after.normalRetransmits

/-- The first of the packets costs more than what is left when `paid` is sent. -/
def FirstTooDear (sender : Sender) (paid packets : List Nat) : Prop :=
  ∀ seq, packets.head? = some seq →
    sender.pacer.tokens - total (size sender.inFlight) paid < size sender.inFlight seq

/-- Where the tokens give out at a request for a packet in flight, with places
left in the batch, the first datagram of each class below costs more than what
is left. -/
def NothingOvertakes (sender : Sender) (now : Instant) : Prop :=
  ∀ paid, GivesOut (size sender.inFlight) BATCH_SIZE sender.pacer.tokens
      (live sender.inFlight sender.urgentRetransmits ++
        live sender.inFlight sender.normalRetransmits) paid →
    (paid.length < (live sender.inFlight sender.urgentRetransmits).length →
      sender.FirstTooDear paid (live sender.inFlight sender.normalRetransmits)) ∧
    sender.FirstTooDear paid (sender.overdueExcept now paid)

/-! ### The phases and the plan -/

theorem length_batch_urgentDrained (sender : Sender) (now : Instant) :
    (sender.urgentDrained now).batch.length = sender.urgentTaken.length := by
  rw [urgentDrained_eq]
  exact length_datagramsOf (fun seq member =>
    mem_keys_of_mem_retransmitsTaken (List.mem_append_left _ member))

theorem length_batch_assembleBatch (sender : Sender) (now : Instant) :
    (sender.assembleBatch now).1.batch.length = (sender.batchPlan now).length := by
  rw [assembleBatch_batch]
  exact length_datagramsOf (fun _ => mem_keys_of_mem_batchPlan)

theorem putsNormal_iff (sender : Sender) (now : Instant) :
    sender.PutsNormal now ↔ sender.normalTaken ≠ [] := by
  rw [PutsNormal, normalDrained, normalDrained_eq, length_batch_urgentDrained,
    length_batch_retransmitted, retransmitsTaken, List.length_append, ← List.length_pos_iff]
  omega

theorem putsNew_iff (sender : Sender) (now : Instant) :
    sender.PutsNew now ↔ sender.newTaken now ≠ [] := by
  rw [PutsNew, normalDrained, normalDrained_eq, length_batch_retransmitted,
    length_batch_assembleBatch, batchPlan, List.length_append, ← List.length_pos_iff]
  omega

theorem live_left_perm {inFlight : AssocMap Nat InFlightEntry} {queue left sent gone : List Nat}
    (conserved : queue.Perm (left ++ (sent ++ gone)))
    (absent : ∀ seq, seq ∈ gone → seq ∉ inFlight.keys) {waiting : List Nat}
    (split : live inFlight queue = sent ++ waiting) :
    (live inFlight left).Perm waiting := by
  have sentLive : live inFlight sent = sent := by
    apply List.filter_eq_self.mpr
    intro seq member
    have listed : seq ∈ live inFlight queue := by
      rw [split]
      exact List.mem_append_left waiting member
    exact decide_eq_true (mem_keys_of_mem_live listed)
  have goneDead : live inFlight gone = [] := by
    apply List.filter_eq_nil_iff.mpr
    intro seq member
    rw [decide_eq_false (absent seq member)]
    exact Bool.false_ne_true
  have kept : (live inFlight queue).Perm (live inFlight (left ++ (sent ++ gone))) :=
    conserved.filter _
  rw [split, live, List.filter_append, List.filter_append, ← live, ← live, ← live, sentLive,
    goneDead, List.append_nil] at kept
  exact ((List.perm_append_left_iff sent).mp (kept.trans List.perm_append_comm)).symm

theorem exhausted_iff_live_eq_nil (inFlight : AssocMap Nat InFlightEntry) (queue : List Nat) :
    Exhausted inFlight queue ↔ live inFlight queue = [] := by
  rw [live, List.filter_eq_nil_iff]
  simp only [decide_eq_true_eq]
  rfl

theorem exhausted_iff {inFlight : AssocMap Nat InFlightEntry} {queue left sent gone : List Nat}
    (conserved : queue.Perm (left ++ (sent ++ gone)))
    (absent : ∀ seq, seq ∈ gone → seq ∉ inFlight.keys) (initial : sent <+: live inFlight queue) :
    Exhausted inFlight left ↔ sent = live inFlight queue := by
  obtain ⟨waiting, split⟩ := initial
  have kept := live_left_perm conserved absent split.symm
  rw [exhausted_iff_live_eq_nil, ← split]
  constructor
  · intro nothing
    rw [nothing] at kept
    rw [kept.symm.eq_nil, List.append_nil]
  · intro all
    rw [List.self_eq_append_right.mp all] at kept
    exact kept.eq_nil

theorem sendBatch_exhausted_iff (sender : Sender) (now : Instant) (accepted : Int) :
    (Exhausted (sender.sendBatch now accepted).1.inFlight
        (sender.sendBatch now accepted).1.urgentRetransmits ↔
      sender.urgentTaken = live sender.inFlight sender.urgentRetransmits) ∧
    (Exhausted (sender.sendBatch now accepted).1.inFlight
        (sender.sendBatch now accepted).1.normalRetransmits ↔
      sender.normalTaken = live sender.inFlight sender.normalRetransmits) := by
  obtain ⟨goneUrgent, goneNormal, queues⟩ := sendBatch_queues sender now accepted
  have sameKeys : ∀ queue, Exhausted (sender.sendBatch now accepted).1.inFlight queue ↔
      Exhausted sender.inFlight queue := by
    intro queue
    rw [Exhausted, sendBatch_inFlight, keys_stamped, Exhausted]
  constructor
  · rw [sameKeys]
    exact exhausted_iff queues.urgent queues.urgentGone (served_isPrefix _ _ _ _)
  · rw [sameKeys]
    exact exhausted_iff queues.normal queues.normalGone (served_isPrefix _ _ _ _)

/-- A phase that sends nothing although it has a place finds its first datagram
too dear. -/
theorem firstTooDear_of_served_eq_nil {sender : Sender} {paid packets : List Nat} {places : Nat}
    (room : 0 < places)
    (nothing : served (size sender.inFlight) places
      (sender.pacer.tokens - total (size sender.inFlight) paid) packets = []) :
    sender.FirstTooDear paid packets := by
  intro seq first
  by_contra covered
  exact (served_ne_nil_iff _ _ _ _).mpr ⟨room, seq, first, le_of_not_gt covered⟩ nothing

theorem FirstTooDear.served_eq_nil {sender : Sender} {paid packets : List Nat}
    (dear : sender.FirstTooDear paid packets) (places : Nat) :
    served (size sender.inFlight) places
      (sender.pacer.tokens - total (size sender.inFlight) paid) packets = [] := by
  by_contra sends
  obtain ⟨_, seq, first, covered⟩ := (served_ne_nil_iff _ _ _ _).mp sends
  exact absurd covered (not_le_of_gt (dear seq first))

/-! ### Strict priority -/

section Blocked

variable {sender : Sender} {now : Instant}

theorem givesOut_urgent
    (waits : sender.urgentTaken ≠ live sender.inFlight sender.urgentRetransmits)
    (room : sender.urgentTaken.length < BATCH_SIZE) :
    GivesOut (size sender.inFlight) BATCH_SIZE sender.pacer.tokens
      (live sender.inFlight sender.urgentRetransmits ++
        live sender.inFlight sender.normalRetransmits) sender.urgentTaken := by
  obtain ⟨next, rest, split, places, covered, dear⟩ := givesOut_of_served_ne _ waits room
  refine ⟨next, rest ++ live sender.inFlight sender.normalRetransmits, ?_, places, covered, dear⟩
  rw [← List.cons_append, ← List.append_assoc]
  exact congrArg (· ++ live sender.inFlight sender.normalRetransmits) split

theorem givesOut_normal
    (urgentDone : sender.urgentTaken = live sender.inFlight sender.urgentRetransmits)
    (waits : sender.normalTaken ≠ live sender.inFlight sender.normalRetransmits)
    (room : sender.retransmitsTaken.length < BATCH_SIZE) :
    GivesOut (size sender.inFlight) BATCH_SIZE sender.pacer.tokens
      (live sender.inFlight sender.urgentRetransmits ++
        live sender.inFlight sender.normalRetransmits) sender.retransmitsTaken := by
  have both : sender.retransmitsTaken.length =
      sender.urgentTaken.length + sender.normalTaken.length := List.length_append
  have places : sender.normalTaken.length < BATCH_SIZE - sender.urgentTaken.length := by omega
  obtain ⟨next, rest, split, _, covered, dear⟩ := givesOut_of_served_ne _ waits places
  refine ⟨next, rest, ?_, room, ?_, ?_⟩
  · rw [← urgentDone, retransmitsTaken, List.append_assoc]
    exact congrArg (sender.urgentTaken ++ ·) split
  · intro sends
    rw [retransmitsTaken, total_append]
    by_cases noNormal : sender.normalTaken = []
    · rw [noNormal, total_nil, add_zero]
      apply total_served_le
      intro nothing
      rw [retransmitsTaken, noNormal, List.append_nil] at sends
      exact sends nothing
    · exact le_sub_iff_add_le'.mp (covered noNormal)
  · rw [retransmitsTaken, total_append, ← sub_sub]
    exact dear

/-- Nothing of a lower class is sent past a request at which the tokens gave out. -/
theorem NothingOvertakes.urgent_done (overtakes : sender.NothingOvertakes now)
    (sends : sender.normalTaken ≠ [] ∨ sender.newTaken now ≠ []) :
    sender.urgentTaken = live sender.inFlight sender.urgentRetransmits := by
  by_contra waits
  have most : sender.urgentTaken.length ≤ BATCH_SIZE := length_served_le _ _ _ _
  have noNormal : sender.normalTaken = [] := by
    rcases Nat.lt_or_ge sender.urgentTaken.length BATCH_SIZE with room | full
    · obtain ⟨next, rest, split⟩ := givesOut_of_served_ne _ waits room
      have shorter : sender.urgentTaken.length <
          (live sender.inFlight sender.urgentRetransmits).length := by
        rw [split.1, List.length_append, List.length_cons]
        exact Nat.lt_add_of_pos_right (Nat.succ_pos _)
      exact ((overtakes _ (givesOut_urgent waits room)).1 shorter).served_eq_nil _
    · rw [normalTaken, Nat.sub_eq_zero_of_le full, served_zero]
  have paid : sender.retransmitsTaken = sender.urgentTaken := by
    rw [retransmitsTaken, noNormal, List.append_nil]
  have noNew : sender.newTaken now = [] := by
    rcases Nat.lt_or_ge sender.urgentTaken.length BATCH_SIZE with room | full
    · rw [newTaken, timerSelected, paid]
      exact (overtakes _ (givesOut_urgent waits room)).2.served_eq_nil _
    · rw [newTaken, paid, Nat.sub_eq_zero_of_le full, served_zero]
  exact sends.elim (fun sendsNormal => sendsNormal noNormal) (fun sendsNew => sendsNew noNew)

theorem NothingOvertakes.normal_done (overtakes : sender.NothingOvertakes now)
    (sends : sender.newTaken now ≠ []) :
    sender.normalTaken = live sender.inFlight sender.normalRetransmits := by
  by_contra waits
  apply sends
  rcases Nat.lt_or_ge sender.retransmitsTaken.length BATCH_SIZE with room | full
  · have urgentDone := overtakes.urgent_done (.inr sends)
    exact (overtakes _ (givesOut_normal urgentDone waits room)).2.served_eq_nil _
  · rw [newTaken, Nat.sub_eq_zero_of_le full, served_zero]

theorem urgentTaken_of_covered
    (fits : (live sender.inFlight sender.urgentRetransmits).length ≤ BATCH_SIZE)
    (covered : live sender.inFlight sender.urgentRetransmits ≠ [] →
      total (size sender.inFlight) (live sender.inFlight sender.urgentRetransmits) ≤
        sender.pacer.tokens) :
    sender.urgentTaken = live sender.inFlight sender.urgentRetransmits := by
  have all := served_append_of_covered _ (size_nonneg sender.inFlight) fits covered []
  rw [List.append_nil, served_nil, List.append_nil] at all
  exact all

/-- A request at which the tokens give out, seen from the plan: an urgent one, or
a normal one after all the urgent ones. -/
theorem givesOut_cases {paid : List Nat}
    (out : GivesOut (size sender.inFlight) BATCH_SIZE sender.pacer.tokens
      (live sender.inFlight sender.urgentRetransmits ++
        live sender.inFlight sender.normalRetransmits) paid) :
    (sender.urgentTaken ≠ live sender.inFlight sender.urgentRetransmits ∧
        sender.urgentTaken = paid) ∨
      (¬ paid.length < (live sender.inFlight sender.urgentRetransmits).length ∧
        sender.normalTaken ≠ live sender.inFlight sender.normalRetransmits ∧
        sender.retransmitsTaken = paid) := by
  obtain ⟨next, rest, split, room, covered, dear⟩ := out
  rcases split_append_cases split with ⟨more, split⟩ | ⟨normalPaid, isPaid, splitNormal⟩
  · have taken : sender.urgentTaken = paid :=
      GivesOut.served_eq _ (size_nonneg sender.inFlight) ⟨next, more, split, room, covered, dear⟩
    refine .inl ⟨?_, taken⟩
    rw [taken, split]
    exact fun all => List.cons_ne_nil next more (List.self_eq_append_right.mp all)
  · -- the request is beyond the urgent queue
    subst isPaid
    rw [List.length_append] at room
    rw [total_append, ← sub_sub] at dear
    have normalNonneg := total_nonneg _ (size_nonneg sender.inFlight) normalPaid
    have both : live sender.inFlight sender.urgentRetransmits ++ normalPaid ≠ [] →
        total (size sender.inFlight) (live sender.inFlight sender.urgentRetransmits) +
          total (size sender.inFlight) normalPaid ≤ sender.pacer.tokens := by
      rw [← total_append]
      exact covered
    have urgentDone : sender.urgentTaken = live sender.inFlight sender.urgentRetransmits := by
      apply urgentTaken_of_covered (by omega)
      intro nonempty
      exact le_trans (le_add_of_nonneg_right normalNonneg)
        (both (List.append_ne_nil_of_left_ne_nil nonempty _))
    have normalDone : sender.normalTaken = normalPaid := by
      apply GivesOut.served_eq _ (size_nonneg sender.inFlight)
      rw [urgentDone]
      refine ⟨next, rest, splitNormal, by omega, fun nonempty => ?_, dear⟩
      exact le_sub_iff_add_le'.mpr (both (List.append_ne_nil_of_right_ne_nil _ nonempty))
    refine .inr ⟨?_, ?_, ?_⟩
    · rw [List.length_append]
      omega
    · rw [normalDone, splitNormal]
      exact fun all => List.cons_ne_nil next rest (List.self_eq_append_right.mp all)
    · rw [retransmitsTaken, urgentDone, normalDone]

end Blocked

/-- The classes are strict exactly when no datagram of a lower class fits the
tokens that are left where a request of a higher class did not. -/
theorem strictPriority_iff (sender : Sender) (now : Instant) (accepted : Int) :
    StrictPriority sender now (sender.sendBatch now accepted).1 ↔ sender.NothingOvertakes now := by
  obtain ⟨urgentDone, normalDone⟩ := sendBatch_exhausted_iff sender now accepted
  constructor
  · intro strict paid out
    have room : 0 < BATCH_SIZE - paid.length := by
      obtain ⟨_, _, _, places, _⟩ := out
      omega
    rcases givesOut_cases out with ⟨waits, isPaid⟩ | ⟨late, waits, isPaid⟩
    · have sendsNothing : ¬ (sender.PutsNormal now ∨ sender.PutsNew now) :=
        fun puts => waits (urgentDone.mp (strict.urgentFirst puts))
      rw [putsNormal_iff, putsNew_iff, not_or, not_not, not_not] at sendsNothing
      obtain ⟨noNormal, noNew⟩ := sendsNothing
      have allPaid : sender.retransmitsTaken = paid := by
        rw [retransmitsTaken, noNormal, List.append_nil, isPaid]
      rw [normalTaken, isPaid] at noNormal
      rw [newTaken, timerSelected, allPaid] at noNew
      exact ⟨fun _ => firstTooDear_of_served_eq_nil room noNormal,
        firstTooDear_of_served_eq_nil room noNew⟩
    · have noNew : sender.newTaken now = [] := by
        by_contra sends
        exact waits (normalDone.mp (strict.normalFirst ((putsNew_iff sender now).mpr sends)))
      rw [newTaken, timerSelected, isPaid] at noNew
      exact ⟨fun early => absurd early late, firstTooDear_of_served_eq_nil room noNew⟩
  · intro overtakes
    constructor
    · intro puts
      rw [putsNormal_iff, putsNew_iff] at puts
      exact urgentDone.mpr (overtakes.urgent_done puts)
    · intro puts
      rw [putsNew_iff] at puts
      exact normalDone.mpr (overtakes.normal_done puts)

/-! ### A small datagram past a large one -/

/-- Packet 0 of a thousand bytes is lost twice, packet 1 of ten bytes once, and the
first retransmission has left 221 of the 1250 tokens. -/
def largeUrgent : Sender :=
  let first := ((new 7 0).enqueueData (fun _ => 0) 0 (List.replicate 1000 0)).processSack 0
    SackPayload.default
  ((first.sendBatch 0 1).1.enqueueData (fun _ => 0) 0 (List.replicate 10 0)).processSack 0
    SackPayload.default

theorem largeUrgent_overtaken :
    ¬ StrictPriority largeUrgent 0 (largeUrgent.sendBatch 0 1).1 := by
  intro strict
  have overtaken : largeUrgent.PutsNormal 0 := by
    rw [PutsNormal]
    decide +kernel
  have waits : 0 ∈ (largeUrgent.sendBatch 0 1).1.urgentRetransmits := by decide +kernel
  have stored : 0 ∈ (largeUrgent.sendBatch 0 1).1.inFlight.keys := by decide +kernel
  exact strict.urgentFirst (.inl overtaken) 0 waits stored

end Sender

end Udpix.Protocol

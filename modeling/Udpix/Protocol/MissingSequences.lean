/-
The gaps that a SACK names.

The list of the missing numbers is read off the bitmap in one pass, and the
sender tests each number in flight on its own.  The two agree on the window, so
what the receiver of a bitmap takes for a gap is what did not arrive, also after
the bitmap went over the wire.
-/

import Udpix.Library.Fallible
import Udpix.Protocol.SackCanonical
import Udpix.Protocol.SenderRuns

namespace Udpix.Protocol

open Sender

namespace SackPayload

theorem isReceived_offset (payload : SackPayload) {offset : Nat} (inside : offset < SACK_WINDOW) :
    payload.isReceived (payload.baseSeq + offset) =
      ((payload.words.getD (offset / 64) 0#64 >>> (offset % 64)) &&& 1#64 == 1#64) := by
  have above : ¬ payload.baseSeq + offset < payload.baseSeq := by omega
  have within : ¬ SACK_WINDOW ≤ offset := Nat.not_le_of_lt inside
  rw [isReceived, if_neg above]
  dsimp only
  rw [Nat.add_sub_cancel_left, if_neg within]

def gaps (payload : SackPayload) : List Nat :=
  ((List.range SACK_WINDOW).filter
    (fun offset => !payload.isReceived (payload.baseSeq + offset))).map (payload.baseSeq + ·)

/-- As long as the whole window is below `2 ^ 64` no addition overflows. -/
theorem missingSeqs_eq (payload : SackPayload)
    (room : payload.baseSeq + SACK_WINDOW ≤ 2 ^ 64) :
    payload.missingSeqs = some payload.gaps := by
  have tested : (List.range SACK_WINDOW).mapM (fun offset =>
      let received :=
        (payload.words.getD (offset / 64) 0#64 >>> (offset % 64)) &&& 1#64 == 1#64
      if received then some none else (addSeq payload.baseSeq offset).map some) =
        some ((List.range SACK_WINDOW).map (fun offset =>
          if payload.isReceived (payload.baseSeq + offset) then none
          else some (payload.baseSeq + offset))) := by
    apply Fallible.mapM_eq_some
    intro offset member
    have inside := List.mem_range.mp member
    have sum : addSeq payload.baseSeq offset = some (payload.baseSeq + offset) :=
      if_pos (by omega)
    rw [payload.isReceived_offset inside, sum]
    dsimp only
    split
    · rfl
    · rfl
  rw [missingSeqs, tested, Option.map_some]
  change some (List.filterMap id _) = _
  rw [List.filterMap_map, gaps, ← List.filterMap_eq_map, List.filterMap_filter]
  refine congrArg some (List.filterMap_congr ?_)
  intro offset _
  cases received : payload.isReceived (payload.baseSeq + offset) with
  | true => simp [received]
  | false => simp [received]

theorem mem_gaps_iff (payload : SackPayload) (seq : Nat) :
    seq ∈ payload.gaps ↔
      payload.baseSeq ≤ seq ∧ seq < payload.baseSeq + SACK_WINDOW ∧
        payload.isReceived seq = false := by
  rw [gaps, List.mem_map]
  constructor
  · rintro ⟨offset, member, rfl⟩
    obtain ⟨inside, missing⟩ := List.mem_filter.mp member
    have within := List.mem_range.mp inside
    exact ⟨Nat.le_add_right _ _, Nat.add_lt_add_left within _,
      (Bool.not_eq_true_eq_eq_false _).mp missing⟩
  · rintro ⟨above, inside, missing⟩
    have same : payload.baseSeq + (seq - payload.baseSeq) = seq := Nat.add_sub_cancel' above
    refine ⟨seq - payload.baseSeq, List.mem_filter.mpr ⟨List.mem_range.mpr (by omega), ?_⟩, same⟩
    rw [same, missing]
    rfl

theorem gaps_sorted (payload : SackPayload) : payload.gaps.Pairwise (· < ·) := by
  rw [gaps, List.pairwise_map]
  refine (List.pairwise_lt_range.filter _).imp ?_
  intro first second less
  exact Nat.add_lt_add_left less _

theorem head_gaps {payload : SackPayload}
    (missing : payload.isReceived payload.baseSeq = false) :
    payload.gaps.head? = some payload.baseSeq := by
  have listed : payload.baseSeq ∈ payload.gaps :=
    (payload.mem_gaps_iff _).mpr
      ⟨Nat.le_refl _, Nat.lt_add_of_pos_right (by decide), missing⟩
  have sorted := payload.gaps_sorted
  cases found : payload.gaps with
  | nil =>
      rw [found] at listed
      cases listed
  | cons first rest =>
      have least : payload.baseSeq ≤ first :=
        ((payload.mem_gaps_iff first).mp (by rw [found]; exact List.mem_cons_self)).1
      rw [found] at listed sorted
      rcases List.mem_cons.mp listed with same | later
      · rw [same]
        rfl
      · have less := (List.pairwise_cons.mp sorted).1 _ later
        omega

theorem isAcked_eq_false_iff (payload : SackPayload) (seq : Nat) :
    isAcked payload seq = false ↔
      seq ∈ payload.gaps ∨ payload.baseSeq + SACK_WINDOW ≤ seq := by
  rw [isAcked, Bool.or_eq_false_iff, decide_eq_false_iff_not, mem_gaps_iff]
  constructor
  · rintro ⟨above, missing⟩
    by_cases past : payload.baseSeq + SACK_WINDOW ≤ seq
    · exact .inr past
    · exact .inl ⟨Nat.le_of_not_lt above, Nat.lt_of_not_le past, missing⟩
  · rintro (⟨above, _, missing⟩ | past)
    · exact ⟨Nat.not_lt_of_le above, missing⟩
    · exact ⟨by omega, payload.isReceived_of_window_le seq past⟩

end SackPayload

namespace Sender

theorem requests_of_gaps (sender : Sender) (now : Instant) (sack : SackPayload) :
    (sender.processSack now sack).requests.Perm
      (sender.requests ++ sender.inFlight.keys.filter (fun seq =>
        decide (seq ∈ sack.gaps ∨ sack.baseSeq + SACK_WINDOW ≤ seq))) := by
  refine (requests_processSack sender now sack).trans (List.Perm.append_left _ ?_)
  refine (List.perm_ext_iff_of_nodup (AList.keys_nodup _)
    ((AList.keys_nodup sender.inFlight).filter _)).mpr ?_
  intro seq
  rw [mem_keys_processSack, SackPayload.isAcked_eq_false_iff, List.mem_filter, decide_eq_true_eq]

end Sender

namespace SackManager

/-- After every run of the receiver its bitmap, written to the wire and read back,
names as missing exactly the numbers of the window that have not arrived inside
it, in order and from the base on, as long as the window lies below `2 ^ 64`.  A
sender that reads it asks for those of them that are in flight, for the numbers in
flight past the window, and for no other. -/
theorem run_missingSeqs (initialSeq : Nat) (initialLt : initialSeq < 2 ^ 64) (ops : List SackOp)
    (arrivalsLt : ∀ seq, SackOp.arrive seq ∈ ops → seq < 2 ^ 64 - 1)
    (room : ((new initialSeq).run ops).payload.baseSeq + SACK_WINDOW ≤ 2 ^ 64)
    (trailing : Bytes) :
    ∃ sack used missing,
      SackPayload.deserialise (((new initialSeq).run ops).payload.serialise ++ trailing) =
        .ok (some (sack, used)) ∧
      sack.missingSeqs = some missing ∧
      missing.Pairwise (· < ·) ∧
      missing.head? = some sack.baseSeq ∧
      (∀ seq, seq ∈ missing ↔
        sack.baseSeq ≤ seq ∧ seq < sack.baseSeq + SACK_WINDOW ∧ ¬ AcceptedIn initialSeq ops seq) ∧
      ∀ (sender : Sender) (now : Instant),
        (sender.processSack now sack).requests.Perm
          (sender.requests ++ sender.inFlight.keys.filter (fun seq =>
            decide (seq ∈ missing ∨ sack.baseSeq + SACK_WINDOW ≤ seq))) := by
  have bounded := (run_lt_of_arrivals_lt initialSeq (2 ^ 64) initialLt ops
    (fun seq member => by have := arrivalsLt seq member; omega)).1
  refine ⟨_, _, _, SackPayload.deserialise_serialise (run_canonical initialSeq ops) bounded
    trailing, SackPayload.missingSeqs_eq _ room, SackPayload.gaps_sorted _,
    SackPayload.head_gaps (isReceived_run_baseSeq initialSeq ops), ?_,
    fun sender now => sender.requests_of_gaps now _⟩
  intro seq
  have started : initialSeq ≤ ((new initialSeq).run ops).payload.baseSeq :=
    (run_mono (new initialSeq) ops).1
  rw [SackPayload.mem_gaps_iff, ← Bool.not_eq_true, isReceived_run_iff, not_or]
  constructor
  · rintro ⟨above, inside, _, absent⟩
    exact ⟨above, inside, absent⟩
  · rintro ⟨above, inside, absent⟩
    exact ⟨above, inside, by omega, absent⟩

/-- The numbers 5 and 7 have arrived. -/
theorem run_missingSeqs_gap :
    ∃ sack used missing,
      SackPayload.deserialise (((new 5).run [.arrive 5, .arrive 7]).payload.serialise ++ []) =
        .ok (some (sack, used)) ∧
      sack.missingSeqs = some missing ∧ missing.head? = some sack.baseSeq := by
  obtain ⟨sack, used, missing, read, listed, _, first, _⟩ :=
    run_missingSeqs 5 (by decide) [.arrive 5, .arrive 7]
      (by intro seq member; simp at member; omega) (by decide +kernel) []
  exact ⟨sack, used, missing, read, listed, first⟩

end SackManager

end Udpix.Protocol

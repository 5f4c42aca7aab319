/-
Sliding the base of an arbitrary bitmap.

Nothing is asked of the payload here: its words may be anything and its word
count need not fit them.  A slide forward repairs the count, and two slides in
a row are one.
-/

import Udpix.Protocol.SackCanonical
import Mathlib.Order.Bounds.Defs

namespace Udpix.Protocol

open BitWindow

namespace SackPayload

/-- The count of a canonical payload is the least number of words after which
all words are zero. -/
theorem Canonical.isLeast_wordCount {payload : SackPayload} (canonical : payload.Canonical) :
    IsLeast {count | ∀ index, count ≤ index → payload.words.getD index 0#64 = 0#64}
      payload.wordCount := by
  constructor
  · intro index above
    exact canonical.getD_eq_zero index above
  · intro count clear
    by_contra fewer
    have positive : 0 < trimZeros payload.words SACK_WORDS := by
      rw [← canonical]
      omega
    apply trimZeros_used payload.words SACK_WORDS positive
    apply clear
    rw [← canonical]
    omega

theorem advanceBase_advanceBase (payload : SackPayload) (newBase later : Nat)
    (forward : payload.baseSeq < newBase) (order : newBase ≤ later) :
    (payload.advanceBase newBase).advanceBase later = payload.advanceBase later := by
  have base := advanceBase_baseSeq payload newBase forward
  rcases Nat.eq_or_lt_of_le order with same | further
  · rw [← same]
    exact if_pos (Nat.le_of_eq base.symm)
  · have onward : (payload.advanceBase newBase).baseSeq < later := by
      rw [base]
      exact further
    have direct : payload.baseSeq < later := Nat.lt_trans forward further
    apply eq_of_isReceived_eq
    · exact advanceBase_canonical_of_lt _ later onward
    · exact advanceBase_canonical_of_lt payload later direct
    · rw [advanceBase_baseSeq _ later onward, advanceBase_baseSeq payload later direct]
    · intro seq
      rw [isReceived_advanceBase _ later seq onward,
        isReceived_advanceBase payload later seq direct,
        isReceived_advanceBase payload newBase seq forward]
      by_cases below : seq < later
      · rw [decide_eq_true below, Bool.true_or, Bool.true_or]
      · have notBelow : ¬ seq < newBase := by omega
        rw [decide_eq_false notBelow, Bool.false_or]

/-- What a slide of the base to `newBase` does to a payload. -/
structure ExactShift (payload : SackPayload) (newBase : Nat) : Prop where
  unmoved : newBase ≤ payload.baseSeq → payload.advanceBase newBase = payload
  base : payload.baseSeq < newBase → (payload.advanceBase newBase).baseSeq = newBase
  above : payload.baseSeq < newBase → ∀ seq, newBase ≤ seq →
    (payload.advanceBase newBase).isReceived seq = payload.isReceived seq
  below : payload.baseSeq < newBase → ∀ seq, seq < newBase →
    (payload.advanceBase newBase).isReceived seq = true
  trimmed : payload.baseSeq < newBase →
    IsLeast {count | ∀ index, count ≤ index →
      (payload.advanceBase newBase).words.getD index 0#64 = 0#64}
      (payload.advanceBase newBase).wordCount
  composes : payload.baseSeq < newBase → ∀ later, newBase ≤ later →
    (payload.advanceBase newBase).advanceBase later = payload.advanceBase later

/-- Every slide is exact, on every bitmap. -/
theorem advanceBase_exactShift (payload : SackPayload) (newBase : Nat) :
    payload.ExactShift newBase where
  unmoved := by
    intro backward
    exact if_pos backward
  base := advanceBase_baseSeq payload newBase
  above := by
    intro forward seq inside
    rw [isReceived_advanceBase payload newBase seq forward,
      decide_eq_false (Nat.not_lt_of_le inside), Bool.false_or]
  below := by
    intro forward seq passed
    rw [isReceived_advanceBase payload newBase seq forward, decide_eq_true passed, Bool.true_or]
  trimmed := by
    intro forward
    exact (advanceBase_canonical_of_lt payload newBase forward).isLeast_wordCount
  composes := by
    intro forward later order
    exact advanceBase_advanceBase payload newBase later forward order

end SackPayload

end Udpix.Protocol

/-
How much the pacer lets through.

The bucket is driven by its three operations in any order.  Whatever part of a
run is looked at, what it grants is paid from the tokens it starts with and the
refills inside it.
-/

import Udpix.Library.Amortised
import Udpix.Protocol.Sender
import Mathlib.Tactic.NormNum
import Mathlib.Tactic.Positivity

namespace Udpix.Protocol

open Amortised

inductive PacerOp where
  | refill (now : Instant)
  | setRate (rateBps : Nat)
  | tryConsume (bytes : Nat)

namespace TokenBucket

def apply (bucket : TokenBucket) : PacerOp → TokenBucket
  | .refill now => bucket.refill now
  | .setRate rateBps => bucket.setRate rateBps
  | .tryConsume bytes => (bucket.tryConsume bytes).getD bucket

def run (bucket : TokenBucket) (ops : List PacerOp) : TokenBucket := ops.foldl apply bucket

def granted (bucket : TokenBucket) : PacerOp → ℚ
  | .refill _ => 0
  | .setRate _ => 0
  | .tryConsume bytes => if (bucket.tryConsume bytes).isSome then (bytes : ℚ) else 0

def accrued (bucket : TokenBucket) : PacerOp → ℚ
  | .refill now =>
      bucket.rateBytesPerSec * ((Instant.elapsed now bucket.lastRefill : ℚ) / 1000000000)
  | .setRate _ => 0
  | .tryConsume _ => 0

def totalGranted (bucket : TokenBucket) (ops : List PacerOp) : ℚ := along apply granted bucket ops

def totalAccrued (bucket : TokenBucket) (ops : List PacerOp) : ℚ := along apply accrued bucket ops

/-- The tokens lie between zero and the capacity, and the rate is not negative. -/
structure Filled (bucket : TokenBucket) : Prop where
  capacity : bucket.capacityBytes = 3000
  rate : 0 ≤ bucket.rateBytesPerSec
  lower : 0 ≤ bucket.tokens
  upper : bucket.tokens ≤ bucket.capacityBytes

/-! ### One operation -/

theorem accrued_refill_nonneg (bucket : TokenBucket) (rate : 0 ≤ bucket.rateBytesPerSec)
    (now : Instant) : 0 ≤ bucket.accrued (.refill now) := by
  rw [accrued]
  positivity

theorem Filled.apply {bucket : TokenBucket} (filled : bucket.Filled) (op : PacerOp) :
    (bucket.apply op).Filled := by
  obtain ⟨capacity, rate, lower, upper⟩ := filled
  cases op with
  | refill now =>
      refine ⟨capacity, rate, ?_, min_le_right _ _⟩
      have grows := accrued_refill_nonneg bucket rate now
      exact le_min (add_nonneg lower grows) (Nat.cast_nonneg _)
  | setRate rateBps =>
      refine ⟨capacity, ?_, le_min lower (Nat.cast_nonneg _), min_le_right _ _⟩
      rw [TokenBucket.apply, setRate_rate]
      positivity
  | tryConsume bytes =>
      rw [TokenBucket.apply, tryConsume]
      split
      · rename_i enough
        refine ⟨capacity, rate, sub_nonneg.mpr enough, ?_⟩
        exact le_trans (sub_le_self _ (Nat.cast_nonneg bytes)) upper
      · exact ⟨capacity, rate, lower, upper⟩

theorem tokens_apply_add_granted_le (bucket : TokenBucket) (op : PacerOp) :
    (bucket.apply op).tokens + bucket.granted op ≤ bucket.tokens + bucket.accrued op := by
  cases op with
  | refill now =>
      rw [granted, add_zero]
      exact min_le_left _ _
  | setRate rateBps =>
      rw [granted, accrued, add_zero, add_zero]
      exact min_le_left _ _
  | tryConsume bytes =>
      rw [accrued, add_zero, granted, TokenBucket.apply, tryConsume]
      split
      · rw [Option.isSome_some, if_pos rfl, Option.getD_some]
        exact le_of_eq (sub_add_cancel _ _)
      · rw [Option.isSome_none, if_neg Bool.false_ne_true, Option.getD_none, add_zero]

/-! ### Whole runs -/

theorem filled_new (now : Instant) : (new now 10000000).Filled where
  capacity := rfl
  rate := by
    change 0 ≤ ((10000000 : ℕ) : ℚ) / 8
    norm_num
  lower := by
    change 0 ≤ ((10000000 : ℕ) : ℚ) / 8 / 1000
    norm_num
  upper := by
    change ((10000000 : ℕ) : ℚ) / 8 / 1000 ≤ ((3000 : ℕ) : ℚ)
    norm_num

theorem Filled.run {bucket : TokenBucket} (filled : bucket.Filled) (ops : List PacerOp) :
    (bucket.run ops).Filled := by
  induction ops generalizing bucket with
  | nil => exact filled
  | cons op rest ih => exact ih (filled.apply op)

/-- What the pacer keeps to from some bucket on: its level, what a part of a run
grants, and that a refusal changes nothing. -/
structure Paces (bucket : TokenBucket) : Prop where
  lower : 0 ≤ bucket.tokens
  upper : bucket.tokens ≤ bucket.capacityBytes
  window : ∀ segment, bucket.totalGranted segment ≤ 3000 + bucket.totalAccrued segment
  refused : ∀ bytes, bucket.tryConsume bytes = none → bucket.apply (.tryConsume bytes) = bucket

theorem Filled.paces {bucket : TokenBucket} (filled : bucket.Filled) : bucket.Paces where
  lower := filled.lower
  upper := filled.upper
  window := by
    intro segment
    have start : bucket.tokens ≤ 3000 := by
      have upper := filled.upper
      rw [filled.capacity] at upper
      exact upper
    exact along_cost_le tokens_apply_add_granted_le start (filled.run segment).lower
  refused := by
    intro bytes dry
    rw [TokenBucket.apply, dry, Option.getD_none]

/-- The pacer of a new sender keeps to its rate over every part of every run. -/
theorem pacer_paces (sessionId : UInt32) (start : Instant) (ops : List PacerOp) :
    ((Sender.new sessionId start).pacer.run ops).Paces :=
  ((filled_new start).run ops).paces

end TokenBucket

end Udpix.Protocol

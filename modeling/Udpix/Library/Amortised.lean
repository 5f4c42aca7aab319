/-
Amounts summed along a run.

A level that a step can raise by at most its credit, and that a step with a
cost lowers by at least that cost, bounds the costs of every part of a run: by
the level it starts from and the credits in it.
-/

import Mathlib.Algebra.Order.Monoid.Defs
import Mathlib.Data.List.Basic

universe u v w

namespace Amortised

variable {σ : Type u} {ι : Type v} {α : Type w}

section Sum

variable [AddCommMonoid α] (step : σ → ι → σ) (amount : σ → ι → α)

/-- The sum of an amount over the steps of a run, each in the state it starts from. -/
def along : σ → List ι → α
  | _, [] => 0
  | state, item :: rest => amount state item + along (step state item) rest

@[simp] theorem along_cons (state : σ) (item : ι) (rest : List ι) :
    along step amount state (item :: rest) =
      amount state item + along step amount (step state item) rest := rfl

end Sum

variable [AddCommMonoid α] [PartialOrder α] [IsOrderedAddMonoid α] {step : σ → ι → σ}
  {level : σ → α} {cost credit : σ → ι → α}

/-- Costs and the level left over are paid from the first level and the credits. -/
theorem level_add_along_le
    (paid : ∀ state item, level (step state item) + cost state item ≤
      level state + credit state item)
    (state : σ) (items : List ι) :
    level (items.foldl step state) + along step cost state items ≤
      level state + along step credit state items := by
  induction items generalizing state with
  | nil => exact le_refl _
  | cons item rest ih =>
      rw [List.foldl_cons, along_cons, along_cons]
      calc
        level (rest.foldl step (step state item)) +
              (cost state item + along step cost (step state item) rest) =
            level (rest.foldl step (step state item)) +
              along step cost (step state item) rest + cost state item := by
          rw [add_comm (cost state item), add_assoc]
        _ ≤ level (step state item) + along step credit (step state item) rest +
              cost state item :=
          add_le_add_left (ih (step state item)) _
        _ = level (step state item) + cost state item +
              along step credit (step state item) rest := by
          rw [add_right_comm]
        _ ≤ level state + credit state item + along step credit (step state item) rest :=
          add_le_add_left (paid state item) _
        _ = level state + (credit state item + along step credit (step state item) rest) := by
          rw [add_assoc]

/-- Where the level stays between zero and a bound, the costs exceed the credits
by at most the bound. -/
theorem along_cost_le
    (paid : ∀ state item, level (step state item) + cost state item ≤
      level state + credit state item)
    {bound : α} {state : σ} {items : List ι} (start : level state ≤ bound)
    (final : 0 ≤ level (items.foldl step state)) :
    along step cost state items ≤ bound + along step credit state items := by
  calc
    along step cost state items ≤
        level (items.foldl step state) + along step cost state items :=
      le_add_of_nonneg_left final
    _ ≤ level state + along step credit state items := level_add_along_le paid state items
    _ ≤ bound + along step credit state items := add_le_add_left start _

end Amortised

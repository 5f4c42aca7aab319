/-
Runs of a step function, what part of them a state depends on, and how they end.

`EachStep` says something of every step of a run, in the state that step starts
from.  The unwinding rule compares a run with the run of the actions that are
kept: if a kept action moves related states to related states and a removed
action does not leave the relation, then the two runs end in related states.  A
simulation compares two machines that answer every input.  Last, a goal can be
reached by steps of a relation that lower a rank.
-/

import Mathlib.Data.List.Basic
import Mathlib.Logic.Relation
import Mathlib.Order.WellFounded

universe u v w z

namespace Unwinding

variable {σ : Type u} {α : Type v} {step : σ → α → σ}

def EachStep (step : σ → α → σ) (Holds : σ → α → Prop) : σ → List α → Prop
  | _, [] => True
  | state, action :: rest => Holds state action ∧ EachStep step Holds (step state action) rest

/-- Two properties that agree where the invariant holds, which every step that
has the property keeps. -/
theorem eachStep_congr_of_kept {Holds Other : σ → α → Prop} (Inv : σ → Prop)
    (kept : ∀ state action, Inv state → Holds state action → Inv (step state action))
    (same : ∀ state action, Inv state → (Holds state action ↔ Other state action)) {state : σ}
    (start : Inv state) (actions : List α) :
    EachStep step Holds state actions ↔ EachStep step Other state actions := by
  induction actions generalizing state with
  | nil => exact Iff.rfl
  | cons action rest ih =>
      have first := same state action start
      constructor
      · rintro ⟨holds, later⟩
        exact ⟨first.mp holds, (ih (kept state action start holds)).mp later⟩
      · rintro ⟨other, later⟩
        have holds := first.mpr other
        exact ⟨holds, (ih (kept state action start holds)).mpr later⟩

/-- Two properties that agree in the states that a run can reach. -/
theorem eachStep_congr_of_invariant {Holds Other : σ → α → Prop} (Inv : σ → Prop)
    (kept : ∀ state action, Inv state → Inv (step state action))
    (same : ∀ state action, Inv state → (Holds state action ↔ Other state action)) {state : σ}
    (start : Inv state) (actions : List α) :
    EachStep step Holds state actions ↔ EachStep step Other state actions :=
  eachStep_congr_of_kept Inv (fun current action inv _ => kept current action inv) same start
    actions

/-- A run of a larger state, seen through the part that steps by itself. -/
theorem eachStep_map {τ : Type*} {larger : τ → α → τ} {part : τ → σ}
    (commutes : ∀ state action, part (larger state action) = step (part state) action)
    {Holds : σ → α → Prop} (state : τ) (actions : List α) :
    EachStep larger (fun current action => Holds (part current) action) state actions ↔
      EachStep step Holds (part state) actions := by
  induction actions generalizing state with
  | nil => exact Iff.rfl
  | cons action rest ih =>
      refine and_congr Iff.rfl ?_
      rw [ih, commutes]

theorem eachStep_congr {Holds Other : σ → α → Prop}
    (same : ∀ state action, Holds state action ↔ Other state action) (state : σ)
    (actions : List α) :
    EachStep step Holds state actions ↔ EachStep step Other state actions := by
  exact eachStep_congr_of_invariant (fun _ => True) (fun _ _ holds => holds)
    (fun current action _ => same current action) trivial actions

theorem EachStep.and {Holds Other : σ → α → Prop} {state : σ} {actions : List α}
    (first : EachStep step Holds state actions) (second : EachStep step Other state actions) :
    EachStep step (fun current action => Holds current action ∧ Other current action)
      state actions := by
  induction actions generalizing state with
  | nil => trivial
  | cons action rest ih => exact ⟨⟨first.1, second.1⟩, ih first.2 second.2⟩

theorem EachStep.of_isPrefix {Holds : σ → α → Prop} {state : σ} {before actions : List α}
    (each : EachStep step Holds state actions) (initial : before <+: actions) :
    EachStep step Holds state before := by
  induction before generalizing state actions with
  | nil => trivial
  | cons action rest ih =>
      obtain ⟨after, rfl⟩ := initial
      exact ⟨each.1, ih each.2 (List.prefix_append rest after)⟩

theorem EachStep.invariant {Holds : σ → α → Prop} {Inv : σ → Prop}
    (kept : ∀ state action, Holds state action → Inv state → Inv (step state action))
    {state : σ} {actions : List α} (each : EachStep step Holds state actions)
    (start : Inv state) : Inv (actions.foldl step state) := by
  induction actions generalizing state with
  | nil => exact start
  | cons action rest ih => exact ih each.2 (kept state action each.1 start)

/-- Where a step keeps the property exactly when `Holds`, every state of the run
has the property exactly when `Holds` at every step. -/
theorem forall_prefix_iff_eachStep {Allowed Holds : σ → α → Prop} {Inv : σ → Prop}
    (keeps : ∀ state action, Allowed state action → Inv state →
      (Inv (step state action) ↔ Holds state action))
    {state : σ} (start : Inv state) {actions : List α}
    (allowed : EachStep step Allowed state actions) :
    (∀ before, before <+: actions → Inv (before.foldl step state)) ↔
      EachStep step Holds state actions := by
  induction actions generalizing state with
  | nil =>
      constructor
      · intro _
        trivial
      · intro _ before initial
        rw [List.prefix_nil.mp initial]
        exact start
  | cons action rest ih =>
      have first := keeps state action allowed.1 start
      constructor
      · intro everywhere
        have next := everywhere [action] (List.prefix_append [action] rest)
        refine ⟨first.mp next, (ih next allowed.2).mp ?_⟩
        intro before initial
        exact everywhere (action :: before) (List.cons_prefix_cons.mpr ⟨rfl, initial⟩)
      · rintro ⟨holds, later⟩ before initial
        cases before with
        | nil => exact start
        | cons other before =>
            obtain ⟨rfl, initialRest⟩ := List.cons_prefix_cons.mp initial
            exact (ih (first.mpr holds) allowed.2).mpr later before initialRest

theorem related_foldl_filter {Holds : σ → α → Prop} {Related : σ → σ → Prop} {keep : α → Bool}
    (kept : ∀ state other action, keep action = true → Related state other →
      Related (step state action) (step other action))
    (removed : ∀ state other action, keep action = false → Holds state action →
      Related state other → Related (step state action) other)
    (state other : σ) (related : Related state other) (actions : List α)
    (each : EachStep step Holds state actions) :
    Related (actions.foldl step state) ((actions.filter keep).foldl step other) := by
  induction actions generalizing state other with
  | nil => exact related
  | cons action rest ih =>
      obtain ⟨holds, eachRest⟩ := each
      rw [List.foldl_cons]
      cases choice : keep action with
      | true =>
          rw [List.filter_cons_of_pos choice, List.foldl_cons]
          exact ih _ _ (kept state other action choice related) eachRest
      | false =>
          have dropped : ¬ keep action = true := by
            rw [choice]
            exact Bool.false_ne_true
          rw [List.filter_cons_of_neg dropped]
          exact ih _ _ (removed state other action choice holds related) eachRest

end Unwinding

/-! ### Machines that answer -/

namespace Simulation

open Unwinding

variable {σ : Type u} {τ : Type v} {α : Type w} {β : Type z}

def answers (step : σ → α → σ × β) : σ → List α → List β
  | _, [] => []
  | state, input :: rest => (step state input).2 :: answers step (step state input).1 rest

def final (step : σ → α → σ × β) (state : σ) (inputs : List α) : σ :=
  inputs.foldl (fun current input => (step current input).1) state

theorem answers_eq_of_related {abstract : σ → α → σ × β} {concrete : τ → α → τ × β}
    {Related : σ → τ → Prop} {Allowed : σ → α → Prop}
    (simulates : ∀ state other input, Related state other → Allowed state input →
      (concrete other input).2 = (abstract state input).2 ∧
        Related (abstract state input).1 (concrete other input).1)
    {state : σ} {other : τ} (related : Related state other) {inputs : List α}
    (allowed : EachStep (fun current input => (abstract current input).1) Allowed state inputs) :
    answers concrete other inputs = answers abstract state inputs ∧
      Related (final abstract state inputs) (final concrete other inputs) := by
  induction inputs generalizing state other with
  | nil => exact ⟨rfl, related⟩
  | cons input rest ih =>
      obtain ⟨sameAnswer, stillRelated⟩ := simulates state other input related allowed.1
      obtain ⟨sameAnswers, finallyRelated⟩ := ih stillRelated allowed.2
      refine ⟨?_, finallyRelated⟩
      rw [answers, answers, sameAnswer, sameAnswers]

end Simulation

/-! ### Reaching a goal -/

namespace Progress

variable {σ : Type u} {step : σ → σ → Prop}

open Relation

theorem reaches_of_rank {Inv Goal : σ → Prop} (rank : σ → Nat)
    (advances : ∀ state, Inv state → ¬ Goal state →
      ∃ next, ReflTransGen step state next ∧ Inv next ∧ (Goal next ∨ rank next < rank state))
    (state : σ) (start : Inv state) :
    ∃ final, ReflTransGen step state final ∧ Inv final ∧ Goal final := by
  induction measured : rank state using Nat.strongRecOn generalizing state with
  | ind bound ih =>
      by_cases done : Goal state
      · exact ⟨state, .refl, start, done⟩
      · obtain ⟨next, steps, kept, reached | lower⟩ := advances state start done
        · exact ⟨next, steps, kept, reached⟩
        · obtain ⟨final, later, finalKept, reached⟩ := ih (rank next) (by omega) next kept rfl
          exact ⟨final, steps.trans later, finalKept, reached⟩

theorem exists_final (ends : WellFounded (fun next state => step state next)) (state : σ) :
    ∃ final, ReflTransGen step state final ∧ ∀ next, ¬ step final next := by
  obtain ⟨final, reached, least⟩ :=
    ends.has_min {final | ReflTransGen step state final} ⟨state, .refl⟩
  exact ⟨final, reached, fun next taken => least next (reached.tail taken) taken⟩

end Progress

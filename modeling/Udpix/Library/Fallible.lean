/-
Computations that may fail.

How a sequence of computations succeeds: each of them does, and the later ones
on the values of the earlier.
-/

import Mathlib.Data.List.Basic

namespace Fallible

variable {α β ε : Type}

theorem ok_bind (value : α) (next : α → Except ε β) :
    ((.ok value : Except ε α) >>= next) = next value :=
  rfl

theorem bind_eq_ok {first : Except ε α} {next : α → Except ε β} {result : β}
    (succeeds : (first >>= next) = .ok result) :
    ∃ value, first = .ok value ∧ next value = .ok result := by
  cases first with
  | error reason => cases succeeds
  | ok value => exact ⟨value, rfl, succeeds⟩

theorem mapM_eq_ok (step : α → Except ε β) (value : α → β) (items : List α)
    (steps : ∀ item, item ∈ items → step item = .ok (value item)) :
    items.mapM step = .ok (items.map value) := by
  induction items with
  | nil => rfl
  | cons item items ih =>
      rw [List.mapM_cons, steps item List.mem_cons_self,
        ih (fun other member => steps other (List.mem_cons_of_mem _ member))]
      rfl

theorem mapM_eq_some (step : α → Option β) (value : α → β) (items : List α)
    (steps : ∀ item, item ∈ items → step item = some (value item)) :
    items.mapM step = some (items.map value) := by
  induction items with
  | nil => rfl
  | cons item rest ih =>
      rw [List.mapM_cons, steps item List.mem_cons_self,
        ih (fun other member => steps other (List.mem_cons_of_mem item member))]
      rfl

theorem mapM_ok_mem {step : α → Except ε β} {items : List α} {values : List β}
    (succeeds : items.mapM step = .ok values) (item : α) (member : item ∈ items) :
    ∃ value, step item = .ok value := by
  induction items generalizing values with
  | nil => cases member
  | cons head rest ih =>
      rw [List.mapM_cons] at succeeds
      obtain ⟨value, headOk, succeeds⟩ := bind_eq_ok succeeds
      obtain ⟨others, restOk, _⟩ := bind_eq_ok succeeds
      rcases List.mem_cons.mp member with isHead | inRest
      · rw [isHead]
        exact ⟨value, headOk⟩
      · exact ih restOk inRest

/-- A sequence of computations fails at the first of them that does. -/
theorem mapM_eq_error_iff {step : α → Except ε β} {items : List α} {fault : ε} :
    items.mapM step = .error fault ↔
      ∃ before item after, items = before ++ item :: after ∧
        (∀ earlier, earlier ∈ before → ∃ value, step earlier = .ok value) ∧
        step item = .error fault := by
  induction items with
  | nil =>
      refine iff_of_false (fun failed => nomatch failed) ?_
      rintro ⟨before, item, after, split, _⟩
      exact List.append_ne_nil_of_right_ne_nil before (List.cons_ne_nil item after) split.symm
  | cons head rest ih =>
      rw [List.mapM_cons]
      cases first : step head with
      | error reason =>
          constructor
          · intro failed
            cases failed
            exact ⟨[], head, rest, rfl, (fun _ member => nomatch member), first⟩
          · rintro ⟨before, item, after, split, succeeded, failed⟩
            cases before with
            | nil =>
                cases split
                cases first.symm.trans failed
                rfl
            | cons other before =>
                cases split
                obtain ⟨value, ok⟩ := succeeded head List.mem_cons_self
                cases first.symm.trans ok
      | ok value =>
          have later : (do
              let others ← rest.mapM step
              pure (value :: others)) = .error fault ↔ rest.mapM step = .error fault := by
            cases rest.mapM step with
            | error reason => exact Iff.rfl
            | ok others =>
                exact iff_of_false (fun failed => nomatch failed) (fun failed => nomatch failed)
          refine later.trans (ih.trans ?_)
          constructor
          · rintro ⟨before, item, after, split, succeeded, failed⟩
            refine ⟨head :: before, item, after, by rw [split]; rfl, ?_, failed⟩
            intro earlier member
            rcases List.mem_cons.mp member with isHead | inBefore
            · rw [isHead]
              exact ⟨value, first⟩
            · exact succeeded earlier inBefore
          · rintro ⟨before, item, after, split, succeeded, failed⟩
            cases before with
            | nil =>
                cases split
                cases first.symm.trans failed
            | cons other before =>
                cases split
                exact ⟨before, item, after, rfl,
                  (fun earlier member => succeeded earlier (List.mem_cons_of_mem _ member)),
                  failed⟩

/-- Steps that agree up to and including the first failure give the same result. -/
theorem mapM_congr_until {step other : α → Except ε β} {items : List α}
    (same : ∀ before item after, items = before ++ item :: after →
      (∀ earlier, earlier ∈ before → ∃ value, step earlier = .ok value) →
      other item = step item) :
    items.mapM other = items.mapM step := by
  induction items with
  | nil => rfl
  | cons head rest ih =>
      have first := same [] head rest rfl (fun _ member => nomatch member)
      rw [List.mapM_cons, List.mapM_cons, first]
      cases ok : step head with
      | error reason => rfl
      | ok value =>
          have later := ih (by
            intro before item after split succeeded
            refine same (head :: before) item after (by rw [split]; rfl) ?_
            intro earlier member
            rcases List.mem_cons.mp member with isHead | inBefore
            · rw [isHead]
              exact ⟨value, ok⟩
            · exact succeeded earlier inBefore)
          rw [later]

/-- Two computations in sequence, each of them another one with its error renamed. -/
theorem mapError_bind {δ : Type} {rename : ε → δ} {first : Except ε α} {next : α → Except ε β}
    {firstRenamed : Except δ α} {nextRenamed : α → Except δ β}
    (sameFirst : firstRenamed = first.mapError rename)
    (sameNext : ∀ value, first = .ok value → nextRenamed value = (next value).mapError rename) :
    (firstRenamed >>= nextRenamed) = (first >>= next).mapError rename := by
  rw [sameFirst]
  cases first with
  | error reason => rfl
  | ok value => exact sameNext value rfl

theorem foldlM_snoc {σ : Type} (step : σ → α → Except ε σ) (state : σ) (items : List α)
    (item : α) :
    (items ++ [item]).foldlM step state =
      items.foldlM step state >>= fun reached => step reached item := by
  rw [List.foldlM_append]
  congr 1
  funext reached
  rw [List.foldlM_cons]
  exact bind_pure _

end Fallible

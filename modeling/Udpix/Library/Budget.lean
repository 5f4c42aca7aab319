/-
Serving a queue in order within a budget and a number of places.

`served` is the longest initial part of a list whose costs the budget covers and
which fits the places.  It stops for one of three reasons: the list is at its
end, the places are full, or the next item costs more than what is left.
-/

import Mathlib.Algebra.BigOperators.Group.List.Basic
import Mathlib.Algebra.Order.Group.Defs
import Mathlib.Algebra.Order.Group.Unbundled.Basic

universe u v

namespace Budget

variable {ι : Type u} {α : Type v} [AddCommGroup α] (cost : ι → α)

def total (items : List ι) : α := (items.map cost).sum

@[simp] theorem total_nil : total cost [] = 0 := rfl

@[simp] theorem total_cons (item : ι) (rest : List ι) :
    total cost (item :: rest) = cost item + total cost rest :=
  List.sum_cons

@[simp] theorem total_append (first second : List ι) :
    total cost (first ++ second) = total cost first + total cost second := by
  rw [total, List.map_append, List.sum_append, total, total]

variable [LinearOrder α]

def served : Nat → α → List ι → List ι
  | 0, _, _ => []
  | _ + 1, _, [] => []
  | places + 1, budget, item :: rest =>
      if cost item ≤ budget then item :: served places (budget - cost item) rest else []

@[simp] theorem served_nil (places : Nat) (budget : α) : served cost places budget [] = [] := by
  cases places <;> rfl

@[simp] theorem served_zero (budget : α) (items : List ι) : served cost 0 budget items = [] := rfl

theorem served_of_le {places : Nat} {budget : α} {item : ι} (rest : List ι)
    (covered : cost item ≤ budget) :
    served cost (places + 1) budget (item :: rest) =
      item :: served cost places (budget - cost item) rest :=
  if_pos covered

theorem served_of_lt (places : Nat) {budget : α} {item : ι} (rest : List ι)
    (uncovered : budget < cost item) : served cost places budget (item :: rest) = [] := by
  cases places with
  | zero => rfl
  | succ places => exact if_neg (not_le_of_gt uncovered)

theorem served_isPrefix (places : Nat) (budget : α) (items : List ι) :
    served cost places budget items <+: items := by
  induction items generalizing places budget with
  | nil => simp only [served_nil, List.nil_prefix]
  | cons item rest ih =>
      cases places with
      | zero => exact List.nil_prefix
      | succ places =>
          rw [served]
          split
          · exact List.cons_prefix_cons.mpr ⟨rfl, ih places _⟩
          · exact List.nil_prefix

theorem length_served_le (places : Nat) (budget : α) (items : List ι) :
    (served cost places budget items).length ≤ places := by
  induction items generalizing places budget with
  | nil =>
      rw [served_nil]
      exact Nat.zero_le _
  | cons item rest ih =>
      cases places with
      | zero => exact Nat.le_refl 0
      | succ places =>
          rw [served]
          split
          · exact Nat.succ_le_succ (ih places _)
          · exact Nat.zero_le _

/-- Items beyond the last place do not matter. -/
theorem served_take (places : Nat) (budget : α) (items : List ι) :
    served cost places budget (items.take places) = served cost places budget items := by
  induction items generalizing places budget with
  | nil => rw [List.take_nil]
  | cons item rest ih =>
      cases places with
      | zero => rfl
      | succ places => rw [List.take_succ_cons, served, served, ih]

/-- Why serving stops: at the end, at the last place, or at an item that costs
more than what is left. -/
theorem served_stops (places : Nat) (budget : α) (items : List ι) :
    served cost places budget items = items ∨
      (served cost places budget items).length = places ∨
      ∃ item rest, items = served cost places budget items ++ item :: rest ∧
        budget - total cost (served cost places budget items) < cost item := by
  induction items generalizing places budget with
  | nil => exact .inl (served_nil cost places budget)
  | cons item rest ih =>
      cases places with
      | zero => exact .inr (.inl rfl)
      | succ places =>
          by_cases covered : cost item ≤ budget
          · rw [served_of_le cost rest covered]
            rcases ih places (budget - cost item) with all | full | ⟨next, after, split, dear⟩
            · exact .inl (congrArg (item :: ·) all)
            · exact .inr (.inl (congrArg (· + 1) full))
            · refine .inr (.inr ⟨next, after, congrArg (item :: ·) split, ?_⟩)
              rw [total_cons, ← sub_sub]
              exact dear
          · have dear := lt_of_not_ge covered
            rw [served_of_lt cost (places + 1) rest dear]
            refine .inr (.inr ⟨item, rest, rfl, ?_⟩)
            rw [total_nil, sub_zero]
            exact dear

theorem served_ne_nil_iff (places : Nat) (budget : α) (items : List ι) :
    served cost places budget items ≠ [] ↔
      0 < places ∧ ∃ item, items.head? = some item ∧ cost item ≤ budget := by
  cases items with
  | nil => simp
  | cons item rest =>
      cases places with
      | zero => simp
      | succ places =>
          by_cases covered : cost item ≤ budget
          · simp [served_of_le cost rest covered, covered]
          · simp [served_of_lt cost (places + 1) rest (lt_of_not_ge covered), covered]

variable [IsOrderedAddMonoid α]

theorem total_nonneg (nonneg : ∀ item, 0 ≤ cost item) (items : List ι) : 0 ≤ total cost items := by
  induction items with
  | nil => exact le_refl 0
  | cons item rest ih => exact add_nonneg (nonneg item) ih

theorem total_served_le {places : Nat} {budget : α} {items : List ι}
    (nonempty : served cost places budget items ≠ []) :
    total cost (served cost places budget items) ≤ budget := by
  induction items generalizing places budget with
  | nil => exact absurd (served_nil cost places budget) nonempty
  | cons item rest ih =>
      cases places with
      | zero => exact absurd rfl nonempty
      | succ places =>
          by_cases covered : cost item ≤ budget
          · rw [served_of_le cost rest covered, total_cons]
            by_cases empty : served cost places (budget - cost item) rest = []
            · rw [empty, total_nil, add_zero]
              exact covered
            · exact le_sub_iff_add_le'.mp (ih empty)
          · exact absurd (served_of_lt cost (places + 1) rest (lt_of_not_ge covered)) nonempty

/-- An initial part that is covered is served, and the rest goes on from there. -/
theorem served_append_of_covered (nonneg : ∀ item, 0 ≤ cost item) {places : Nat} {budget : α}
    {paid : List ι} (fits : paid.length ≤ places)
    (covered : paid ≠ [] → total cost paid ≤ budget) (rest : List ι) :
    served cost places budget (paid ++ rest) =
      paid ++ served cost (places - paid.length) (budget - total cost paid) rest := by
  induction paid generalizing places budget with
  | nil => rw [List.nil_append, List.nil_append, List.length_nil, Nat.sub_zero, total_nil, sub_zero]
  | cons item paid ih =>
      obtain ⟨fewer, rfl⟩ := Nat.exists_eq_succ_of_ne_zero
        (Nat.ne_of_gt (Nat.lt_of_lt_of_le (Nat.succ_pos paid.length) fits))
      have whole := covered (List.cons_ne_nil item paid)
      rw [total_cons] at whole
      have remaining : total cost paid ≤ budget - cost item := le_sub_iff_add_le'.mpr whole
      have first : cost item ≤ budget :=
        sub_nonneg.mp (le_trans (total_nonneg cost nonneg paid) remaining)
      rw [List.cons_append, served_of_le cost _ first,
        ih (Nat.le_of_succ_le_succ fits) (fun _ => remaining), List.cons_append, List.length_cons,
        Nat.succ_sub_succ, total_cons, sub_sub]

/-- An item of two lists one after the other is in the first of them or, with
all of the first before it, in the second. -/
theorem split_append_cases {first second paid rest : List ι} {next : ι}
    (split : first ++ second = paid ++ next :: rest) :
    (∃ more, first = paid ++ next :: more) ∨
      ∃ later, paid = first ++ later ∧ second = later ++ next :: rest := by
  rcases List.append_eq_append_iff.mp split with beyond | ⟨before, splitFirst, after⟩
  · exact .inr beyond
  · cases before with
    | nil =>
        rw [List.append_nil] at splitFirst
        exact .inr ⟨[], by rw [splitFirst, List.append_nil], after.symm⟩
    | cons item more =>
        obtain ⟨rfl, _⟩ := List.cons.inj after
        exact .inl ⟨more, splitFirst⟩

/-- The budget gives out after `paid`: the items of `paid` are covered, there is a
place for one more, and the next item costs more than what is left. -/
def GivesOut (places : Nat) (budget : α) (items paid : List ι) : Prop :=
  ∃ next rest, items = paid ++ next :: rest ∧ paid.length < places ∧
    (paid ≠ [] → total cost paid ≤ budget) ∧ budget - total cost paid < cost next

/-- Nothing is served after the point at which the budget gives out. -/
theorem GivesOut.served_eq (nonneg : ∀ item, 0 ≤ cost item) {places : Nat} {budget : α}
    {items paid : List ι} (out : GivesOut cost places budget items paid) :
    served cost places budget items = paid := by
  obtain ⟨next, rest, rfl, room, covered, dear⟩ := out
  rw [served_append_of_covered cost nonneg (Nat.le_of_lt room) covered,
    served_of_lt cost _ rest dear, List.append_nil]

theorem givesOut_of_served_ne {places : Nat} {budget : α} {items : List ι}
    (unserved : served cost places budget items ≠ items)
    (room : (served cost places budget items).length < places) :
    GivesOut cost places budget items (served cost places budget items) := by
  rcases served_stops cost places budget items with all | full | ⟨next, rest, split, dear⟩
  · exact absurd all unserved
  · exact absurd full (Nat.ne_of_lt room)
  · exact ⟨next, rest, split, room, total_served_le cost, dear⟩

end Budget

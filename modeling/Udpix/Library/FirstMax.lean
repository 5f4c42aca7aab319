/-
The largest value of a list together with the first place that attains it.

Only values above a floor count; a list without one has the floor as its
maximum, at place zero.  A scan that replaces its record at every strictly
larger value keeps this up as the list grows at its end.
-/

import Mathlib.Data.List.Basic
import Mathlib.Order.Lattice

namespace FirstMax

variable {α : Type*} [LinearOrder α]

/-- The record of a scan over `values`: the best value and its first place. -/
structure IsFirstMax (floor : α) (values : List α) (best : α) (place : Nat) : Prop where
  upper : ∀ value, value ∈ values → value ≤ best
  attained : (floor < best ∧ values[place]? = some best ∧
      ∀ earlier, earlier < place → values[earlier]? ≠ some best) ∨
    (best = floor ∧ place = 0)

variable {floor best : α} {values : List α} {place : Nat}

theorem isFirstMax_nil (floor : α) : IsFirstMax floor [] floor 0 where
  upper := by
    intro value member
    cases member
  attained := Or.inr ⟨rfl, rfl⟩

theorem IsFirstMax.floor_le (record : IsFirstMax floor values best place) : floor ≤ best := by
  rcases record.attained with ⟨above, _⟩ | ⟨same, _⟩
  · exact le_of_lt above
  · exact le_of_eq same.symm

theorem IsFirstMax.getElem?_place (record : IsFirstMax floor values best place)
    (nonempty : values ≠ []) (above : ∀ value, value ∈ values → floor ≤ value) :
    values[place]? = some best := by
  rcases record.attained with ⟨_, placed, _⟩ | ⟨atFloor, first⟩
  · exact placed
  · obtain ⟨head, tail, rfl⟩ := List.exists_cons_of_ne_nil nonempty
    have low := above head List.mem_cons_self
    have high := record.upper head List.mem_cons_self
    rw [atFloor] at high
    rw [first, atFloor, List.getElem?_cons_zero, le_antisymm high low]

theorem IsFirstMax.lt_of_before (record : IsFirstMax floor values best place) {earlier : Nat}
    {value : α} (before : earlier < place) (placed : values[earlier]? = some value) :
    value < best := by
  rcases record.attained with ⟨_, _, first⟩ | ⟨_, atStart⟩
  · refine lt_of_le_of_ne (record.upper value (List.mem_of_getElem? placed)) ?_
    intro same
    exact first earlier before (same ▸ placed)
  · rw [atStart] at before
    exact absurd before (Nat.not_lt_zero earlier)

theorem IsFirstMax.snoc_larger (record : IsFirstMax floor values best place) (value : α)
    (larger : best < value) : IsFirstMax floor (values ++ [value]) value values.length where
  upper := by
    intro other member
    rcases List.mem_append.mp member with earlier | last
    · exact le_of_lt (lt_of_le_of_lt (record.upper other earlier) larger)
    · rw [List.mem_singleton.mp last]
  attained := by
    refine Or.inl ⟨lt_of_le_of_lt record.floor_le larger, by simp, ?_⟩
    intro earlier before same
    rw [List.getElem?_append_left before] at same
    exact not_le_of_gt larger (record.upper value (List.mem_of_getElem? same))

theorem IsFirstMax.snoc_not_larger (record : IsFirstMax floor values best place) (value : α)
    (notLarger : ¬ best < value) : IsFirstMax floor (values ++ [value]) best place where
  upper := by
    intro other member
    rcases List.mem_append.mp member with earlier | last
    · exact record.upper other earlier
    · rw [List.mem_singleton.mp last]
      exact le_of_not_gt notLarger
  attained := by
    rcases record.attained with ⟨above, placed, first⟩ | atFloor
    · have inside : place < values.length := (List.getElem?_eq_some_iff.mp placed).1
      refine Or.inl ⟨above, by rw [List.getElem?_append_left inside, placed], ?_⟩
      intro earlier before
      rw [List.getElem?_append_left (Nat.lt_trans before inside)]
      exact first earlier before
    · exact Or.inr atFloor

end FirstMax

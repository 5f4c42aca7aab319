/-
Indexing and slicing with their bounds checks.

A computation over a buffer may end with an error of its own, leave the buffer,
or still run when the rounds it was given are used up.  Where every access is
inside, a checked computation is the plain one.
-/

import Mathlib.Data.List.GetD

namespace BoundsCheck

variable {α ε : Type}

inductive Stop (ε : Type) where
  | outOfRange
  | unfinished
  | failed (cause : ε)
deriving DecidableEq

def inRange (result : Except ε α) : Except (Stop ε) α := result.mapError .failed

/-- `buf[place]`. -/
def index (buf : List α) (place : Nat) : Except (Stop ε) α :=
  match buf[place]? with
  | some item => .ok item
  | none => .error .outOfRange

/-- `[buf[pos], buf[pos + 1], ...]`, item by item. -/
def items (buf : List α) (pos count : Nat) : Except (Stop ε) (List α) :=
  (List.range count).mapM fun offset => index buf (pos + offset)

/-- `buf[first..last]`. -/
def between (buf : List α) (first last : Nat) : Except (Stop ε) (List α) :=
  if first ≤ last ∧ last ≤ buf.length then .ok ((buf.drop first).take (last - first))
  else .error .outOfRange

/-- `buf[place] = item`. -/
def store (buf : List α) (place : Nat) (item : α) : Except (Stop ε) (List α) :=
  if place < buf.length then .ok (buf.set place item) else .error .outOfRange

theorem length_of_store {buf stored : List α} {place : Nat} {item : α}
    (isStored : (store buf place item : Except (Stop ε) (List α)) = .ok stored) :
    stored.length = buf.length := by
  rw [store] at isStored
  split at isStored
  · cases isStored
    exact List.length_set
  · cases isStored

theorem index_of_getElem? {buf : List α} {place : Nat} {item : α}
    (found : buf[place]? = some item) : (index buf place : Except (Stop ε) α) = .ok item := by
  rw [index, found]

theorem index_of_lt {buf : List α} {place : Nat} (inside : place < buf.length) (fallback : α) :
    (index buf place : Except (Stop ε) α) = .ok (buf.getD place fallback) := by
  rw [List.getD_eq_getElem _ _ inside]
  exact index_of_getElem? (List.getElem?_eq_getElem inside)

theorem items_of_le {buf : List α} {pos count : Nat} (inside : pos + count ≤ buf.length) :
    (items buf pos count : Except (Stop ε) (List α)) = .ok ((buf.drop pos).take count) := by
  induction count with
  | zero => rfl
  | succ count ih =>
      have last : (buf.drop pos)[count]? = some (buf.get ⟨pos + count, inside⟩) := by
        rw [List.getElem?_drop]
        exact List.getElem?_eq_getElem inside
      have found := last
      rw [List.getElem?_drop] at found
      have earlier := ih (Nat.le_of_succ_le inside)
      unfold items at earlier ⊢
      rw [List.range_succ, List.mapM_append, earlier, List.mapM_cons, index_of_getElem? found,
        List.take_add_one, last]
      rfl

theorem items_of_lt {buf : List α} {pos count : Nat} (positive : 0 < count)
    (outside : buf.length < pos + count) :
    (items buf pos count : Except (Stop ε) (List α)) = .error .outOfRange := by
  induction count with
  | zero => exact absurd positive (Nat.lt_irrefl 0)
  | succ count ih =>
      have last : (index buf (pos + count) : Except (Stop ε) α) = .error .outOfRange := by
        rw [index, List.getElem?_eq_none (by omega)]
      unfold items at ih ⊢
      rw [List.range_succ, List.mapM_append]
      by_cases first : count = 0
      · rw [first] at last ⊢
        rw [List.mapM_cons, last]
        rfl
      · by_cases earlier : buf.length < pos + count
        · rw [ih (Nat.pos_of_ne_zero first) earlier]
          rfl
        · have fits := items_of_le (ε := ε) (Nat.le_of_not_lt earlier)
          unfold items at fits
          rw [fits, List.mapM_cons, last]
          rfl

theorem between_of_le {buf : List α} {first count : Nat} (inside : first + count ≤ buf.length) :
    (between buf first (first + count) : Except (Stop ε) (List α)) =
      .ok ((buf.drop first).take count) := by
  rw [between, if_pos ⟨Nat.le_add_right first count, inside⟩, Nat.add_sub_cancel_left]

theorem between_length_of_le {buf : List α} {first : Nat} (inside : first ≤ buf.length) :
    (between buf first buf.length : Except (Stop ε) (List α)) = .ok (buf.drop first) := by
  have rest : (buf.drop first).take (buf.length - first) = buf.drop first :=
    List.take_of_length_le (Nat.le_of_eq List.length_drop)
  rw [between, if_pos ⟨inside, Nat.le_refl _⟩, rest]

theorem between_of_lt {buf : List α} {first last : Nat} (outside : buf.length < last) :
    (between buf first last : Except (Stop ε) (List α)) = .error .outOfRange :=
  if_neg (fun both => Nat.not_le_of_lt outside both.2)

theorem between_length_of_lt {buf : List α} {first : Nat} (outside : buf.length < first) :
    (between buf first buf.length : Except (Stop ε) (List α)) = .error .outOfRange :=
  if_neg (fun both => Nat.not_le_of_lt outside both.1)

end BoundsCheck

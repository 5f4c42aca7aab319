/-
A flat buffer that is cut into slots of one size.

A write puts its items at the front of a slot and leaves the rest of the slot as
it was, so a slot that is used again still holds the end of what was there.  A
read of exactly the items written never sees it.
-/

import Mathlib.Data.List.Basic

universe u

namespace Slots

variable {α : Type u}

/-- The items of `storage` from `start` on replaced by `items`. -/
def overwrite (storage : List α) (start : Nat) (items : List α) : List α :=
  storage.take start ++ items ++ storage.drop (start + items.length)

theorem length_overwrite {storage items : List α} {start : Nat}
    (fits : start + items.length ≤ storage.length) :
    (overwrite storage start items).length = storage.length := by
  rw [overwrite, List.length_append, List.length_append, List.length_take, List.length_drop]
  omega

theorem read_overwrite {storage items : List α} {start : Nat}
    (fits : start + items.length ≤ storage.length) :
    ((overwrite storage start items).drop start).take items.length = items := by
  have before : (storage.take start).length = start := by
    rw [List.length_take]
    omega
  rw [overwrite, List.append_assoc, List.drop_left' before, List.take_left]

theorem read_overwrite_behind {storage items : List α} {start place count : Nat}
    (fits : start + items.length ≤ storage.length) (behind : place + count ≤ start) :
    ((overwrite storage start items).drop place).take count =
      (storage.drop place).take count := by
  apply List.ext_getElem?
  intro offset
  rw [List.getElem?_take, List.getElem?_take]
  split
  · rename_i inside
    have before : place + offset < (storage.take start).length := by
      rw [List.length_take]
      omega
    rw [List.getElem?_drop, List.getElem?_drop, overwrite, List.append_assoc,
      List.getElem?_append_left before, List.getElem?_take_of_lt (by omega)]
  · rfl

def fill (size : Nat) (storage : List α) : Nat → List (List α) → List α
  | _, [] => storage
  | index, items :: rest => fill size (overwrite storage (index * size) items) (index + 1) rest

section Fill

variable {size : Nat} {storage : List α}

def Holds (size : Nat) (storage : List α) (index : Nat) (lists : List (List α)) : Prop :=
  (∀ items, items ∈ lists → items.length ≤ size) ∧ (index + lists.length) * size ≤ storage.length

theorem Holds.head {index : Nat} {items : List α} {rest : List (List α)}
    (holds : Holds size storage index (items :: rest)) :
    index * size + items.length ≤ storage.length := by
  have short := holds.1 items List.mem_cons_self
  have room := holds.2
  have least : (index + 1) * size ≤ (index + (items :: rest).length) * size :=
    Nat.mul_le_mul_right size (by rw [List.length_cons]; omega)
  rw [Nat.succ_mul] at least
  omega

theorem Holds.tail {index : Nat} {items : List α} {rest : List (List α)}
    (holds : Holds size storage index (items :: rest)) :
    Holds size (overwrite storage (index * size) items) (index + 1) rest := by
  refine ⟨fun other member => holds.1 other (List.mem_cons_of_mem _ member), ?_⟩
  have room := holds.2
  rw [length_overwrite holds.head]
  rw [List.length_cons, ← Nat.add_assoc, Nat.add_right_comm] at room
  exact room

theorem length_fill {lists : List (List α)} {index : Nat}
    (holds : Holds size storage index lists) : (fill size storage index lists).length =
      storage.length := by
  induction lists generalizing storage index with
  | nil => rfl
  | cons items rest ih => rw [fill, ih holds.tail, length_overwrite holds.head]

theorem read_fill_before {lists : List (List α)} {index : Nat}
    (holds : Holds size storage index lists) {place count : Nat}
    (before : place + count ≤ index * size) :
    ((fill size storage index lists).drop place).take count = (storage.drop place).take count := by
  induction lists generalizing storage index with
  | nil => rfl
  | cons items rest ih =>
      have further : place + count ≤ (index + 1) * size := by
        rw [Nat.succ_mul]
        omega
      rw [fill, ih holds.tail further, read_overwrite_behind holds.head before]

theorem read_fill {lists : List (List α)} {index : Nat}
    (holds : Holds size storage index lists) {offset : Nat} {items : List α}
    (placed : lists[offset]? = some items) :
    ((fill size storage index lists).drop ((index + offset) * size)).take items.length =
      items := by
  induction lists generalizing storage index offset with
  | nil => cases placed
  | cons first rest ih =>
      cases offset with
      | zero =>
          rw [List.getElem?_cons_zero] at placed
          cases placed
          have short := holds.1 items List.mem_cons_self
          have before : index * size + items.length ≤ (index + 1) * size := by
            rw [Nat.succ_mul]
            omega
          rw [Nat.add_zero, fill, read_fill_before holds.tail before,
            read_overwrite holds.head]
      | succ offset =>
          rw [List.getElem?_cons_succ] at placed
          have found := ih holds.tail placed
          rw [Nat.add_assoc, Nat.add_comm 1 offset] at found
          exact found

end Fill

end Slots

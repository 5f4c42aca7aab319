/-
Little-endian byte strings of a fixed width.

Encoding keeps the low bytes of a number, so it is total: a number that does
not fit the width is truncated, as a fixed-width integer cast does.  Decoding
reads every byte it is given.
-/

import Mathlib.Algebra.Order.Ring.Nat
import Mathlib.Data.Nat.Basic

namespace LittleEndian

def toLeBytes : Nat → Nat → List UInt8
  | 0, _ => []
  | width + 1, value => UInt8.ofNat value :: toLeBytes width (value / 256)

def fromLeBytes : List UInt8 → Nat
  | [] => 0
  | byte :: rest => byte.toNat + 256 * fromLeBytes rest

@[simp] theorem toLeBytes_length (width value : Nat) :
    (toLeBytes width value).length = width := by
  induction width generalizing value with
  | zero => rfl
  | succ width ih =>
      simp only [toLeBytes, List.length_cons, ih]

theorem fromLeBytes_toLeBytes (width value : Nat) :
    fromLeBytes (toLeBytes width value) = value % 256 ^ width := by
  induction width generalizing value with
  | zero =>
      simp only [toLeBytes, fromLeBytes, Nat.pow_zero, Nat.mod_one]
  | succ width ih =>
      have lowByte : (UInt8.ofNat value).toNat = value % 256 :=
        UInt8.toNat_ofNat'
      simp only [toLeBytes, fromLeBytes, ih, lowByte]
      rw [Nat.pow_succ, Nat.mul_comm (256 ^ width) 256, Nat.mod_mul]

theorem fromLeBytes_toLeBytes_of_lt (width value : Nat)
    (fits : value < 256 ^ width) :
    fromLeBytes (toLeBytes width value) = value := by
  rw [fromLeBytes_toLeBytes, Nat.mod_eq_of_lt fits]

theorem fromLeBytes_lt (bytes : List UInt8) : fromLeBytes bytes < 256 ^ bytes.length := by
  induction bytes with
  | nil => exact Nat.zero_lt_one
  | cons byte rest ih =>
      have low : byte.toNat < 256 := byte.toNat_lt
      rw [fromLeBytes, List.length_cons, Nat.pow_succ]
      omega

theorem toLeBytes_fromLeBytes (bytes : List UInt8) :
    toLeBytes bytes.length (fromLeBytes bytes) = bytes := by
  induction bytes with
  | nil => rfl
  | cons byte rest ih =>
      have low : byte.toNat < 256 := byte.toNat_lt
      have first : UInt8.ofNat (byte.toNat + 256 * fromLeBytes rest) = byte := by
        apply UInt8.toNat_inj.mp
        rw [UInt8.toNat_ofNat']
        omega
      have others : (byte.toNat + 256 * fromLeBytes rest) / 256 = fromLeBytes rest := by
        omega
      rw [List.length_cons, fromLeBytes, toLeBytes, first, others, ih]

theorem fromLeBytes_flatMap {α : Type} (width : Nat) (value : α → Nat) (items : List α)
    (fits : ∀ item, value item < 256 ^ width) (rest : List UInt8) (index : Nat)
    (inside : index < items.length) :
    fromLeBytes (((items.flatMap (fun item => toLeBytes width (value item)) ++ rest).drop
      (index * width)).take width) = value items[index] := by
  induction items generalizing index with
  | nil => exact absurd inside (Nat.not_lt_zero index)
  | cons item items ih =>
      rw [List.flatMap_cons, List.append_assoc]
      cases index with
      | zero =>
          rw [Nat.zero_mul, List.drop_zero, List.take_left' (toLeBytes_length width _),
            fromLeBytes_toLeBytes_of_lt width _ (fits item), List.getElem_cons_zero]
      | succ index =>
          have skipFirst : (index + 1) * width =
              (toLeBytes width (value item)).length + index * width := by
            rw [toLeBytes_length, Nat.succ_mul, Nat.add_comm]
          rw [skipFirst, List.drop_append, List.drop_of_length_le (Nat.le_add_right _ _),
            Nat.add_sub_cancel_left, List.nil_append, List.getElem_cons_succ]
          exact ih index (Nat.lt_of_succ_lt_succ inside)

theorem length_flatMap_toLeBytes {α : Type} (width : Nat) (value : α → Nat) (items : List α) :
    (items.flatMap (fun item => toLeBytes width (value item))).length =
      items.length * width := by
  induction items with
  | nil => simp
  | cons item items ih =>
      rw [List.flatMap_cons, List.length_append, toLeBytes_length, ih, List.length_cons,
        Nat.succ_mul, Nat.add_comm]

theorem flatMap_range_fields (data : List UInt8) (start width count : Nat) :
    (List.range count).flatMap (fun index => (data.drop (start + index * width)).take width) =
      (data.drop start).take (count * width) := by
  induction count with
  | zero => simp
  | succ count ih =>
      rw [List.range_succ, List.flatMap_append, ih, List.flatMap_singleton, Nat.succ_mul,
        List.take_add, List.drop_drop]

end LittleEndian

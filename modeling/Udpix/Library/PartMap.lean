/-
Maps from indices to the pieces of a list.

A map agrees with a list when everything it holds stands at its index in the
list.  Such a map is never larger than the list, and one that is as large holds
every piece.
-/

import Udpix.Library.AssocMap
import Mathlib.Data.List.Induction
import Mathlib.Data.List.Perm.Subperm

namespace PartMap

universe u

variable {α : Type u} {parts : AssocMap Nat α} {pieces : List α}

def Agrees (parts : AssocMap Nat α) (pieces : List α) : Prop :=
  ∀ index piece, parts.lookup index = some piece → pieces[index]? = some piece

theorem agrees_empty (pieces : List α) : Agrees ∅ pieces := by
  intro index piece found
  rw [AList.lookup_empty] at found
  cases found

theorem Agrees.insert (agrees : Agrees parts pieces) {index : Nat} {piece : α}
    (placed : pieces[index]? = some piece) : Agrees (parts.insert index piece) pieces := by
  intro other value found
  by_cases same : other = index
  · rw [same, AList.lookup_insert] at found
    cases found
    rw [same]
    exact placed
  · rw [AList.lookup_insert_ne same] at found
    exact agrees other value found

/-! ### Maps with all indices below a bound -/

section Bounded

variable {count : Nat} (inside : ∀ index, (parts.lookup index).isSome = true → index < count)
include inside

theorem keys_subperm_range : parts.keys.Subperm (List.range count) := by
  apply List.subperm_of_subset parts.nodupKeys
  intro index member
  have present := (AssocMap.mem_keys_iff_lookup parts index).mp member
  exact List.mem_range.mpr (inside index (Option.isSome_iff_exists.mpr present))

theorem size_le_of_inside : parts.size ≤ count := by
  have lengths := (keys_subperm_range inside).length_le
  rw [List.length_range] at lengths
  exact lengths

/-- A map with as many indices as fit below the bound has all of them. -/
theorem isSome_of_full (full : parts.size = count) (index : Nat) (within : index < count) :
    (parts.lookup index).isSome = true := by
  have allKeys : parts.keys.Perm (List.range count) := by
    apply (keys_subperm_range inside).perm_of_length_le
    rw [List.length_range]
    exact Nat.le_of_eq full.symm
  have key := allKeys.symm.subset (List.mem_range.mpr within)
  exact Option.isSome_iff_exists.mpr ((AssocMap.mem_keys_iff_lookup parts index).mp key)

end Bounded

theorem Agrees.inside (agrees : Agrees parts pieces) (index : Nat)
    (present : (parts.lookup index).isSome = true) : index < pieces.length := by
  obtain ⟨piece, found⟩ := Option.isSome_iff_exists.mp present
  exact (List.getElem?_eq_some_iff.mp (agrees index piece found)).1

theorem Agrees.size_le (agrees : Agrees parts pieces) : parts.size ≤ pieces.length :=
  size_le_of_inside agrees.inside

theorem Agrees.lookup_eq (agrees : Agrees parts pieces) (full : parts.size = pieces.length)
    (index : Nat) : parts.lookup index = pieces[index]? := by
  cases found : parts.lookup index with
  | some piece => exact (agrees index piece found).symm
  | none =>
      symm
      rw [List.getElem?_eq_none_iff]
      apply Nat.le_of_not_lt
      intro within
      have present := isSome_of_full agrees.inside full index within
      rw [found] at present
      cases present

theorem le_size_of_isSome (parts : AssocMap Nat α) (count : Nat)
    (present : ∀ index, index < count → (parts.lookup index).isSome = true) :
    count ≤ parts.size := by
  have subset : (List.range count).Subperm parts.keys := by
    apply List.subperm_of_subset List.nodup_range
    intro index member
    exact (AssocMap.mem_keys_iff_lookup parts index).mpr
      (Option.isSome_iff_exists.mp (present index (List.mem_range.mp member)))
  have lengths := subset.length_le
  rw [List.length_range] at lengths
  exact lengths

theorem size_le_size_insert (index : Nat) (piece : α) (parts : AssocMap Nat α) :
    AssocMap.size (parts.insert index piece) ≤ parts.size + 1 := by
  unfold AssocMap.size
  rw [AList.keys_insert, List.length_cons]
  exact Nat.succ_le_succ (List.length_erase_le)

private theorem flatMap_range_getElem? (pieces : List (List α)) :
    (List.range pieces.length).flatMap (fun index => pieces[index]?.getD []) =
      pieces.flatten := by
  induction pieces using List.reverseRecOn with
  | nil => rfl
  | append_singleton pieces last ih =>
      have earlier : (List.range pieces.length).flatMap
          (fun index => (pieces ++ [last])[index]?.getD []) = pieces.flatten := by
        rw [← ih]
        apply List.flatMap_congr
        intro index member
        rw [List.getElem?_append_left (List.mem_range.mp member)]
      rw [List.length_append, List.length_singleton, List.range_succ, List.flatMap_append,
        earlier, List.flatMap_singleton, List.flatten_append, List.getElem?_concat_length]
      exact congrArg (pieces.flatten ++ ·) (List.append_nil last).symm

/-- Reading a full map in order gives the concatenation of the pieces. -/
theorem Agrees.flatMap_eq_flatten {parts : AssocMap Nat (List α)} {pieces : List (List α)}
    (agrees : Agrees parts pieces) (full : parts.size = pieces.length) :
    (List.range pieces.length).flatMap (fun index => (parts.lookup index).getD []) =
      pieces.flatten := by
  rw [← flatMap_range_getElem? pieces]
  apply List.flatMap_congr
  intro index _
  rw [agrees.lookup_eq full index]

end PartMap

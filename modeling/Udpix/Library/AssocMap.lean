/-
Finite maps as association lists with distinct keys.

The order of the entries stands for the iteration order of a hash map: no
lemma here depends on it, and an update of values in place keeps it.  The map
itself is Mathlib's `AList`; this file adds the operations that rewrite or
filter values, and sums over them.
-/

import Mathlib.Data.List.AList
import Mathlib.Algebra.Ring.Nat

universe u v

/-- A map with at most one value for each key. -/
abbrev AssocMap (κ : Type u) (υ : Type v) := AList (fun _ : κ => υ)

namespace AssocMap

variable {κ : Type u} {υ : Type v}

def size (entries : AssocMap κ υ) : Nat := entries.keys.length

/-- Rewrite every value in place, as a loop over mutable entries does. -/
def mapValues (update : κ → υ → υ) (entries : AssocMap κ υ) : AssocMap κ υ where
  entries := entries.entries.map (fun entry => ⟨entry.1, update entry.1 entry.2⟩)
  nodupKeys := by
    have keysEq : (entries.entries.map
        (fun entry => (⟨entry.1, update entry.1 entry.2⟩ : Sigma fun _ : κ => υ))).keys =
          entries.entries.keys := by
      simp only [List.keys, List.map_map]
      rfl
    unfold List.NodupKeys
    rw [keysEq]
    exact entries.nodupKeys

@[simp] theorem keys_mapValues (update : κ → υ → υ) (entries : AssocMap κ υ) :
    (mapValues update entries).keys = entries.keys := by
  simp only [AList.keys, mapValues, List.keys, List.map_map]
  rfl

theorem mapValues_mapValues (first second : κ → υ → υ) (entries : AssocMap κ υ) :
    mapValues second (mapValues first entries) =
      mapValues (fun key value => second key (first key value)) entries := by
  apply AList.ext
  simp only [mapValues, List.map_map]
  rfl

theorem mapValues_congr {first second : κ → υ → υ} (entries : AssocMap κ υ)
    (same : ∀ key value, first key value = second key value) :
    mapValues first entries = mapValues second entries := by
  have equal : first = second := funext fun key => funext fun value => same key value
  rw [equal]

theorem mapValues_eq_self {update : κ → υ → υ} (entries : AssocMap κ υ)
    (same : ∀ key value, update key value = value) : mapValues update entries = entries := by
  apply AList.ext
  have unchanged : (fun entry : Sigma fun _ : κ => υ =>
      (⟨entry.1, update entry.1 entry.2⟩ : Sigma fun _ : κ => υ)) = id := by
    funext entry
    rw [same]
    rfl
  exact (congrArg (fun rewrite => entries.entries.map rewrite) unchanged).trans (List.map_id _)

def retain (keep : κ → υ → Bool) (entries : AssocMap κ υ) : AssocMap κ υ where
  entries := entries.entries.filter (fun entry => keep entry.1 entry.2)
  nodupKeys := List.NodupKeys.sublist List.filter_sublist entries.nodupKeys

def total (weight : υ → Nat) (entries : AssocMap κ υ) : Nat :=
  (entries.entries.map (fun entry => weight entry.2)).sum

theorem total_of_perm (weight : υ → Nat) {entries others : AssocMap κ υ}
    (same : entries.entries.Perm others.entries) : total weight entries = total weight others :=
  (same.map _).sum_nat

theorem total_mapValues {weight : υ → Nat} {update : κ → υ → υ}
    (kept : ∀ key value, weight (update key value) = weight value) (entries : AssocMap κ υ) :
    total weight (mapValues update entries) = total weight entries := by
  rw [total, total, mapValues, List.map_map]
  refine congrArg List.sum (List.map_congr_left ?_)
  intro entry _
  exact kept entry.1 entry.2

theorem total_one (entries : AssocMap κ υ) : total (fun _ => 1) entries = entries.size := by
  rw [total, List.map_const', List.sum_replicate_nat, Nat.mul_one, size, AList.keys, List.keys,
    List.length_map]

variable [DecidableEq κ]

private theorem dlookup_mapValues (update : κ → υ → υ) (key : κ)
    (entries : List (Sigma fun _ : κ => υ)) :
    List.dlookup key
        (entries.map (fun entry => (⟨entry.1, update entry.1 entry.2⟩ : Sigma fun _ : κ => υ))) =
      (List.dlookup key entries).map (update key) := by
  induction entries with
  | nil => rfl
  | cons entry rest ih =>
      obtain ⟨entryKey, value⟩ := entry
      by_cases same : key = entryKey
      · subst same
        rw [List.map_cons, List.dlookup_cons_eq, List.dlookup_cons_eq, Option.map_some]
      · rw [List.map_cons, List.dlookup_cons_ne _ _ same, List.dlookup_cons_ne _ _ same, ih]

@[simp] theorem lookup_mapValues (update : κ → υ → υ) (entries : AssocMap κ υ) (key : κ) :
    (mapValues update entries).lookup key = (entries.lookup key).map (update key) :=
  dlookup_mapValues update key entries.entries

def modify (key : κ) (update : υ → υ) (entries : AssocMap κ υ) : AssocMap κ υ :=
  mapValues (fun other value => if other = key then update value else value) entries

@[simp] theorem keys_modify (key : κ) (update : υ → υ) (entries : AssocMap κ υ) :
    (modify key update entries).keys = entries.keys :=
  keys_mapValues _ _

theorem lookup_modify (key other : κ) (update : υ → υ) (entries : AssocMap κ υ) :
    (modify key update entries).lookup other =
      if other = key then (entries.lookup other).map update else entries.lookup other := by
  rw [modify, lookup_mapValues]
  split <;> simp

theorem lookup_retain (keep : κ → υ → Bool) (entries : AssocMap κ υ) (key : κ) :
    (retain keep entries).lookup key = (entries.lookup key).filter (keep key) := by
  obtain ⟨list, distinct⟩ := entries
  simp only [AList.lookup, retain]
  induction list with
  | nil => rfl
  | cons entry rest ih =>
      obtain ⟨entryKey, value⟩ := entry
      have rule := ih (List.nodupKeys_cons.mp distinct).2
      have absent := (List.nodupKeys_cons.mp distinct).1
      rw [List.filter_cons]
      by_cases same : key = entryKey
      · subst same
        rw [List.dlookup_cons_eq, Option.filter_some]
        cases kept : keep key value with
        | true => rw [if_pos rfl, if_pos rfl, List.dlookup_cons_eq]
        | false =>
            rw [if_neg Bool.false_ne_true, if_neg Bool.false_ne_true, rule,
              List.dlookup_eq_none.mpr absent, Option.filter_none]
      · rw [List.dlookup_cons_ne _ _ same, ← rule]
        split
        · rw [List.dlookup_cons_ne _ _ same]
        · rfl

theorem mem_keys_iff_lookup (entries : AssocMap κ υ) (key : κ) :
    key ∈ entries.keys ↔ ∃ value, entries.lookup key = some value := by
  rw [← AList.mem_keys, ← AList.lookup_isSome, Option.isSome_iff_exists]

theorem total_insert (weight : υ → Nat) {entries : AssocMap κ υ} {key : κ} (value : υ)
    (fresh : key ∉ entries) :
    total weight (entries.insert key value) = weight value + total weight entries := by
  rw [total, AList.entries_insert_of_notMem fresh, List.map_cons, List.sum_cons, total]

theorem total_erase (weight : υ → Nat) {entries : AssocMap κ υ} {key : κ} {value : υ}
    (found : entries.lookup key = some value) :
    weight value + total weight (entries.erase key) = total weight entries := by
  have present : key ∈ entries.entries.keys :=
    (mem_keys_iff_lookup entries key).mpr ⟨value, found⟩
  obtain ⟨stored, before, after, absent, split, erased⟩ := List.exists_of_kerase present
  have same : stored = value := by
    have lookup : List.dlookup key (before ++ ⟨key, stored⟩ :: after) = some value := by
      rw [← split]
      exact found
    rw [List.dlookup_append, List.dlookup_eq_none.mpr absent, List.dlookup_cons_eq] at lookup
    exact Option.some.inj lookup
  have rest : (entries.erase key).entries = before ++ after := erased
  rw [total, total, rest, split, List.map_append, List.map_append, List.map_cons, List.sum_append,
    List.sum_append, List.sum_cons, same]
  dsimp only
  omega

end AssocMap

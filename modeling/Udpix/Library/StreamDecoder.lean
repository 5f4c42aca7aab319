/-
Decoding a stream that arrives in pieces.

A decoder takes one item off the front of what has arrived, or waits.  When it
shortens its input and does not change its mind as more input follows, what it
produces from a stream does not depend on where the stream is cut.
-/

import Mathlib.Data.List.Basic
import Mathlib.Data.List.Induction

namespace StreamDecoder

universe u v

variable {α : Type u} {β : Type v}

/-- A decoder that consumes input and never revises an item. -/
structure Steady (next : List α → Option (β × List α)) : Prop where
  shrinks : ∀ input item rest, next input = some (item, rest) → rest.length < input.length
  keeps : ∀ input item rest more, next input = some (item, rest) →
    next (input ++ more) = some (item, rest ++ more)

def extractFuel (next : List α → Option (β × List α)) : Nat → List α → List β × List α
  | 0, input => ([], input)
  | fuel + 1, input =>
      match next input with
      | none => ([], input)
      | some (item, rest) =>
          let (items, left) := extractFuel next fuel rest
          (item :: items, left)

def extract (next : List α → Option (β × List α)) (input : List α) : List β × List α :=
  extractFuel next input.length input

variable {next : List α → Option (β × List α)}

theorem extractFuel_of_none {input : List α} (waits : next input = none) (fuel : Nat) :
    extractFuel next fuel input = ([], input) := by
  cases fuel with
  | zero => rfl
  | succ fuel =>
      unfold extractFuel
      rw [waits]

theorem extract_of_none {input : List α} (waits : next input = none) :
    extract next input = ([], input) :=
  extractFuel_of_none waits _

theorem Steady.extractFuel_eq (steady : Steady next) (fuel : Nat) (input : List α)
    (enough : input.length ≤ fuel) : extractFuel next fuel input = extract next input := by
  induction fuel using Nat.strongRecOn generalizing input with
  | _ fuel ih =>
      cases found : next input with
      | none => rw [extractFuel_of_none found, extract_of_none found]
      | some decoded =>
          obtain ⟨item, rest⟩ := decoded
          have shorter := steady.shrinks input item rest found
          cases fuel with
          | zero => omega
          | succ fuel =>
              unfold extract
              cases sized : input.length with
              | zero => omega
              | succ size =>
                  unfold extractFuel
                  rw [found]
                  dsimp only
                  by_cases same : size = fuel
                  · rw [same]
                  · rw [ih fuel (Nat.lt_succ_self fuel) rest (by omega),
                      ih size (by omega) rest (by omega)]

theorem Steady.extract_of_some (steady : Steady next) {input rest : List α} {item : β}
    (found : next input = some (item, rest)) :
    extract next input = (item :: (extract next rest).1, (extract next rest).2) := by
  have shorter := steady.shrinks input item rest found
  rw [← steady.extractFuel_eq (input.length + 1) input (Nat.le_succ _)]
  unfold extractFuel
  rw [found]
  dsimp only
  rw [steady.extractFuel_eq input.length rest (Nat.le_of_lt shorter)]

theorem Steady.induction (steady : Steady next) {motive : List α → Prop}
    (waiting : ∀ input, next input = none → motive input)
    (decoded : ∀ input item rest, next input = some (item, rest) → motive rest → motive input)
    (input : List α) : motive input := by
  induction length : input.length using Nat.strongRecOn generalizing input with
  | _ length' ih =>
      cases found : next input with
      | none => exact waiting input found
      | some pair =>
          obtain ⟨item, rest⟩ := pair
          have shorter := steady.shrinks input item rest found
          exact decoded input item rest found (ih rest.length (by omega) rest rfl)

theorem Steady.next_left (steady : Steady next) (input : List α) :
    next (extract next input).2 = none := by
  induction input using steady.induction with
  | waiting input waits =>
      rw [extract_of_none waits]
      exact waits
  | decoded input item rest found ih =>
      rw [steady.extract_of_some found]
      exact ih

theorem Steady.extract_append (steady : Steady next) (first second : List α) :
    extract next (first ++ second) =
      ((extract next first).1 ++ (extract next ((extract next first).2 ++ second)).1,
        (extract next ((extract next first).2 ++ second)).2) := by
  induction first using steady.induction with
  | waiting first waits =>
      rw [extract_of_none waits]
      rfl
  | decoded first item rest found ih =>
      rw [steady.extract_of_some (steady.keeps first item rest second found),
        steady.extract_of_some found, ih]
      rfl

/-- What a beginning of the stream produces is a beginning of what the stream
produces. -/
theorem Steady.extract_prefix (steady : Steady next) {first whole : List α}
    (begins : first <+: whole) : (extract next first).1 <+: (extract next whole).1 := by
  obtain ⟨second, rfl⟩ := begins
  rw [steady.extract_append]
  exact List.prefix_append _ _

/-- A decoder in the middle of its input: `done` is decoded, and what is left
yields the rest. -/
def Partway (next : List α → Option (β × List α)) (stream : List α) (done : List β)
    (left : List α) : Prop :=
  extract next stream = (done ++ (extract next left).1, (extract next left).2)

theorem partway_nil (waits : next [] = none) : Partway next [] [] [] := by
  rw [Partway, extract_of_none waits]
  rfl

section Partway

variable {stream left rest : List α} {done : List β} {item : β}

theorem Partway.advance (steady : Steady next) (partway : Partway next stream done left)
    (found : next left = some (item, rest)) : Partway next stream (done ++ [item]) rest := by
  rw [Partway, partway, steady.extract_of_some found, List.append_assoc]
  rfl

theorem Partway.done_isPrefix (partway : Partway next stream done left) :
    done <+: (extract next stream).1 := by
  rw [partway]
  exact List.prefix_append _ _

theorem Partway.done_eq (partway : Partway next stream done left) (waits : next left = none) :
    (extract next stream).1 = done := by
  rw [partway, extract_of_none waits]
  exact List.append_nil done

theorem Partway.more (steady : Steady next) (partway : Partway next stream done left)
    (waits : next left = none) (more : List α) :
    Partway next (stream ++ more) done (left ++ more) := by
  have remains : (extract next stream).2 = left := by rw [partway, extract_of_none waits]
  rw [Partway, steady.extract_append, remains, partway.done_eq waits]

end Partway

end StreamDecoder

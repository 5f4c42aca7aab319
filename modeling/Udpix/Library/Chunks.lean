/-
Cutting a list into consecutive pieces.

The pieces have a fixed positive size, the last one possibly less; the recursion
is on a fuel that the length of the list always covers, so that they can be
computed in proofs.  Or they end where a test on the piece first succeeds; then
a rest may be left over at the end.
-/

import Mathlib.Algebra.Order.Ring.Nat
import Mathlib.Data.List.Basic
import Mathlib.Data.List.Induction

namespace Chunks

variable {α : Type*}

def chunksAux (size : Nat) : Nat → List α → List (List α)
  | 0, _ => []
  | _ + 1, [] => []
  | fuel + 1, head :: tail =>
      (head :: tail).take size :: chunksAux size fuel ((head :: tail).drop size)

/-- The pieces of `items`, each of `size` elements except possibly the last. -/
def chunks (size : Nat) (items : List α) : List (List α) :=
  chunksAux size items.length items

theorem chunksAux_fuel (size : Nat) (positive : 0 < size)
    (fuel : Nat) (items : List α) (enough : items.length ≤ fuel) :
    chunksAux size fuel items = chunks size items := by
  unfold chunks
  induction fuel using Nat.strongRecOn generalizing items with
  | _ fuel ih =>
      cases items with
      | nil =>
          cases fuel <;> rfl
      | cons head tail =>
          cases fuel with
          | zero => cases enough
          | succ fuel =>
              simp only [List.length_cons] at enough
              have dropBound : ((head :: tail).drop size).length ≤ tail.length := by
                simp only [List.length_drop, List.length_cons]
                omega
              change _ :: chunksAux size fuel _ = _ :: chunksAux size tail.length _
              rw [ih fuel (Nat.lt_succ_self fuel) _ (by omega)]
              by_cases same : tail.length = fuel
              · rw [same, ih fuel (Nat.lt_succ_self fuel) _ (by omega)]
              · rw [ih tail.length (by omega) _ dropBound]

@[simp] theorem chunks_nil (size : Nat) : chunks size ([] : List α) = [] := rfl

theorem chunks_of_ne_nil (size : Nat) (positive : 0 < size)
    (items : List α) (nonempty : items ≠ []) :
    chunks size items = items.take size :: chunks size (items.drop size) := by
  cases items with
  | nil => exact absurd rfl nonempty
  | cons head tail =>
      have dropBound : ((head :: tail).drop size).length ≤ tail.length := by
        simp only [List.length_drop, List.length_cons]
        omega
      change _ :: chunksAux size tail.length _ = _
      rw [chunksAux_fuel size positive _ _ dropBound]

theorem chunks_induction (size : Nat) (positive : 0 < size)
    {motive : List α → Prop} (nil : motive [])
    (step : ∀ items, items ≠ [] → motive (items.drop size) → motive items)
    (items : List α) : motive items := by
  induction length : items.length using Nat.strongRecOn generalizing items with
  | _ length' ih =>
      by_cases empty : items = []
      · rw [empty]
        exact nil
      · have lengthPos : 0 < items.length := List.length_pos_iff.mpr empty
        apply step items empty
        apply ih (items.drop size).length _ _ rfl
        rw [List.length_drop]
        omega

theorem flatten_chunks (size : Nat) (positive : 0 < size) (items : List α) :
    (chunks size items).flatten = items := by
  induction items using chunks_induction size positive with
  | nil => rfl
  | step items nonempty ih =>
      rw [chunks_of_ne_nil size positive items nonempty, List.flatten_cons, ih,
        List.take_append_drop]

theorem length_of_mem_chunks (size : Nat) (positive : 0 < size)
    (items piece : List α) (member : piece ∈ chunks size items) :
    0 < piece.length ∧ piece.length ≤ size := by
  induction items using chunks_induction size positive with
  | nil => cases member
  | step items nonempty ih =>
      rw [chunks_of_ne_nil size positive items nonempty] at member
      rcases List.mem_cons.mp member with first | later
      · have lengthPos : 0 < items.length := List.length_pos_iff.mpr nonempty
        rw [first, List.length_take]
        omega
      · exact ih later

theorem length_chunks (size : Nat) (positive : 0 < size) (items : List α) :
    (chunks size items).length = (items.length + size - 1) / size := by
  induction items using chunks_induction size positive with
  | nil =>
      rw [chunks_nil, List.length_nil, List.length_nil]
      exact (Nat.div_eq_of_lt (by omega)).symm
  | step items nonempty ih =>
      have lengthPos : 0 < items.length := List.length_pos_iff.mpr nonempty
      rw [chunks_of_ne_nil size positive items nonempty, List.length_cons, ih,
        List.length_drop]
      by_cases short : items.length ≤ size
      · rw [Nat.sub_eq_zero_of_le short, Nat.div_eq_of_lt (by omega : 0 + size - 1 < size)]
        exact (Nat.div_eq_of_lt_le (by omega) (by omega)).symm
      · rw [← Nat.add_div_right _ positive]
        congr 1
        omega

theorem chunks_of_length_le (size : Nat) (items : List α)
    (nonempty : items ≠ []) (short : items.length ≤ size) :
    chunks size items = [items] := by
  have positive : 0 < size :=
    Nat.lt_of_lt_of_le (List.length_pos_iff.mpr nonempty) short
  rw [chunks_of_ne_nil size positive items nonempty, List.take_of_length_le short,
    List.drop_of_length_le short, chunks_nil]

theorem length_of_getElem?_chunks (size : Nat) (positive : 0 < size) (items : List α)
    (index : Nat) (piece : List α) (placed : (chunks size items)[index]? = some piece)
    (notLast : index + 1 < (chunks size items).length) : piece.length = size := by
  induction items using chunks_induction size positive generalizing index with
  | nil => cases placed
  | step items nonempty ih =>
      rw [chunks_of_ne_nil size positive items nonempty] at placed notLast
      rw [List.length_cons] at notLast
      cases index with
      | zero =>
          -- a second piece exists, so the first cut did not reach the end
          have first : items.take size = piece := Option.some.inj placed
          have more : items.drop size ≠ [] := by
            intro ended
            rw [ended, chunks_nil, List.length_nil] at notLast
            omega
          have long := List.length_pos_iff.mpr more
          rw [List.length_drop] at long
          rw [← first, List.length_take]
          omega
      | succ index => exact ih index placed (Nat.lt_of_succ_lt_succ notLast)

/-! ### Pieces that end where a test first succeeds -/

def Round (Full : List α → Prop) (piece : List α) : Prop :=
  Full piece ∧ ∀ front, front <+: piece → Full front → front = piece

/-- The list consists of rounds, with nothing left over. -/
def InRounds (Full : List α → Prop) (items : List α) : Prop :=
  ∃ rounds : List (List α), items = rounds.flatten ∧ ∀ round, round ∈ rounds → Round Full round

def collect (Full : List α → Prop) [DecidablePred Full] (held : List α) (item : α) : List α :=
  if Full (held ++ [item]) then [] else held ++ [item]

/-- What is held after the last round. -/
def leftOver (Full : List α → Prop) [DecidablePred Full] (items : List α) : List α :=
  items.foldl (collect Full) []

section Rounds

variable (Full : List α → Prop) [DecidablePred Full]

theorem leftOver_snoc (items : List α) (item : α) :
    leftOver Full (items ++ [item]) = collect Full (leftOver Full items) item := by
  unfold leftOver
  rw [List.foldl_append, List.foldl_cons, List.foldl_nil]

/-- A round that is held in part is emptied by its rest. -/
theorem foldl_collect_of_round (held rest : List α) (more : rest ≠ [])
    (round : Round Full (held ++ rest)) : rest.foldl (collect Full) held = [] := by
  induction rest generalizing held with
  | nil => exact absurd rfl more
  | cons item rest ih =>
      rw [List.append_cons] at round
      rw [List.foldl_cons]
      cases rest with
      | nil =>
          rw [List.append_nil] at round
          exact if_pos round.1
      | cons next rest =>
          have notYet : ¬ Full (held ++ [item]) := by
            intro full
            have whole := round.2 _ (List.prefix_append _ _) full
            exact List.cons_ne_nil next rest (List.self_eq_append_right.mp whole)
          rw [collect, if_neg notYet]
          exact ih (held ++ [item]) (List.cons_ne_nil next rest) round

theorem leftOver_flatten (notEmpty : ¬ Full []) (rounds : List (List α))
    (each : ∀ round, round ∈ rounds → Round Full round) :
    leftOver Full rounds.flatten = [] := by
  induction rounds with
  | nil => rfl
  | cons round rounds ih =>
      have isRound := each round List.mem_cons_self
      have nonempty : round ≠ [] := by
        intro empty
        rw [empty] at isRound
        exact notEmpty isRound.1
      rw [List.flatten_cons, leftOver, List.foldl_append,
        foldl_collect_of_round Full [] round nonempty isRound]
      exact ih (fun other member => each other (List.mem_cons_of_mem round member))

/-- A list is some rounds and then what is left over, no beginning of which
passes the test. -/
theorem exists_rounds_append_leftOver (notEmpty : ¬ Full []) (items : List α) :
    ∃ rounds : List (List α), items = rounds.flatten ++ leftOver Full items ∧
      (∀ round, round ∈ rounds → Round Full round) ∧
      ∀ front, front <+: leftOver Full items → ¬ Full front := by
  induction items using List.reverseRecOn with
  | nil =>
      refine ⟨[], rfl, (fun _ member => absurd member List.not_mem_nil), ?_⟩
      intro front initial
      rw [List.prefix_nil.mp initial]
      exact notEmpty
  | append_singleton items item ih =>
      obtain ⟨rounds, split, each, unfinished⟩ := ih
      rw [leftOver_snoc, collect]
      split_ifs with full
      · refine ⟨rounds ++ [leftOver Full items ++ [item]], ?_, ?_, ?_⟩
        · rw [List.append_nil, List.flatten_append, List.flatten_singleton, ← List.append_assoc,
            ← split]
        · intro round member
          rcases List.mem_append.mp member with earlier | isLast
          · exact each round earlier
          · rw [List.mem_singleton.mp isLast]
            refine ⟨full, ?_⟩
            intro front initial passes
            rcases List.prefix_concat_iff.mp initial with whole | shorter
            · exact whole
            · exact absurd passes (unfinished front shorter)
        · intro front initial
          rw [List.prefix_nil.mp initial]
          exact notEmpty
      · refine ⟨rounds, by rw [← List.append_assoc, ← split], each, ?_⟩
        intro front initial
        rcases List.prefix_concat_iff.mp initial with whole | shorter
        · rw [whole]
          exact full
        · exact unfinished front shorter

theorem leftOver_eq_nil_iff (notEmpty : ¬ Full []) (items : List α) :
    leftOver Full items = [] ↔ InRounds Full items := by
  constructor
  · intro nothing
    obtain ⟨rounds, split, each, _⟩ := exists_rounds_append_leftOver Full notEmpty items
    rw [nothing, List.append_nil] at split
    exact ⟨rounds, split, each⟩
  · intro inRounds
    obtain ⟨rounds, rfl, each⟩ := inRounds
    exact leftOver_flatten Full notEmpty rounds each

end Rounds

end Chunks

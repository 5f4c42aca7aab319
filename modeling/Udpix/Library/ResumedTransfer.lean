/-
Transfers in pieces that are resumed where the last piece ended.

Each round asks for the rest up to a limit, and the other side answers with a
count, with a negative number, or not at all.  The loop goes on while the offset
lies below the total, and its offset is the sum of the counts.  It therefore
runs forever exactly when the counts stay at zero too early.
-/

import Mathlib.Algebra.BigOperators.Fin
import Mathlib.Order.OrderIsoNat

namespace ResumedTransfer

variable {σ ε : Type}

/-- How far a transfer is, what it has moved, and the ranges it asked for. -/
structure Progress (σ : Type) where
  offset : Nat
  target : σ
  submitted : List (Nat × Nat)

def request (total limit offset : Nat) : Nat := min (total - offset) limit

def counted : Except ε Int → Nat
  | .ok result => result.toNat
  | .error _ => 0

def carried (answers : Nat → Except ε Int) (rounds : Nat) : Nat :=
  ∑ round ∈ Finset.range rounds, counted (answers round)

section Loop

variable (total limit : Nat) (move : Nat → Nat → Nat → σ → σ) (refused : Nat → Int → ε)
  (answers : Nat → Except ε Int)

def exchange (progress : Progress σ) : Except ε (Progress σ) :=
  match answers progress.submitted.length with
  | .error cause => .error cause
  | .ok result =>
      if result < 0 then .error (refused progress.offset result)
      else
        .ok
          { offset := progress.offset + result.toNat
            target := move progress.submitted.length progress.offset result.toNat progress.target
            submitted := progress.submitted ++
              [(progress.offset, request total limit progress.offset)] }

/-- The loop, `none` where it still runs after the given number of rounds. -/
def loop : Nat → Progress σ → Option (Except ε (Progress σ))
  | 0, progress => if progress.offset < total then none else some (.ok progress)
  | rounds + 1, progress =>
      if progress.offset < total then
        match exchange total limit move refused answers progress with
        | .error cause => some (.error cause)
        | .ok next => loop rounds next
      else some (.ok progress)

end Loop

/-- From some round on every answer counts nothing, and all answers before it
together counted less than the total. -/
def Stalls (total : Nat) (answers : Nat → Except ε Int) : Prop :=
  ∃ last, (∀ round, round < last → ∃ result, answers round = .ok result ∧ 0 ≤ result) ∧
    (∀ round, last ≤ round → answers round = .ok 0) ∧ carried answers last < total

/-- Every answer counts something, and at most what was asked for. -/
def Advances (total limit : Nat) (answers : Nat → Except ε Int) : Prop :=
  ∀ round, carried answers round < total → ∃ result, answers round = .ok result ∧
    1 ≤ result ∧ result ≤ request total limit (carried answers round)

theorem carried_succ (answers : Nat → Except ε Int) (rounds : Nat) :
    carried answers (rounds + 1) = carried answers rounds + counted (answers rounds) :=
  Finset.sum_range_succ _ _

theorem carried_mono (answers : Nat → Except ε Int) : Monotone (carried answers) := by
  apply monotone_nat_of_le_succ
  intro rounds
  rw [carried_succ]
  exact Nat.le_add_right _ _

/-! ### When the loop ends -/

section Ending

variable {total limit : Nat} {move : Nat → Nat → Nat → σ → σ} {refused : Nat → Int → ε}
  {answers : Nat → Except ε Int}

/-- No answer ends the loop, and the total is never reached. -/
def Unending (total : Nat) (answers : Nat → Except ε Int) : Prop :=
  ∀ round, (∃ result, answers round = .ok result ∧ 0 ≤ result) ∧ carried answers round < total

theorem unending_iff_stalls : Unending total answers ↔ Stalls total answers := by
  constructor
  · intro unending
    let level : ℕ →o Fin total :=
      { toFun := fun round => ⟨carried answers round, (unending round).2⟩
        monotone' := fun _ _ order => carried_mono answers order }
    obtain ⟨last, constant⟩ := WellFoundedGT.monotone_chain_condition level
    refine ⟨last, fun round _ => (unending round).1, ?_, (unending last).2⟩
    intro round later
    have here : carried answers last = carried answers round :=
      congrArg Fin.val (constant round later)
    have next : carried answers last = carried answers (round + 1) :=
      congrArg Fin.val (constant (round + 1) (Nat.le_succ_of_le later))
    obtain ⟨result, answered, nonneg⟩ := (unending round).1
    rw [carried_succ, ← here, answered] at next
    have nothing : result.toNat = 0 := by
      rw [counted] at next
      omega
    have zero : result = 0 := by omega
    rw [answered, zero]
  · rintro ⟨last, early, late, short⟩ round
    constructor
    · by_cases before : round < last
      · exact early round before
      · exact ⟨0, late round (Nat.le_of_not_lt before), Int.le_refl 0⟩
    · rcases Nat.le_total round last with before | after
      · exact Nat.lt_of_le_of_lt (carried_mono answers before) short
      · induction round, after using Nat.le_induction with
        | base => exact short
        | succ round later ih =>
            rw [carried_succ, late round later]
            exact ih

theorem exchange_eq_ok {progress next : Progress σ}
    (exchanged : exchange total limit move refused answers progress = .ok next) :
    ∃ result, answers progress.submitted.length = .ok result ∧ 0 ≤ result ∧
      next =
        { offset := progress.offset + result.toNat
          target := move progress.submitted.length progress.offset result.toNat progress.target
          submitted := progress.submitted ++
            [(progress.offset, request total limit progress.offset)] } := by
  unfold exchange at exchanged
  cases answered : answers progress.submitted.length with
  | error cause =>
      rw [answered] at exchanged
      cases exchanged
  | ok result =>
      rw [answered] at exchanged
      dsimp only at exchanged
      split at exchanged
      · cases exchanged
      · rename_i nonneg
        cases exchanged
        exact ⟨result, rfl, Int.not_lt.mp nonneg, rfl⟩

theorem exchange_of_answer {progress : Progress σ} {result : Int}
    (answered : answers progress.submitted.length = .ok result) (nonneg : 0 ≤ result) :
    exchange total limit move refused answers progress =
      .ok
        { offset := progress.offset + result.toNat
          target := move progress.submitted.length progress.offset result.toNat progress.target
          submitted := progress.submitted ++
            [(progress.offset, request total limit progress.offset)] } := by
  rw [exchange, answered]
  exact if_neg (Int.not_lt.mpr nonneg)

theorem offset_of_exchange {progress next : Progress σ}
    (exchanged : exchange total limit move refused answers progress = .ok next)
    (tracks : progress.offset = carried answers progress.submitted.length) :
    next.submitted.length = progress.submitted.length + 1 ∧
      next.offset = carried answers next.submitted.length := by
  obtain ⟨result, answered, _, rfl⟩ := exchange_eq_ok exchanged
  dsimp only
  rw [List.length_append, List.length_singleton, carried_succ, answered, tracks, counted]
  exact ⟨rfl, rfl⟩

theorem loop_eq_none_of_unending (unending : Unending total answers) (rounds : Nat)
    {progress : Progress σ}
    (tracks : progress.offset = carried answers progress.submitted.length) :
    loop total limit move refused answers rounds progress = none := by
  have below : progress.offset < total := by
    rw [tracks]
    exact (unending progress.submitted.length).2
  induction rounds generalizing progress with
  | zero => exact if_pos below
  | succ rounds ih =>
      obtain ⟨result, answered, nonneg⟩ := (unending progress.submitted.length).1
      have exchanged : exchange total limit move refused answers progress = .ok _ :=
        exchange_of_answer answered nonneg
      have nextTracks := (offset_of_exchange exchanged tracks).2
      rw [loop, if_pos below, exchanged]
      refine ih nextTracks ?_
      rw [nextTracks]
      exact (unending _).2

/-- The rounds of a loop that still runs: each had an answer that ends nothing. -/
theorem unended_of_loop_eq_none (rounds : Nat) {progress : Progress σ}
    (tracks : progress.offset = carried answers progress.submitted.length)
    (runs : loop total limit move refused answers rounds progress = none) (round : Nat)
    (later : progress.submitted.length ≤ round)
    (before : round < progress.submitted.length + rounds) :
    (∃ result, answers round = .ok result ∧ 0 ≤ result) ∧ carried answers round < total := by
  induction rounds generalizing progress with
  | zero => omega
  | succ rounds ih =>
      rw [loop] at runs
      split at runs
      · rename_i below
        cases exchanged : exchange total limit move refused answers progress with
        | error cause =>
            rw [exchanged] at runs
            cases runs
        | ok next =>
            rw [exchanged] at runs
            obtain ⟨longer, nextTracks⟩ := offset_of_exchange exchanged tracks
            rcases Nat.eq_or_lt_of_le later with here | after
            · obtain ⟨result, answered, nonneg, _⟩ := exchange_eq_ok exchanged
              rw [← here]
              refine ⟨⟨result, answered, nonneg⟩, ?_⟩
              rw [← tracks]
              exact below
            · exact ih nextTracks runs (by omega) (by omega)
      · cases runs

theorem loop_of_le {rounds more : Nat} (fewer : rounds ≤ more) {progress : Progress σ}
    {ended : Except ε (Progress σ)}
    (ends : loop total limit move refused answers rounds progress = some ended) :
    loop total limit move refused answers more progress = some ended := by
  induction rounds generalizing progress more with
  | zero =>
      rw [loop] at ends
      split at ends
      · cases ends
      · rename_i reached
        cases more with
        | zero => rw [loop, if_neg reached, ends]
        | succ more => rw [loop, if_neg reached, ends]
  | succ rounds ih =>
      obtain ⟨more, rfl⟩ := Nat.exists_eq_add_one_of_ne_zero (Nat.ne_zero_of_lt fewer)
      rw [loop] at ends ⊢
      split at ends
      · rename_i below
        rw [if_pos below]
        cases exchanged : exchange total limit move refused answers progress with
        | error cause =>
            rw [exchanged] at ends
            exact ends
        | ok next =>
            rw [exchanged] at ends
            exact ih (Nat.le_of_succ_le_succ fewer) ends
      · rename_i reached
        rw [if_neg reached]
        exact ends

theorem loop_ends_iff {target : σ} :
    (∃ rounds ended, loop total limit move refused answers rounds
        { offset := 0, target := target, submitted := [] } = some ended) ↔
      ¬ Stalls total answers := by
  rw [← unending_iff_stalls]
  constructor
  · rintro ⟨rounds, ended, ends⟩ unending
    rw [loop_eq_none_of_unending unending rounds rfl] at ends
    cases ends
  · intro notUnending
    by_contra never
    apply notUnending
    intro round
    have runs : loop total limit move refused answers (round + 1)
        { offset := 0, target := target, submitted := [] } = none := by
      apply Option.eq_none_iff_forall_not_mem.mpr
      intro ended ends
      exact never ⟨round + 1, ended, ends⟩
    exact unended_of_loop_eq_none (round + 1) rfl runs round (Nat.zero_le round)
      (by rw [List.length_nil]; omega)

end Ending

/-! ### Answers that advance -/

section Advancing

variable {total limit : Nat} {move : Nat → Nat → Nat → σ → σ} {refused : Nat → Int → ε}
  {answers : Nat → Except ε Int} {Holds : Nat → σ → Prop}

/-- A transfer whose ranges follow each other from the start, with a property of
what was moved up to the offset. -/
structure Tracked (total limit : Nat) (answers : Nat → Except ε Int) (Holds : Nat → σ → Prop)
    (progress : Progress σ) : Prop where
  offset : progress.offset = carried answers progress.submitted.length
  within : progress.offset ≤ total
  rounds : progress.submitted.length ≤ progress.offset
  ranges : progress.submitted = (List.range progress.submitted.length).map fun round =>
    (carried answers round, request total limit (carried answers round))
  holds : Holds progress.offset progress.target

theorem Tracked.range_eq {progress : Progress σ}
    (tracked : Tracked total limit answers Holds progress) {round : Nat} {range : Nat × Nat}
    (found : progress.submitted[round]? = some range) :
    range = (carried answers round, request total limit (carried answers round)) ∧
      carried answers round ≤ total := by
  obtain ⟨inside, _⟩ := List.getElem?_eq_some_iff.mp found
  constructor
  · rw [tracked.ranges, List.getElem?_map, List.getElem?_range inside] at found
    exact (Option.some.inj found).symm
  · have within := tracked.within
    rw [tracked.offset] at within
    exact Nat.le_trans (carried_mono answers (Nat.le_of_lt inside)) within

theorem Tracked.exchange (advances : Advances total limit answers)
    (moves : ∀ round offset count target, offset + count ≤ total → Holds offset target →
      Holds (offset + count) (move round offset count target))
    {progress : Progress σ} (tracked : Tracked total limit answers Holds progress)
    (below : progress.offset < total) :
    ∃ next, exchange total limit move refused answers progress = .ok next ∧
      Tracked total limit answers Holds next ∧ progress.offset < next.offset := by
  obtain ⟨offset, within, rounds, ranges, holds⟩ := tracked
  obtain ⟨result, answered, positive, most⟩ := advances progress.submitted.length (by
    rw [← offset]
    exact below)
  rw [← offset, request] at most
  have exchanged : ResumedTransfer.exchange total limit move refused answers progress = .ok _ :=
    exchange_of_answer answered (by omega)
  obtain ⟨longer, nextOffset⟩ := offset_of_exchange exchanged offset
  refine ⟨_, exchanged, ⟨nextOffset, ?_, ?_, ?_, ?_⟩, ?_⟩
  · dsimp only
    omega
  · rw [longer]
    dsimp only
    omega
  · rw [longer, List.range_succ, List.map_append, ← ranges, List.map_singleton, ← offset]
  · exact moves _ _ _ _ (by omega) holds
  · dsimp only
    omega

/-- Answers that advance end the loop within one round for each item, with
everything moved. -/
theorem Tracked.loop (advances : Advances total limit answers)
    (moves : ∀ round offset count target, offset + count ≤ total → Holds offset target →
      Holds (offset + count) (move round offset count target))
    (rounds : Nat) {progress : Progress σ}
    (tracked : Tracked total limit answers Holds progress)
    (enough : total ≤ progress.offset + rounds) :
    ∃ final, loop total limit move refused answers rounds progress = some (.ok final) ∧
      Tracked total limit answers Holds final ∧ final.offset = total := by
  induction rounds generalizing progress with
  | zero =>
      have done : ¬ progress.offset < total := by omega
      exact ⟨progress, if_neg done, tracked, Nat.le_antisymm tracked.within (by omega)⟩
  | succ rounds ih =>
      rw [ResumedTransfer.loop]
      by_cases below : progress.offset < total
      · obtain ⟨next, exchanged, nextTracked, further⟩ := tracked.exchange advances moves below
        rw [if_pos below, exchanged]
        exact ih nextTracked (by omega)
      · rw [if_neg below]
        exact ⟨progress, rfl, tracked, Nat.le_antisymm tracked.within (Nat.le_of_not_lt below)⟩

end Advancing

/-! ### Copying a piece -/

section Copying

variable {α : Type}

/-- Items put over a list from an offset on; a gap before them is filled up. -/
def overwrite (filler : α) (target : List α) (offset : Nat) (items : List α) : List α :=
  target.take offset ++ List.replicate (offset - target.length) filler ++ items ++
    target.drop (offset + items.length)

/-- The next piece put behind a beginning makes it longer. -/
theorem overwrite_take_append (filler : α) (content rest : List α) {offset count : Nat}
    (inside : offset + count ≤ content.length) :
    overwrite filler (content.take offset ++ rest) offset ((content.drop offset).take count) =
      content.take (offset + count) ++ rest.drop count := by
  have before : (content.take offset).length = offset := by
    rw [List.length_take]
    omega
  have piece : ((content.drop offset).take count).length = count := by
    rw [List.length_take, List.length_drop]
    omega
  have noGap : offset - (content.take offset ++ rest).length = 0 := by
    rw [List.length_append, before]
    omega
  have remainder : (content.take offset ++ rest).drop (offset + count) = rest.drop count := by
    rw [List.drop_append, before, List.drop_eq_nil_of_le (by omega), Nat.add_sub_cancel_left,
      List.nil_append]
  rw [overwrite, piece, noGap, List.take_left' before, List.replicate_zero, List.append_nil,
    remainder, List.take_add]

end Copying

end ResumedTransfer

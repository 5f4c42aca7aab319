/-
Asking one after the other until one answers.

The questions share a state that each of them moves.  Where an answer depends
only on how many questions were asked before, the search is a search over these
numbers: it stops at the first number with an answer, and the state has seen the
questions up to there.
-/

import Udpix.Library.Unwinding

universe u v w

namespace FirstAnswer

open Simulation

variable {σ : Type u} {α : Type v} {β : Type w}

def search (ask : σ → α → σ × Option β) : σ → List α → σ × Option β
  | state, [] => (state, none)
  | state, question :: rest =>
      match ask state question with
      | (next, some found) => (next, some found)
      | (next, none) => search ask next rest

/-- The first answer of `count` questions, the first of which has the number
`place`. -/
def answer (answerAt : Nat → Option β) : Nat → Nat → Option β
  | _, 0 => none
  | place, count + 1 =>
      match answerAt place with
      | some found => some found
      | none => answer answerAt (place + 1) count

def asked (answerAt : Nat → Option β) : Nat → Nat → Nat
  | _, 0 => 0
  | place, count + 1 =>
      match answerAt place with
      | some _ => 1
      | none => asked answerAt (place + 1) count + 1

variable {answerAt : Nat → Option β}

theorem asked_le (place count : Nat) : asked answerAt place count ≤ count := by
  induction count generalizing place with
  | zero => exact Nat.le_refl 0
  | succ count ih =>
      rw [asked]
      cases answerAt place with
      | some found => exact Nat.succ_le_succ (Nat.zero_le count)
      | none => exact Nat.succ_le_succ (ih (place + 1))

theorem answer_isSome_iff (place count : Nat) :
    (answer answerAt place count).isSome = true ↔
      ∃ number, place ≤ number ∧ number < place + count ∧
        (answerAt number).isSome = true := by
  induction count generalizing place with
  | zero =>
      refine iff_of_false Bool.false_ne_true ?_
      intro given
      obtain ⟨number, start, before, _⟩ := given
      omega
  | succ count ih =>
      rw [answer]
      cases first : answerAt place with
      | some found =>
          refine iff_of_true rfl ⟨place, Nat.le_refl place, by omega, ?_⟩
          rw [first]
          rfl
      | none =>
          dsimp only
          rw [ih (place + 1)]
          constructor
          · intro given
            obtain ⟨number, start, before, answered⟩ := given
            exact ⟨number, by omega, by omega, answered⟩
          · intro given
            obtain ⟨number, start, before, answered⟩ := given
            have other : number ≠ place := by
              intro same
              rw [same, first] at answered
              cases answered
            exact ⟨number, by omega, by omega, answered⟩

theorem answer_isSome_iff_asked (place count : Nat) :
    (answer answerAt place count).isSome = true ↔
      ∃ number, place ≤ number ∧ number < place + asked answerAt place count ∧
        (answerAt number).isSome = true := by
  constructor
  · induction count generalizing place with
    | zero =>
        intro impossible
        cases impossible
    | succ count ih =>
        rw [answer, asked]
        cases first : answerAt place with
        | some found =>
            intro _
            refine ⟨place, Nat.le_refl place, Nat.lt_succ_self place, ?_⟩
            rw [first]
            rfl
        | none =>
            intro later
            obtain ⟨number, start, before, answered⟩ := ih (place + 1) later
            refine ⟨number, Nat.le_of_succ_le start, ?_, answered⟩
            dsimp only
            omega
  · intro given
    obtain ⟨number, start, before, answered⟩ := given
    have few : asked answerAt place count ≤ count := asked_le place count
    exact (answer_isSome_iff place count).mpr ⟨number, start, by omega, answered⟩

theorem final_append (ask : σ → α → σ × Option β) (state : σ) (first second : List α) :
    final ask state (first ++ second) = final ask (final ask state first) second :=
  List.foldl_append

theorem search_eq {ask : σ → α → σ × Option β} {Reached : Nat → σ → Prop}
    (counts : ∀ place state question, Reached place state →
      (ask state question).2 = answerAt place ∧ Reached (place + 1) (ask state question).1)
    {place : Nat} {state : σ} (reached : Reached place state) (questions : List α) :
    search ask state questions =
      (final ask state (questions.take (asked answerAt place questions.length)),
        answer answerAt place questions.length) := by
  induction questions generalizing place state with
  | nil => rfl
  | cons question rest ih =>
      obtain ⟨answers, next⟩ := counts place state question reached
      rw [search, List.length_cons, asked, answer, ← answers]
      rcases isAsked : ask state question with ⟨after, _ | found⟩
      · rw [isAsked] at next
        dsimp only
        rw [ih next, List.take_succ_cons, final, final, List.foldl_cons, isAsked]
      · dsimp only
        rw [List.take_succ_cons, List.take_zero, final, List.foldl_cons, List.foldl_nil, isAsked]

theorem reached_final {ask : σ → α → σ × Option β} {Reached : Nat → σ → Prop}
    (counts : ∀ place state question, Reached place state →
      Reached (place + 1) (ask state question).1)
    {place : Nat} {state : σ} (reached : Reached place state) (questions : List α) :
    Reached (place + questions.length) (final ask state questions) := by
  induction questions generalizing place state with
  | nil => exact reached
  | cons question rest ih =>
      have later := ih (counts place state question reached)
      rw [List.length_cons, Nat.add_comm rest.length, ← Nat.add_assoc]
      exact later

end FirstAnswer

/-
Channels of bounded capacity between two parties.

A send waits while the channel is full and a receive waits while it is empty;
both are partial here, and a party that waits has no step.  A system in which
every step does some of a finite amount of work runs until nothing can move.
-/

import Mathlib.Logic.Relation

universe u

structure BoundedChannel (capacity : Nat) (α : Type u) where
  items : List α
  bounded : items.length ≤ capacity

namespace BoundedChannel

variable {capacity : Nat} {α : Type u}

def empty : BoundedChannel capacity α where
  items := []
  bounded := Nat.zero_le _

def send (channel : BoundedChannel capacity α) (item : α) :
    Option (BoundedChannel capacity α) :=
  if room : channel.items.length < capacity then
    some
      { items := channel.items ++ [item]
        bounded := by
          rw [List.length_append, List.length_singleton]
          exact room }
  else none

def recv (channel : BoundedChannel capacity α) : Option (α × BoundedChannel capacity α) :=
  match held : channel.items with
  | [] => none
  | item :: rest =>
      some (item,
        { items := rest
          bounded := by
            have fits := channel.bounded
            rw [held, List.length_cons] at fits
            omega })

theorem items_of_send {channel next : BoundedChannel capacity α} {item : α}
    (sent : channel.send item = some next) : next.items = channel.items ++ [item] := by
  unfold send at sent
  split at sent
  · cases sent
    rfl
  · cases sent

theorem full_of_send_eq_none {channel : BoundedChannel capacity α} {item : α}
    (waits : channel.send item = none) : channel.items.length = capacity := by
  unfold send at waits
  split at waits
  · cases waits
  · have fits := channel.bounded
    omega

theorem items_of_recv {channel next : BoundedChannel capacity α} {item : α}
    (received : channel.recv = some (item, next)) : channel.items = item :: next.items := by
  unfold recv at received
  split at received
  · cases received
  · cases received
    assumption

theorem items_of_recv_eq_none {channel : BoundedChannel capacity α}
    (waits : channel.recv = none) : channel.items = [] := by
  unfold recv at waits
  split at waits
  · assumption
  · cases waits

end BoundedChannel

/-- Where every state that can move has a step that keeps `Holds` and leaves
less work, a state that cannot move is reachable. -/
theorem exists_stuck_of_work {σ : Type u} {Step : σ → σ → Prop} {Holds Stuck : σ → Prop}
    (work : σ → Nat)
    (moves : ∀ state, Holds state →
      Stuck state ∨ ∃ next, Step state next ∧ Holds next ∧ work next < work state)
    (state : σ) (holds : Holds state) :
    ∃ final, Relation.ReflTransGen Step state final ∧ Stuck final := by
  have within : ∀ bound origin, Holds origin → work origin ≤ bound →
      ∃ final, Relation.ReflTransGen Step origin final ∧ Stuck final := by
    intro bound
    induction bound with
    | zero =>
        intro current currentHolds spent
        rcases moves current currentHolds with stuck | ⟨next, _, _, less⟩
        · exact ⟨current, Relation.ReflTransGen.refl, stuck⟩
        · omega
    | succ bound ih =>
        intro current currentHolds affordable
        rcases moves current currentHolds with stuck | ⟨next, step, nextHolds, less⟩
        · exact ⟨current, Relation.ReflTransGen.refl, stuck⟩
        · obtain ⟨final, run, stuck⟩ := ih next nextHolds (by omega)
          exact ⟨final, Relation.ReflTransGen.head step run, stuck⟩
  exact within (work state) state holds (Nat.le_refl _)

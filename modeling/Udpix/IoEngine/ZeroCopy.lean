/-
Copying between two descriptors through a pipe inside the kernel.

Each round splices what it can of the source into the pipe and then drains the
pipe into the destination, by as many calls as that takes.  What the kernel
answers is an argument: a number of bytes, of which it moves no more than were
asked for and are there, or a number that is not positive.  The loops are given
as many rounds as there are bytes to move.
-/

import Udpix.Protocol.Packet

namespace Udpix.IoEngine

open Protocol

/-- The three places a byte can be in, and what the call keeps. -/
structure SpliceState where
  source : Bytes
  pipe : Bytes
  dest : Bytes
  total : Nat
  calls : Nat
  pipeOpen : Bool

/-- `splice(2)` between two of the places: what stays, what arrives, and the
result. -/
def splice (answer : Int) (requested : Nat) (input output : Bytes) : Bytes × Bytes × Int :=
  if answer < 0 then (input, output, answer)
  else
    let count := min answer.toNat (min requested input.length)
    (input.drop count, output ++ input.take count, count)

namespace SpliceState

def spliceIn (answers : Nat → Int) (requested : Nat) (state : SpliceState) :
    SpliceState × Int :=
  let (source, pipe, result) := splice (answers state.calls) requested state.source state.pipe
  ({ state with source := source, pipe := pipe, calls := state.calls + 1 }, result)

def spliceOut (answers : Nat → Int) (requested : Nat) (state : SpliceState) :
    SpliceState × Int :=
  let (pipe, dest, result) := splice (answers state.calls) requested state.pipe state.dest
  ({ state with pipe := pipe, dest := dest, calls := state.calls + 1 }, result)

def closePipe (state : SpliceState) : SpliceState := { state with pipeOpen := false }

/-- The inner loop, and whether it emptied the pipe. -/
def drain (answers : Nat → Int) : Nat → Nat → SpliceState → Option (SpliceState × Bool)
  | _, 0, state => some (state, true)
  | 0, _ + 1, _ => none
  | rounds + 1, toDrain + 1, state =>
      let (next, splicedOut) := spliceOut answers (toDrain + 1) state
      if splicedOut ≤ 0 then some (next.closePipe, false)
      else
        drain answers rounds (toDrain + 1 - splicedOut.toNat)
          { next with total := next.total + splicedOut.toNat }

/-- The outer loop.  The error is the one of the operating system. -/
def copyLoop (answers : Nat → Int) :
    Nat → Nat → SpliceState → Option (SpliceState × Except Unit Nat)
  | _, 0, state => some (state.closePipe, .ok state.total)
  | 0, _ + 1, _ => none
  | rounds + 1, remaining + 1, state =>
      let (filled, splicedIn) := spliceIn answers (remaining + 1) state
      if splicedIn ≤ 0 then some (filled.closePipe, .ok filled.total)
      else
        match drain answers splicedIn.toNat splicedIn.toNat filled with
        | none => none
        | some (next, false) => some (next, .error ())
        | some (next, true) =>
            copyLoop answers rounds (remaining + 1 - splicedIn.toNat) next

end SpliceState

open SpliceState

/-- `pipes` says whether the pipe could be made. -/
def spliceCopy (pipes : Bool) (answers : Nat → Int) (len : Nat) (source dest : Bytes) :
    Option (SpliceState × Except Unit Nat) :=
  let state : SpliceState :=
    { source := source, pipe := [], dest := dest, total := 0, calls := 0, pipeOpen := pipes }
  if pipes then copyLoop answers len len state else some (state, .error ())

/-! ### One call -/

theorem splice_cases (answer : Int) (requested : Nat) (input output : Bytes) :
    (∃ result, result ≤ 0 ∧ (answer ≤ 0 ∨ requested = 0 ∨ input = []) ∧
      splice answer requested input output = (input, output, result)) ∨
    ∃ count : Nat, 0 < count ∧ count ≤ requested ∧ count ≤ input.length ∧
      splice answer requested input output =
        (input.drop count, output ++ input.take count, (count : Int)) := by
  unfold splice
  dsimp only
  split
  · rename_i refused
    exact .inl ⟨answer, Int.le_of_lt refused, .inl (Int.le_of_lt refused), rfl⟩
  · rcases Nat.eq_zero_or_pos (min answer.toNat (min requested input.length)) with nothing | moves
    · rw [nothing]
      refine .inl ⟨0, Int.le_refl 0, ?_, ?_⟩
      · have lengths : input.length = 0 ↔ input = [] := List.length_eq_zero_iff
        rw [← lengths]
        omega
      · rw [List.drop_zero, List.take_zero, List.append_nil]
        rfl
    · exact .inr ⟨_, moves, by omega, by omega, rfl⟩

/-! ### Every byte is in one place -/

/-- The bytes that were there are where they were or further on, in order. -/
structure Flows (source dest : Bytes) (state : SpliceState) : Prop where
  bytes : state.dest ++ (state.pipe ++ state.source) = dest ++ source
  counted : state.dest.length = dest.length + state.total

section Flows

variable {source dest : Bytes} {state : SpliceState} {answers : Nat → Int}

theorem Flows.split (flows : Flows source dest state) :
    state.dest = dest ++ source.take state.total ∧
      state.pipe ++ state.source = source.drop state.total := by
  have written := congrArg (List.take state.dest.length) flows.bytes
  have rest := congrArg (List.drop state.dest.length) flows.bytes
  rw [List.take_left, flows.counted, List.take_length_add_append] at written
  rw [List.drop_left, flows.counted, List.drop_length_add_append] at rest
  exact ⟨written, rest⟩

theorem Flows.fill (flows : Flows source dest state) (count calls : Nat) :
    Flows source dest
      { state with
        source := state.source.drop count
        pipe := state.pipe ++ state.source.take count
        calls := calls } where
  bytes := by
    rw [← flows.bytes, List.append_assoc, List.take_append_drop]
  counted := flows.counted

theorem Flows.empty (flows : Flows source dest state) {count : Nat}
    (there : count ≤ state.pipe.length) (calls : Nat) :
    Flows source dest
      { state with
        pipe := state.pipe.drop count
        dest := state.dest ++ state.pipe.take count
        total := state.total + count
        calls := calls } where
  bytes := by
    rw [← flows.bytes, List.append_assoc, ← List.append_assoc (state.pipe.take count),
      List.take_append_drop]
  counted := by
    rw [List.length_append, flows.counted, List.length_take_of_le there, Nat.add_assoc]

structure Drained (source dest : Bytes) (state final : SpliceState) (toDrain : Nat)
    (answers : Nat → Int) (drained : Bool) : Prop where
  flows : Flows source dest final
  untouched : final.source = state.source
  sum : final.total + final.pipe.length = state.total + toDrain
  emptied : drained = true → final.pipe = [] ∧ final.pipeOpen = state.pipeOpen
  stopped : drained = false →
    final.pipe ≠ [] ∧ final.pipeOpen = false ∧ ∃ call < final.calls, answers call ≤ 0

theorem drained_zero (flows : Flows source dest state) (held : state.pipe.length = 0) :
    Drained source dest state state 0 answers true where
  flows := flows
  untouched := rfl
  sum := by rw [held]
  emptied := fun _ => ⟨List.length_eq_zero_iff.mp held, rfl⟩
  stopped := fun impossible => nomatch impossible

theorem drain_spec (answers : Nat → Int) {rounds toDrain : Nat} (enough : toDrain ≤ rounds)
    (held : state.pipe.length = toDrain) (flows : Flows source dest state) :
    ∃ final drained, drain answers rounds toDrain state = some (final, drained) ∧
      Drained source dest state final toDrain answers drained := by
  induction rounds generalizing toDrain state with
  | zero =>
      have nothing : toDrain = 0 := Nat.le_zero.mp enough
      subst nothing
      exact ⟨state, true, by rw [drain], drained_zero flows held⟩
  | succ rounds ih =>
      cases toDrain with
      | zero => exact ⟨state, true, by rw [drain], drained_zero flows held⟩
      | succ toDrain =>
          have present : state.pipe ≠ [] := by
            intro absent
            rw [absent] at held
            cases held
          rw [drain, spliceOut]
          rcases splice_cases (answers state.calls) (toDrain + 1) state.pipe state.dest with
            ⟨result, refused, reason, same⟩ | ⟨count, moves, asked, there, same⟩
          · rw [same]
            dsimp only
            rw [if_pos refused]
            refine ⟨_, false, rfl, ⟨flows.bytes, flows.counted⟩, rfl, ?_,
              fun impossible => (nomatch impossible), ?_⟩
            · dsimp only [closePipe]
              rw [held]
            · intro _
              refine ⟨present, rfl, state.calls, Nat.lt_succ_self _, ?_⟩
              rcases reason with unwilling | unasked | absent
              · exact unwilling
              · cases unasked
              · exact absurd absent present
          · have positive : ¬ (count : Int) ≤ 0 := by omega
            rw [same]
            dsimp only
            rw [if_neg positive, Int.toNat_natCast]
            have shorter : toDrain + 1 - count ≤ rounds := by omega
            have left : (state.pipe.drop count).length = toDrain + 1 - count := by
              rw [List.length_drop, held]
            obtain ⟨final, drained, ends, spec⟩ :=
              ih shorter left (flows.empty there (state.calls + 1))
            refine ⟨final, drained, ends, spec.flows, spec.untouched, ?_, spec.emptied,
              spec.stopped⟩
            rw [spec.sum]
            dsimp only
            omega

structure Copied (source dest : Bytes) (state final : SpliceState) (remaining : Nat)
    (answers : Nat → Int) (result : Except Unit Nat) : Prop where
  flows : Flows source dest final
  closed : final.pipeOpen = false
  bound : final.total + final.pipe.length ≤ state.total + remaining
  succeeded : ∀ total, result = .ok total → total = final.total ∧ final.pipe = [] ∧
    (final.total < state.total + remaining →
      final.source = [] ∨ ∃ call < final.calls, answers call ≤ 0)
  failed : ∀ reason, result = .error reason →
    final.pipe ≠ [] ∧ ∃ call < final.calls, answers call ≤ 0

theorem copied_zero (empty : state.pipe = []) (flows : Flows source dest state) :
    Copied source dest state state.closePipe 0 answers (.ok state.total) where
  flows := ⟨flows.bytes, flows.counted⟩
  closed := rfl
  bound := by
    dsimp only [closePipe]
    rw [empty, List.length_nil]
  succeeded := by
    intro total same
    cases same
    exact ⟨rfl, empty, fun short => absurd short (Nat.lt_irrefl _)⟩
  failed := by
    intro reason impossible
    cases impossible

theorem copyLoop_spec (answers : Nat → Int) {rounds remaining : Nat}
    (enough : remaining ≤ rounds)
    (empty : state.pipe = []) (flows : Flows source dest state) :
    ∃ final result, copyLoop answers rounds remaining state = some (final, result) ∧
      Copied source dest state final remaining answers result := by
  induction rounds generalizing remaining state with
  | zero =>
      have nothing : remaining = 0 := Nat.le_zero.mp enough
      subst nothing
      exact ⟨_, _, by rw [copyLoop], copied_zero empty flows⟩
  | succ rounds ih =>
      cases remaining with
      | zero => exact ⟨_, _, by rw [copyLoop], copied_zero empty flows⟩
      | succ remaining =>
          rw [copyLoop, spliceIn]
          rcases splice_cases (answers state.calls) (remaining + 1) state.source state.pipe with
            ⟨result, refused, reason, same⟩ | ⟨count, moves, asked, there, same⟩
          · rw [same]
            dsimp only
            rw [if_pos refused]
            refine ⟨_, _, rfl, ⟨flows.bytes, flows.counted⟩, rfl, ?_, ?_, ?_⟩
            · dsimp only [closePipe]
              rw [empty, List.length_nil]
              omega
            · intro total isTotal
              cases isTotal
              refine ⟨rfl, empty, fun _ => ?_⟩
              rcases reason with unwilling | unasked | exhausted
              · exact .inr ⟨state.calls, Nat.lt_succ_self _, unwilling⟩
              · cases unasked
              · exact .inl exhausted
            · intro other impossible
              cases impossible
          · have positive : ¬ (count : Int) ≤ 0 := by omega
            rw [same]
            dsimp only
            rw [if_neg positive, Int.toNat_natCast]
            have held : (state.pipe ++ state.source.take count).length = count := by
              rw [empty, List.nil_append, List.length_take_of_le there]
            obtain ⟨next, drained, ends, spec⟩ :=
              drain_spec answers (Nat.le_refl count) held (flows.fill count (state.calls + 1))
            have sum := spec.sum
            dsimp only at sum
            rw [ends]
            cases drained with
            | false =>
                obtain ⟨left, closed, unwilling⟩ := spec.stopped rfl
                refine ⟨next, .error (), rfl, spec.flows, closed, by omega, ?_, ?_⟩
                · intro total impossible
                  cases impossible
                · intro reason _
                  exact ⟨left, unwilling⟩
            | true =>
                have emptied := (spec.emptied rfl).1
                have shorter : remaining + 1 - count ≤ rounds := by omega
                obtain ⟨final, result, loops, copied⟩ := ih shorter emptied spec.flows
                have bound := copied.bound
                rw [emptied, List.length_nil] at sum
                refine ⟨final, result, loops, copied.flows, copied.closed, by omega, ?_,
                  copied.failed⟩
                intro total isTotal
                obtain ⟨same, nothing, short⟩ := copied.succeeded total isTotal
                exact ⟨same, nothing, fun less => short (by omega)⟩

theorem Flows.total_le (flows : Flows source dest state) : state.total ≤ source.length := by
  have counted := flows.counted
  rw [flows.split.1, List.length_append, List.length_take] at counted
  omega

end Flows

/-- Whatever the kernel answers, the copy ends within its rounds and closes the
pipe.  A beginning of the source is at the end of the destination, and the rest
is still in the source, less what an error left in the pipe.  A copy that
returns a count has lost nothing, and is short only at the end of the source or
where the kernel refused a call that was made.  A kernel that refuses none of
them gives the whole copy. -/
theorem spliceCopy_exact (pipes : Bool) (answers : Nat → Int) (len : Nat) (source dest : Bytes) :
    ∃ final result, spliceCopy pipes answers len source dest = some (final, result) ∧
      final.pipeOpen = false ∧
      final.total ≤ source.length ∧
      final.dest = dest ++ source.take final.total ∧
      final.pipe ++ final.source = source.drop final.total ∧
      final.total + final.pipe.length ≤ len ∧
      (∀ total, result = .ok total → total = final.total ∧ final.pipe = [] ∧
        (total < len → total = source.length ∨ ∃ call < final.calls, answers call ≤ 0)) ∧
      (∀ reason, result = .error reason →
        pipes = false ∨ (final.pipe ≠ [] ∧ ∃ call < final.calls, answers call ≤ 0)) ∧
      (pipes = true → (∀ call < final.calls, 0 < answers call) →
        result = .ok (min len source.length)) := by
  cases pipes with
  | false =>
      refine ⟨_, _, rfl, rfl, Nat.zero_le _, ?_, rfl, Nat.zero_le _, ?_, fun _ _ => .inl rfl, ?_⟩
      · rw [List.take_zero, List.append_nil]
      · intro total impossible
        cases impossible
      · intro impossible
        cases impossible
  | true =>
      have start : Flows source dest
          { source := source, pipe := [], dest := dest
            total := 0, calls := 0, pipeOpen := true } :=
        ⟨rfl, rfl⟩
      obtain ⟨final, result, loops, copied⟩ := copyLoop_spec answers (Nat.le_refl len) rfl start
      obtain ⟨written, rest⟩ := copied.flows.split
      have within := copied.flows.total_le
      have bound := copied.bound
      have exhausted : ∀ total, result = .ok total → total < len →
          total = source.length ∨ ∃ call < final.calls, answers call ≤ 0 := by
        intro total isTotal short
        obtain ⟨rfl, nothing, reason⟩ := copied.succeeded total isTotal
        rcases reason (by omega) with empty | unwilling
        · left
          have gone := congrArg List.length rest
          rw [nothing, empty, List.append_nil, List.length_nil, List.length_drop] at gone
          omega
        · exact .inr unwilling
      rw [Nat.zero_add] at bound
      refine ⟨final, result, loops, copied.closed, within, written, rest, bound, ?_,
        fun reason failed => .inr (copied.failed reason failed), ?_⟩
      · intro total isTotal
        obtain ⟨same, nothing, _⟩ := copied.succeeded total isTotal
        exact ⟨same, nothing, exhausted total isTotal⟩
      · intro _ willing
        have never : ¬ ∃ call < final.calls, answers call ≤ 0 := by
          rintro ⟨call, made, unwilling⟩
          have positive := willing call made
          omega
        cases outcome : result with
        | error reason => exact absurd (copied.failed reason outcome).2 never
        | ok total =>
            obtain ⟨same, nothing, _⟩ := copied.succeeded total outcome
            rw [nothing, List.length_nil] at bound
            have whole : total = min len source.length := by
              by_cases short : total < len
              · have all := (exhausted total outcome short).resolve_right never
                omega
              · omega
            rw [whole]

end Udpix.IoEngine

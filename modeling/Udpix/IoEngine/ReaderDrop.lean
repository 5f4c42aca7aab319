/-
Dropping a reader.

`drop` sends its shutdown over the bounded channel of the read requests, and
waits for room there; only after that do the two channel ends of the reader go
away.  From then on a result is lost when the thread sends it, and a thread that
finds no request ends.  A call may have failed before and left its requests and
results behind, and the thread reads these files pass by pass.
-/

import Udpix.IoEngine.ReaderCalls
import Udpix.IoEngine.UringLoops
import Mathlib.Data.Prod.Lex

namespace Udpix.IoEngine

open ResumedTransfer UnixPath Protocol Unwinding

/-- What a read gives once it has ended, `none` while its loop still runs. -/
def ReadOutside.bytes (outside : ReadOutside) (passes : Nat) : Option (Option Bytes) :=
  (readFileIoUring outside passes).map fun ended => ended.toOption.map Progress.target

/-- A reader that is being dropped: `readsEnded` counts the reads that ended
meanwhile, `passes` those of the present read, and `dropped` says whether the ends
of the reader are gone. -/
structure Dropping where
  reader : AsyncReader
  readsEnded : Nat
  passes : Nat
  dropped : Bool

namespace Dropping

/-- The send of `drop`, `none` while it waits.  That a thread which has ended
takes no shutdown is ignored. -/
def drop (state : Dropping) : Option Dropping :=
  if state.dropped then none
  else if state.reader.readLoop = .stopped then some { state with dropped := true }
  else
    (state.reader.requests.send .shutdown).map fun filled =>
      { state with reader := { state.reader with requests := filled }, dropped := true }

/-- A step of the thread beside it.  `reads` is what the kernel does during the
reads, in the order in which they are made. -/
def thread (reads : Nat → ReadOutside) (state : Dropping) : Option Dropping :=
  match state.reader.readLoop with
  | .reading _ =>
      match (reads state.readsEnded).bytes state.passes with
      | none => some { state with passes := state.passes + 1 }
      | some bytes =>
          (state.reader.ioUringReadLoop bytes).map fun reader =>
            { state with reader := reader, readsEnded := state.readsEnded + 1, passes := 0 }
  | .sending _ =>
      if state.dropped then
        some { state with reader := { state.reader with readLoop := .waiting } }
      else (state.reader.ioUringReadLoop none).map fun reader => { state with reader := reader }
  | .waiting =>
      if state.dropped ∧ state.reader.requests.items = [] then
        some { state with reader := { state.reader with readLoop := .stopped } }
      else (state.reader.ioUringReadLoop none).map fun reader => { state with reader := reader }
  | .stopped => none

inductive Step (reads : Nat → ReadOutside) (state : Dropping) : Dropping → Prop where
  | drop {next : Dropping} (taken : state.drop = some next) : Step reads state next
  | thread {next : Dropping} (taken : state.thread reads = some next) : Step reads state next

/-! ### What one step can do -/

variable {reads : Nat → ReadOutside} {state next : Dropping}

inductive Move (reads : Nat → ReadOutside) (state : Dropping) : Dropping → Prop where
  | findsStopped (unsent : state.dropped = false) (place : state.reader.readLoop = .stopped) :
      Move reads state { state with dropped := true }
  | shuts {filled : BoundedChannel (QUEUE_DEPTH * 2) ReadRequest}
      (unsent : state.dropped = false) (running : state.reader.readLoop ≠ .stopped)
      (sent : state.reader.requests.send .shutdown = some filled) :
      Move reads state
        { state with reader := { state.reader with requests := filled }, dropped := true }
  | loses {result : ReadResult} (gone : state.dropped = true)
      (place : state.reader.readLoop = .sending result) :
      Move reads state { state with reader := { state.reader with readLoop := .waiting } }
  | findsClosed (gone : state.dropped = true) (place : state.reader.readLoop = .waiting)
      (nothing : state.reader.requests.items = []) :
      Move reads state { state with reader := { state.reader with readLoop := .stopped } }
  | spins {path : Path} (place : state.reader.readLoop = .reading path)
      (runs : (reads state.readsEnded).bytes state.passes = none) :
      Move reads state { state with passes := state.passes + 1 }
  | loops {bytes : Option Bytes} {reader : AsyncReader} (readsEnded passes : Nat)
      (taken : state.reader.ioUringReadLoop bytes = some reader) :
      Move reads state
        { state with reader := reader, readsEnded := readsEnded, passes := passes }

theorem move_of_drop (taken : state.drop = some next) : Move reads state next := by
  unfold drop at taken
  split at taken
  · cases taken
  · rename_i here
    have unsent := Bool.eq_false_iff.mpr here
    split at taken
    · rename_i stopped
      cases taken
      exact .findsStopped unsent stopped
    · rename_i running
      obtain ⟨filled, sent, rfl⟩ := Option.map_eq_some_iff.mp taken
      exact .shuts unsent running sent

theorem move_of_thread (taken : state.thread reads = some next) : Move reads state next := by
  unfold thread at taken
  split at taken
  · rename_i path place
    split at taken
    · rename_i runs
      cases taken
      exact .spins place runs
    · obtain ⟨reader, looped, rfl⟩ := Option.map_eq_some_iff.mp taken
      exact .loops _ _ looped
  · rename_i result place
    split at taken
    · rename_i gone
      cases taken
      exact .loses gone place
    · obtain ⟨reader, looped, rfl⟩ := Option.map_eq_some_iff.mp taken
      exact .loops _ _ looped
  · rename_i place
    split at taken
    · rename_i closed
      cases taken
      exact .findsClosed closed.1 place closed.2
    · obtain ⟨reader, looped, rfl⟩ := Option.map_eq_some_iff.mp taken
      exact .loops _ _ looped
  · cases taken

theorem move_of_step (step : Step reads state next) : Move reads state next := by
  cases step with
  | drop taken => exact move_of_drop taken
  | thread taken => exact move_of_thread taken

/-! ### The steps end -/

def loopWork : ReadLoop → Nat
  | .reading _ => 3
  | .sending _ => 2
  | .waiting => 1
  | .stopped => 0

/-- The steps that are left to take, at most, when a read counts as one. -/
def work (state : Dropping) : Nat :=
  3 * state.reader.requests.items.length + loopWork state.reader.readLoop +
    if state.dropped then 0 else 4

/-- Every read comes to its end, with a file or an error. -/
def ReadsEnd (reads : Nat → ReadOutside) : Prop :=
  ∀ read, ∃ passes ended, readFileIoUring (reads read) passes = some ended

theorem work_loops {bytes : Option Bytes} {reader : AsyncReader} (readsEnded passes : Nat)
    (taken : state.reader.ioUringReadLoop bytes = some reader) :
    work { state with reader := reader, readsEnded := readsEnded, passes := passes } <
      work state := by
  unfold work
  cases AsyncReader.threadStep_of_ioUringReadLoop taken with
  | stops place received =>
      rw [place, BoundedChannel.items_of_recv received, List.length_cons]
      dsimp only [loopWork]
      omega
  | takes place received =>
      rw [place, BoundedChannel.items_of_recv received, List.length_cons]
      dsimp only [loopWork]
      omega
  | reads place =>
      rw [place]
      dsimp only [loopWork]
      omega
  | answers place sent =>
      rw [place]
      dsimp only [loopWork]
      omega

/-- A step does some of the work, or is one more pass of the present read. -/
theorem work_lt_or_spins (step : Step reads state next) :
    work next < work state ∨
      work next = work state ∧ next.readsEnded = state.readsEnded ∧
        next.passes = state.passes + 1 ∧
        readFileIoUring (reads state.readsEnded) state.passes = none := by
  cases move_of_step step with
  | findsStopped unsent place =>
      left
      unfold work
      rw [unsent, if_pos rfl, if_neg Bool.false_ne_true]
      exact Nat.lt_add_of_pos_right (by decide)
  | shuts unsent running sent =>
      left
      unfold work
      rw [unsent, if_pos rfl, if_neg Bool.false_ne_true]
      dsimp only
      rw [BoundedChannel.items_of_send sent, List.length_append, List.length_singleton]
      omega
  | loses gone place =>
      left
      unfold work
      rw [place]
      dsimp only [loopWork]
      omega
  | findsClosed gone place nothing =>
      left
      unfold work
      rw [place]
      dsimp only [loopWork]
      omega
  | spins place runs => exact .inr ⟨rfl, rfl, rfl, Option.map_eq_none_iff.mp runs⟩
  | loops readsEnded passes taken => exact .inl (work_loops readsEnded passes taken)

theorem wellFounded_step (readsEnd : ReadsEnd reads) :
    WellFounded (fun next state : Dropping => Step reads state next) := by
  choose limit ended ends using readsEnd
  let measured := fun state : Dropping =>
    toLex (work state, limit state.readsEnded - state.passes)
  refine Subrelation.wf ?_ (InvImage.wf measured wellFounded_lt)
  intro next state step
  change measured next < measured state
  rw [Prod.Lex.toLex_lt_toLex]
  rcases work_lt_or_spins step with less | ⟨same, sameRead, further, runs⟩
  · exact .inl less
  · have early : state.passes < limit state.readsEnded := by
      by_contra late
      rw [readFileIoUring_of_le (Nat.le_of_not_lt late) (ends state.readsEnded)] at runs
      cases runs
    right
    dsimp only
    rw [sameRead, further]
    exact ⟨same, by omega⟩

/-! ### Somebody can move until both are done -/

/-- Before the shutdown is sent there is room for it or soon will be; after that
it stays behind the requests that were there. -/
structure Winding (state : Dropping) : Prop where
  roomy : state.dropped = false →
    state.reader.Serving ∧ state.reader.outstanding ≤ 4 * QUEUE_DEPTH
  behind : state.dropped = true →
    (state.reader.readLoop = .stopped ∧ state.reader.requests.items = []) ∨
      (state.reader.readLoop ≠ .stopped ∧
        ∃ before, state.reader.requests.items = before ++ [.shutdown] ∧
          ∀ request, request ∈ before → ∃ path, request = .readFile path)

theorem Winding.loops (winding : Winding state) {bytes : Option Bytes} {reader : AsyncReader}
    (readsEnded passes : Nat) (taken : state.reader.ioUringReadLoop bytes = some reader) :
    Winding { state with reader := reader, readsEnded := readsEnded, passes := passes } := by
  constructor
  · intro unsent
    obtain ⟨serving, fits⟩ := winding.roomy unsent
    obtain ⟨still, same, _⟩ := serving.ioUringReadLoop taken
    exact ⟨still, by rw [same]; exact fits⟩
  · intro gone
    rcases winding.behind gone with ⟨stopped, _⟩ | ⟨_, before, held, reads⟩
    · rw [AsyncReader.ioUringReadLoop, stopped] at taken
      cases taken
    · cases AsyncReader.threadStep_of_ioUringReadLoop taken with
      | stops place received =>
          left
          have first := BoundedChannel.items_of_recv received
          rw [held] at first
          cases before with
          | nil => exact ⟨rfl, (List.cons.inj first).2.symm⟩
          | cons request rest =>
              obtain ⟨path, isRead⟩ := reads request List.mem_cons_self
              rw [isRead] at first
              cases (List.cons.inj first).1
      | takes place received =>
          right
          have first := BoundedChannel.items_of_recv received
          rw [held] at first
          cases before with
          | nil => cases (List.cons.inj first).1
          | cons request rest =>
              exact ⟨nofun, rest, (List.cons.inj first).2.symm,
                fun other member => reads other (List.mem_cons_of_mem _ member)⟩
      | reads place => exact .inr ⟨nofun, before, held, reads⟩
      | answers place sent => exact .inr ⟨nofun, before, held, reads⟩

theorem Winding.step (winding : Winding state) (step : Step reads state next) :
    Winding next := by
  cases move_of_step step with
  | findsStopped unsent place => exact absurd place (winding.roomy unsent).1.running
  | shuts unsent running sent =>
      have serving := (winding.roomy unsent).1
      exact ⟨nofun, fun _ => .inr ⟨running, _, BoundedChannel.items_of_send sent, serving.reads⟩⟩
  | loses gone place =>
      refine ⟨fun unsent => absurd (unsent.symm.trans gone) Bool.false_ne_true, fun _ => ?_⟩
      rcases winding.behind gone with ⟨stopped, _⟩ | ⟨_, before, held, reads⟩
      · rw [place] at stopped
        cases stopped
      · exact .inr ⟨nofun, before, held, reads⟩
  | findsClosed gone place nothing =>
      rcases winding.behind gone with ⟨stopped, _⟩ | ⟨_, before, held, _⟩
      · rw [place] at stopped
        cases stopped
      · rw [nothing] at held
        exact absurd held.symm (List.append_ne_nil_of_right_ne_nil _ (List.cons_ne_nil _ _))
  | spins place runs => exact ⟨winding.roomy, winding.behind⟩
  | loops readsEnded passes taken => exact winding.loops readsEnded passes taken

/-- Once the reader is gone the thread goes on until it ends. -/
theorem thread_ne_none (gone : state.dropped = true)
    (running : state.reader.readLoop ≠ .stopped) : state.thread reads ≠ none := by
  unfold thread AsyncReader.ioUringReadLoop
  rw [gone]
  cases place : state.reader.readLoop with
  | waiting =>
      dsimp only
      split
      · nofun
      · rename_i more
        cases received : state.reader.requests.recv with
        | none => exact absurd ⟨rfl, BoundedChannel.items_of_recv_eq_none received⟩ more
        | some taking =>
            obtain ⟨request, rest⟩ := taking
            cases request with
            | readFile path => nofun
            | shutdown => nofun
  | reading path =>
      dsimp only
      split
      · nofun
      · nofun
  | sending result => nofun
  | stopped => exact absurd place running

/-- A thread that cannot go on waits for a channel, never for a read. -/
theorem ioUringReadLoop_of_thread (unsent : state.dropped = false)
    (waits : state.thread reads = none) (bytes : Option Bytes) :
    state.reader.ioUringReadLoop bytes = none := by
  unfold thread at waits
  rw [unsent] at waits
  cases place : state.reader.readLoop with
  | waiting =>
      rw [place] at waits
      dsimp only at waits
      rw [if_neg (fun closed => Bool.false_ne_true closed.1)] at waits
      have loops := Option.map_eq_none_iff.mp waits
      rw [AsyncReader.ioUringReadLoop, place] at loops ⊢
      exact loops
  | reading path =>
      rw [place] at waits
      dsimp only at waits
      split at waits
      · cases waits
      · have loops := Option.map_eq_none_iff.mp waits
        rw [AsyncReader.ioUringReadLoop, place] at loops
        cases loops
  | sending result =>
      rw [place] at waits
      dsimp only at waits
      rw [if_neg Bool.false_ne_true] at waits
      have loops := Option.map_eq_none_iff.mp waits
      rw [AsyncReader.ioUringReadLoop, place] at loops ⊢
      exact loops
  | stopped => rw [AsyncReader.ioUringReadLoop, place]

/-- Where the thread waits, there is room for the shutdown. -/
theorem Winding.drop_ne_none (winding : Winding state) (unsent : state.dropped = false)
    (waits : state.thread reads = none) : state.drop ≠ none := by
  obtain ⟨serving, fits⟩ := winding.roomy unsent
  have room : state.reader.requests.send .shutdown ≠ none := by
    intro noRoom
    have full := BoundedChannel.full_of_send_eq_none noRoom
    have depth : QUEUE_DEPTH = 256 := rfl
    unfold AsyncReader.outstanding at fits
    rcases serving.waits (ioUringReadLoop_of_thread unsent waits) with
      ⟨_, nothing⟩ | ⟨hand, results⟩
    · rw [nothing] at full
      cases full
    · omega
  unfold drop
  rw [unsent, if_neg Bool.false_ne_true, if_neg serving.running]
  exact fun none => room (Option.map_eq_none_iff.mp none)

theorem Winding.ended_or_moves (winding : Winding state) (reads : Nat → ReadOutside) :
    (state.dropped = true ∧ state.reader.readLoop = .stopped ∧
      state.reader.requests.items = []) ∨ ∃ next, Step reads state next := by
  cases here : state.dropped with
  | true =>
      rcases winding.behind here with ⟨stopped, nothing⟩ | ⟨running, _⟩
      · exact .inl ⟨rfl, stopped, nothing⟩
      · obtain ⟨next, taken⟩ := Option.ne_none_iff_exists'.mp (thread_ne_none here running)
        exact .inr ⟨next, .thread taken⟩
  | false =>
      right
      cases threaded : state.thread reads with
      | none =>
          obtain ⟨next, taken⟩ :=
            Option.ne_none_iff_exists'.mp (winding.drop_ne_none here threaded)
          exact ⟨next, .drop taken⟩
      | some next => exact ⟨next, .thread threaded⟩

end Dropping

/-! ### What the calls leave behind -/

namespace Streaming

/-- A call on some files has still to take a result. -/
def Owes (n : Nat) : StreamPhase → Prop
  | .submitting _ => 0 < n
  | .receiving remaining _ _ => 0 < remaining
  | _ => False

/-- A call that has taken a result, or asked for none, leaves a place free. -/
structure Roomy (state : Streaming) : Prop where
  serving : state.reader.Serving
  counted : ∀ rest, state.phase = .submitting rest → rest.length ≤ state.n
  fits : state.reader.outstanding ≤ 4 * QUEUE_DEPTH ∨ Owes state.n state.phase

theorem Roomy.thread {state : Streaming} (roomy : state.Roomy) {bytes : Option Bytes}
    {reader : AsyncReader} (taken : state.reader.ioUringReadLoop bytes = some reader) :
    Roomy { state with reader := reader } := by
  obtain ⟨serving, same, _⟩ := roomy.serving.ioUringReadLoop taken
  refine ⟨serving, roomy.counted, ?_⟩
  dsimp only
  rw [same]
  exact roomy.fits

theorem outstanding_recv {reader : AsyncReader} {result : ReadResult}
    {rest : BoundedChannel (QUEUE_DEPTH * 2) ReadResult}
    (received : reader.results.recv = some (result, rest)) :
    AsyncReader.outstanding { reader with results := rest } ≤ 4 * QUEUE_DEPTH := by
  have most := outstanding_le reader
  have held := congrArg List.length (BoundedChannel.items_of_recv received)
  unfold AsyncReader.outstanding at most ⊢
  rw [List.length_cons] at held
  have depth : QUEUE_DEPTH = 256 := rfl
  change reader.requests.items.length + reader.inHand + rest.items.length ≤ 4 * QUEUE_DEPTH
  omega

theorem Roomy.caller {label blamed : ReadResult → Path} {state next : Streaming}
    (roomy : state.Roomy) (step : CallStep label blamed state next) : next.Roomy := by
  have fits := roomy.fits
  cases step with
  | submits phase sent =>
      have counted := roomy.counted _ phase
      rw [List.length_cons] at counted
      refine ⟨roomy.serving.send sent, ?_, .inr (Nat.lt_of_lt_of_le (Nat.succ_pos _) counted)⟩
      rintro rest ⟨⟩
      exact Nat.le_of_succ_le counted
  | turns phase =>
      rw [phase] at fits
      exact ⟨roomy.serving, nofun, fits⟩
  | receives phase received read =>
      exact ⟨⟨roomy.serving.running, roomy.serving.reads⟩, nofun, .inl (outstanding_recv received)⟩
  | fails phase received unread =>
      exact ⟨⟨roomy.serving.running, roomy.serving.reads⟩, nofun, .inl (outstanding_recv received)⟩
  | packs phase =>
      rw [phase] at fits
      exact ⟨roomy.serving, nofun, .inl (fits.resolve_right (Nat.lt_irrefl 0))⟩
  | ships phase =>
      rw [phase] at fits
      exact ⟨roomy.serving, nofun, .inl (fits.resolve_right id)⟩
  | finishes phase =>
      rw [phase] at fits
      exact ⟨roomy.serving, nofun, .inl (fits.resolve_right id)⟩
  | loses phase =>
      rw [phase] at fits
      exact ⟨roomy.serving, nofun, .inl (fits.resolve_right id)⟩
  | findsClosed phase dead => exact absurd dead roomy.serving.running
  | findsDead phase drained dead => exact absurd dead roomy.serving.running

end Streaming

namespace ReaderRun

theorem exists_caller {call : ReaderCall} {senderOpen : Bool} {state next : Streaming}
    (taken : call.callerStep senderOpen state = some next) :
    ∃ label blamed, Streaming.CallStep label blamed state next := by
  cases call with
  | streamDirectory root filePaths => exact ⟨_, _, Streaming.callStep_cases taken⟩
  | readLargeFile path => exact ⟨_, _, Streaming.callStep_cases taken⟩

theorem roomy_step {run : ReaderRun} (roomy : run.streaming.Roomy) (action : ReaderAction) :
    (run.step action).streaming.Roomy := by
  cases action with
  | caller senderOpen =>
      rw [ReaderRun.step]
      cases taken : run.call.callerStep senderOpen run.streaming with
      | none => exact roomy
      | some streaming =>
          obtain ⟨label, blamed, step⟩ := exists_caller taken
          exact roomy.caller step
  | thread bytes =>
      rw [ReaderRun.step]
      cases taken : run.streaming.reader.ioUringReadLoop bytes with
      | none => exact roomy
      | some reader => exact roomy.thread taken
  | next call =>
      rw [ReaderRun.step]
      split
      · rename_i outcome phase
        have fits := roomy.fits
        rw [phase] at fits
        refine ⟨roomy.serving, ?_, .inl (fits.resolve_right id)⟩
        rintro rest ⟨⟩
        exact Nat.le_refl _
      · exact roomy

theorem roomy_run (first : ReaderCall) (actions : List ReaderAction) :
    (actions.foldl step (start first)).streaming.Roomy := by
  induction actions using List.reverseRecOn with
  | nil =>
      refine ⟨AsyncReader.serving_new, ?_, .inl (Nat.zero_le _)⟩
      rintro rest ⟨⟩
      exact Nat.le_refl _
  | append_singleton actions action ih =>
      rw [List.foldl_append, List.foldl_cons, List.foldl_nil]
      exact roomy_step ih action

/-- The program may drop the reader when the call is over, and when it waits for
the sender. -/
def Droppable (run : ReaderRun) : Prop :=
  (∃ outcome, run.streaming.phase = .returned outcome) ∨
    ∃ blocks totalBytes, run.streaming.phase = .shipping blocks totalBytes

def startDrop (run : ReaderRun) (passes : Nat) : Dropping :=
  { reader := run.streaming.reader
    readsEnded := 0
    passes := passes
    dropped := false }

/-- After any calls, also failed ones that left requests and results behind, a
drop comes to its end whatever the schedule, as long as every read does: no run of
its steps goes on for ever, and one that cannot go on has sent the shutdown, and
the thread has taken every request and has ended.  A read that the calls left in
the middle may have made any number of passes. -/
theorem drop_completes (first : ReaderCall) (actions : List ReaderAction)
    (droppable : Droppable (actions.foldl step (start first))) (reads : Nat → ReadOutside)
    (readsEnd : Dropping.ReadsEnd reads) (passes : Nat) :
    WellFounded (fun next state : Dropping => Dropping.Step reads state next) ∧
    ∀ state, Relation.ReflTransGen (Dropping.Step reads)
        (startDrop (actions.foldl step (start first)) passes) state →
      (state.dropped = true ∧ state.reader.readLoop = .stopped ∧
        state.reader.requests.items = []) ∨ ∃ next, Dropping.Step reads state next := by
  refine ⟨Dropping.wellFounded_step readsEnd, ?_⟩
  have roomy := roomy_run first actions
  have fits : (actions.foldl step (start first)).streaming.reader.outstanding ≤
      4 * QUEUE_DEPTH := by
    have fits := roomy.fits
    rcases droppable with ⟨outcome, phase⟩ | ⟨blocks, totalBytes, phase⟩
    · rw [phase] at fits
      exact fits.resolve_right id
    · rw [phase] at fits
      exact fits.resolve_right id
  have started : (startDrop (actions.foldl step (start first)) passes).Winding :=
    ⟨fun _ => ⟨roomy.serving, fits⟩, nofun⟩
  intro state reached
  have winding : state.Winding := by
    induction reached with
    | refl => exact started
    | tail _ taken ih => exact ih.step taken
  exact winding.ended_or_moves reads

/-- The first of two files cannot be read, and the second one is left behind. -/
def failedCall : List ReaderAction :=
  [.caller true, .caller true, .caller true, .thread none, .thread none, .thread none,
    .caller true]

/-- A file of two bytes, which come one by one. -/
def twoBytes (_ : Nat) : ReadOutside :=
  { opens := true
    fileLen := some 2
    ringStarts := true
    contents := fun _ => [7, 8]
    rounds := fun _ => .completed 1 }

theorem drop_completes_failedCall :
    (failedCall.foldl step
        (start (.streamDirectory (text "d") [text "d/a", text "d/b"]))).streaming.phase =
      .returned (.error (.readFailed (text "d/a"))) ∧
    ∃ next, Dropping.Step twoBytes
      (startDrop (failedCall.foldl step
        (start (.streamDirectory (text "d") [text "d/a", text "d/b"]))) 0) next := by
  refine ⟨rfl, ?_⟩
  have completes := (drop_completes (.streamDirectory (text "d") [text "d/a", text "d/b"])
    failedCall (.inl ⟨_, rfl⟩) twoBytes (fun _ => ⟨2, _, rfl⟩) 0).2 _ .refl
  exact completes.resolve_left (fun ended => Bool.false_ne_true ended.1)

end ReaderRun

end Udpix.IoEngine

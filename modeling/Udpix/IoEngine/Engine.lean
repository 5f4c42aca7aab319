/-
The two paths through the engine, from one directory to another.

`send_directory` walks the directory, has its files read and packed, and tells
the sender to stop when all blocks are under way.  `receive_files` hands what
arrives to the writer.  Joined by a channel that keeps the blocks, the two copy
the directory.
-/

import Udpix.IoEngine.BlockShape
import Udpix.IoEngine.Delivery
import Udpix.IoEngine.DirectoryWalk
import Udpix.IoEngine.ReaderCalls
import Udpix.Library.Unwinding
import Udpix.Protocol.Sender
import Mathlib.Data.Prod.Lex
import Mathlib.Order.WellFounded

namespace Udpix.IoEngine

open UnixPath Protocol

inductive EngineError where
  | walk (reason : WalkError)
  | stream (reason : ReaderError)
  | shutdownUnsent
deriving DecidableEq

inductive SendPhase where
  | streaming (call : Streaming)
  | returned (outcome : Except EngineError Unit)

structure Sending where
  phase : SendPhase
  commands : List SenderCommand

namespace Sending

/-- The call up to the end of the directory walk. -/
def sendDirectory (root : Path) (opens : Bool) (listing : Listing) : Sending :=
  match collectFiles root opens listing with
  | .error reason => { phase := .returned (.error (.walk reason)), commands := [] }
  | .ok filePaths => { phase := .streaming (.start root filePaths), commands := [] }

def caller (senderOpen : Bool) (state : Sending) : Option Sending :=
  match state.phase with
  | .returned _ => none
  | .streaming call =>
      match call.phase with
      | .returned (.error reason) =>
          some { state with phase := .returned (.error (.stream reason)) }
      | .returned (.ok _) =>
          if senderOpen then
            some { phase := .returned (.ok ()), commands := state.commands ++ [.shutdown] }
          else some { state with phase := .returned (.error .shutdownUnsent) }
      | _ =>
          (call.streamDirectory senderOpen).map fun next =>
            { phase := .streaming next
              commands := state.commands ++
                (next.shipped.drop call.shipped.length).map .sendChunk }

def readFilePlatform (contents : Path → Option Bytes) (reader : AsyncReader) : Option Bytes :=
  match reader.readLoop with
  | .reading path => contents path
  | _ => none

def thread (contents : Path → Option Bytes) (state : Sending) : Option Sending :=
  match state.phase with
  | .returned _ => none
  | .streaming call =>
      (call.reader.ioUringReadLoop (readFilePlatform contents call.reader)).map fun reader =>
        { state with phase := .streaming { call with reader := reader } }

/-- A step of the call or of the reader thread.  `mayClose` says whether the
sender may stop listening. -/
inductive Step (contents : Path → Option Bytes) (mayClose : Bool) (state : Sending) :
    Sending → Prop where
  | caller (senderOpen : Bool) (allowed : senderOpen = true ∨ mayClose = true) {next : Sending}
      (taken : state.caller senderOpen = some next) : Step contents mayClose state next
  | thread {next : Sending} (taken : state.thread contents = some next) :
      Step contents mayClose state next

end Sending

/-- The receive path; the count of the bytes is only logged. -/
def receiveFiles (overflowChecks : Bool) (disk : Disk) (outputDir : Path) (chunks : List Bytes) :
    Except (Fault WriterError) Unit :=
  (AsyncWriter.receiveAndWrite overflowChecks disk outputDir chunks).outcome.map fun _ => ()

/-! ### Every call comes to an end -/

theorem AsyncReader.threadWork_lt {reader next : AsyncReader} {bytes : Option Bytes}
    (taken : reader.ioUringReadLoop bytes = some next) : next.threadWork < reader.threadWork := by
  rw [threadWork, threadWork]
  cases threadStep_of_ioUringReadLoop taken with
  | stops place received =>
      rw [place, BoundedChannel.items_of_recv received, List.length_cons]
      dsimp only
      omega
  | takes place received =>
      rw [place, BoundedChannel.items_of_recv received, List.length_cons]
      dsimp only
      omega
  | reads place =>
      rw [place]
      exact Nat.lt_succ_self _
  | answers place sent =>
      rw [place]
      exact Nat.lt_succ_self _

namespace Streaming

/-- The steps left until the blocks are packed, and the blocks left to ship. -/
def work (call : Streaming) : Nat × Nat :=
  match call.phase with
  | .submitting rest => (4 * rest.length + call.reader.threadWork + call.n + 4, 0)
  | .receiving remaining _ _ => (call.reader.threadWork + remaining + 3, 0)
  | .shipping blocks _ => (call.reader.threadWork + 2, blocks.length)
  | .returned _ => (call.reader.threadWork + 1, 0)

theorem work_streamDirectory_lt {call next : Streaming} {senderOpen : Bool}
    (taken : call.streamDirectory senderOpen = some next) :
    toLex next.work < toLex call.work := by
  rw [Prod.Lex.toLex_lt_toLex, work, work]
  cases callStep_cases taken with
  | submits phase sent =>
      rw [phase, AsyncReader.threadWork, AsyncReader.threadWork, BoundedChannel.items_of_send sent,
        List.length_append]
      dsimp only [List.length_cons, List.length_nil]
      omega
  | turns phase =>
      rw [phase]
      dsimp only [List.length_nil]
      omega
  | receives phase received read =>
      rw [phase]
      dsimp only [AsyncReader.threadWork]
      omega
  | fails phase received unread =>
      rw [phase]
      dsimp only [AsyncReader.threadWork]
      omega
  | packs phase =>
      rw [phase]
      dsimp only
      omega
  | ships phase =>
      rw [phase]
      dsimp only [List.length_cons]
      omega
  | finishes phase =>
      rw [phase]
      dsimp only
      omega
  | loses phase =>
      rw [phase]
      dsimp only
      omega
  | findsClosed phase dead =>
      rw [phase]
      dsimp only
      omega
  | findsDead phase drained dead =>
      rw [phase]
      dsimp only
      omega

theorem work_thread_lt (call : Streaming) {reader : AsyncReader} {bytes : Option Bytes}
    (taken : call.reader.ioUringReadLoop bytes = some reader) :
    toLex (work { call with reader := reader }) < toLex call.work := by
  have less := AsyncReader.threadWork_lt taken
  rw [Prod.Lex.toLex_lt_toLex, work, work]
  dsimp only
  cases call.phase with
  | submitting rest =>
      dsimp only
      omega
  | receiving remaining fileData totalBytes =>
      dsimp only
      omega
  | shipping blocks totalBytes =>
      dsimp only
      omega
  | returned outcome =>
      dsimp only
      omega

end Streaming

namespace Sending

def work (state : Sending) : Nat × Nat :=
  match state.phase with
  | .streaming call => call.work
  | .returned _ => (0, 0)

inductive CallerStep (senderOpen : Bool) (state : Sending) : Sending → Prop where
  | streams {call next : Streaming} (phase : state.phase = .streaming call)
      (taken : call.streamDirectory senderOpen = some next) :
      CallerStep senderOpen state
        { phase := .streaming next
          commands := state.commands ++ (next.shipped.drop call.shipped.length).map .sendChunk }
  | signals {call : Streaming} {total : Nat} (phase : state.phase = .streaming call)
      (streamed : call.phase = .returned (.ok total)) (listens : senderOpen = true) :
      CallerStep senderOpen state
        { phase := .returned (.ok ()), commands := state.commands ++ [.shutdown] }
  | unheard {call : Streaming} {total : Nat} (phase : state.phase = .streaming call)
      (streamed : call.phase = .returned (.ok total)) (gone : senderOpen = false) :
      CallerStep senderOpen state { state with phase := .returned (.error .shutdownUnsent) }
  | fails {call : Streaming} {reason : ReaderError} (phase : state.phase = .streaming call)
      (failed : call.phase = .returned (.error reason)) :
      CallerStep senderOpen state { state with phase := .returned (.error (.stream reason)) }

theorem callerStep_of_caller {senderOpen : Bool} {state next : Sending}
    (taken : state.caller senderOpen = some next) : CallerStep senderOpen state next := by
  rw [Sending.caller] at taken
  cases phase : state.phase with
  | returned outcome =>
      rw [phase] at taken
      cases taken
  | streaming call =>
      rw [phase] at taken
      dsimp only at taken
      split at taken
      · rename_i reason failed
        cases taken
        exact .fails phase failed
      · rename_i total streamed
        split at taken
        · rename_i listens
          cases taken
          exact .signals phase streamed listens
        · rename_i gone
          cases taken
          exact .unheard phase streamed (Bool.not_eq_true _ |>.mp gone)
      · obtain ⟨after, stepped, rfl⟩ := Option.map_eq_some_iff.mp taken
        exact .streams phase stepped

theorem Step.work_lt {contents : Path → Option Bytes} {mayClose : Bool} {state next : Sending}
    (step : Step contents mayClose state next) : toLex next.work < toLex state.work := by
  cases step with
  | caller senderOpen allowed taken =>
      cases callerStep_of_caller taken with
      | streams phase stepped =>
          rw [work, work, phase]
          exact Streaming.work_streamDirectory_lt stepped
      | signals phase streamed listens =>
          rw [Prod.Lex.toLex_lt_toLex, work, work, phase]
          dsimp only
          rw [Streaming.work, streamed]
          exact .inl (Nat.succ_pos _)
      | unheard phase streamed gone =>
          rw [Prod.Lex.toLex_lt_toLex, work, work, phase]
          dsimp only
          rw [Streaming.work, streamed]
          exact .inl (Nat.succ_pos _)
      | fails phase failed =>
          rw [Prod.Lex.toLex_lt_toLex, work, work, phase]
          dsimp only
          rw [Streaming.work, failed]
          exact .inl (Nat.succ_pos _)
  | thread taken =>
      rw [Sending.thread] at taken
      cases phase : state.phase with
      | returned outcome =>
          rw [phase] at taken
          cases taken
      | streaming call =>
          rw [phase] at taken
          obtain ⟨reader, stepped, rfl⟩ := Option.map_eq_some_iff.mp taken
          rw [work, work, phase]
          exact Streaming.work_thread_lt call stepped

theorem wellFounded_step (contents : Path → Option Bytes) (mayClose : Bool) :
    WellFounded (fun next state => Step contents mayClose state next) :=
  Subrelation.wf (fun step => step.work_lt)
    (InvImage.wf (fun state => toLex (work state)) wellFounded_lt)

/-! ### What a call has sent -/

section Runs

variable {root : Path} {filePaths : List Path} {contents : Path → Option Bytes} {mayClose : Bool}

/-- While the call streams, the commands are the blocks that were shipped, and the
reads made so far gave the contents of the files. -/
structure Streams (root : Path) (filePaths : List Path) (contents : Path → Option Bytes)
    (mayClose : Bool) (call : Streaming) (commands : List SenderCommand) : Prop where
  sound : call.Sound filePaths.length
  shipped : commands = call.shipped.map .sendChunk
  reads : ∃ own, (ReaderCall.streamDirectory root filePaths).Clean own call ∧
    ∀ result, result ∈ own → result.bytes = contents result.path
  failed : ∀ reason, call.phase = .returned (.error reason) → mayClose = true

theorem streams_start : Streams root filePaths contents mayClose (.start root filePaths) [] where
  sound := Streaming.sound_start root filePaths
  shipped := rfl
  reads := by
    refine ⟨[], ?_, fun result member => absurd member List.not_mem_nil⟩
    exact (ReaderCall.streamDirectory root filePaths).clean_start AsyncReader.serving_new
      ⟨rfl, rfl⟩
  failed := by
    intro reason impossible
    cases impossible

theorem shipped_isPrefix {call next : Streaming} {senderOpen : Bool}
    (taken : call.streamDirectory senderOpen = some next) : call.shipped <+: next.shipped := by
  cases Streaming.callStep_cases taken with
  | ships phase => exact List.prefix_append _ _
  | _ => exact List.prefix_refl _

theorem mem_paths_of_reading {own : List ReadResult} {call : Streaming} {path : Path}
    (clean : (ReaderCall.streamDirectory root filePaths).Clean own call)
    (reading : call.reader.readLoop = .reading path) : path ∈ filePaths := by
  have toRead : path ∈ call.reader.toRead := by
    rw [AsyncReader.toRead, reading]
    exact List.mem_cons_self
  have accounted := clean.accounted
  rw [ReaderCall.Accounted] at accounted
  cases phase : call.phase with
  | submitting rest =>
      rw [phase] at accounted
      have asked : _ = filePaths := accounted.2.2
      rw [← asked]
      exact List.mem_append_right _ (List.mem_append_left _ toRead)
  | receiving remaining fileData totalBytes =>
      rw [phase] at accounted
      have asked : _ = filePaths := accounted.2.1
      rw [← asked]
      exact List.mem_append_right _ toRead
  | shipping blocks totalBytes =>
      rw [phase] at accounted
      rw [accounted.1.allRead] at toRead
      cases toRead
  | returned outcome =>
      rw [phase] at accounted
      rw [accounted.1.allRead] at toRead
      cases toRead

theorem Streams.thread {call : Streaming} {commands : List SenderCommand} {reader : AsyncReader}
    (streams : Streams root filePaths contents mayClose call commands)
    (readable : ∀ path, path ∈ filePaths → contents path ≠ none)
    (taken : call.reader.ioUringReadLoop (readFilePlatform contents call.reader) = some reader) :
    Streams root filePaths contents mayClose { call with reader := reader } commands where
  sound := streams.sound.thread taken
  shipped := streams.shipped
  reads := by
    obtain ⟨own, clean, given⟩ := streams.reads
    refine ⟨_, clean.thread taken ?_, ?_⟩
    · intro path reading unread
      rw [readFilePlatform, reading] at unread
      exact absurd unread (readable path (mem_paths_of_reading clean reading))
    · intro result member
      rcases List.mem_append.mp member with earlier | fresh
      · exact given result earlier
      · rw [AsyncReader.answer] at fresh
        cases place : call.reader.readLoop with
        | reading path =>
            rw [place] at fresh
            rw [List.mem_singleton.mp fresh, readFilePlatform, place]
        | waiting =>
            rw [place] at fresh
            cases fresh
        | sending other =>
            rw [place] at fresh
            cases fresh
        | stopped =>
            rw [place] at fresh
            cases fresh
  failed := streams.failed

theorem Streams.fails_when {call next : Streaming} {commands : List SenderCommand}
    {senderOpen : Bool} (streams : Streams root filePaths contents mayClose call commands)
    (readable : ∀ path, path ∈ filePaths → contents path ≠ none)
    (taken : call.streamDirectory senderOpen = some next) {reason : ReaderError}
    (failed : next.phase = .returned (.error reason)) : senderOpen = false := by
  cases Streaming.callStep_cases taken with
  | submits phase sent => cases failed
  | turns phase => cases failed
  | receives phase received read => cases failed
  | @fails _ _ _ result _ phase received unread =>
      -- every result that the call takes is one of its own reads
      obtain ⟨own, clean, given⟩ := streams.reads
      have accounted := clean.accounted
      rw [ReaderCall.Accounted, phase] at accounted
      obtain ⟨_, asked, held, split, _⟩ := accounted
      rw [AsyncReader.undelivered_recv received] at split
      have member : result ∈ own := by
        rw [split]
        exact List.mem_append_right _ List.mem_cons_self
      have listed : result.path ∈ filePaths := by
        change _ = filePaths at asked
        rw [← asked]
        exact List.mem_append_left _ (List.mem_map_of_mem member)
      rw [given result member] at unread
      exact absurd unread (readable result.path listed)
  | packs phase => cases failed
  | ships phase => cases failed
  | finishes phase => cases failed
  | loses phase =>
      cases listens : senderOpen with
      | false => rfl
      | true =>
          rw [Streaming.streamDirectory, Streaming.callStep, phase, listens] at taken
          have sameShipped := congrArg Streaming.shipped (Option.some.inj taken)
          exact absurd sameShipped (by simp)
  | findsClosed phase dead => exact absurd dead streams.sound.serving.running
  | findsDead phase drained dead => exact absurd dead streams.sound.serving.running

theorem Streams.caller {call next : Streaming} {commands : List SenderCommand} {senderOpen : Bool}
    (streams : Streams root filePaths contents mayClose call commands)
    (readable : ∀ path, path ∈ filePaths → contents path ≠ none)
    (allowed : senderOpen = true ∨ mayClose = true)
    (taken : call.streamDirectory senderOpen = some next) :
    Streams root filePaths contents mayClose next
      (commands ++ (next.shipped.drop call.shipped.length).map .sendChunk) where
  sound := streams.sound.caller taken
  shipped := by
    obtain ⟨more, shipped⟩ := shipped_isPrefix taken
    rw [streams.shipped, ← shipped, List.drop_left, List.map_append]
  reads := by
    obtain ⟨own, clean, given⟩ := streams.reads
    exact ⟨own, clean.caller taken, given⟩
  failed := by
    intro reason failed
    have closed := streams.fails_when readable taken failed
    rw [closed] at allowed
    exact allowed.resolve_left Bool.false_ne_true

def Offers (root : Path) (filePaths : List Path) (contents : Path → Option Bytes)
    (files : List (Path × Bytes)) : Prop :=
  files.map some = filePaths.map fun path =>
    (contents path).map ((stripPrefix path root).getD path, ·)

variable {files : List (Path × Bytes)}

theorem Offers.readable (offers : Offers root filePaths contents files) (path : Path)
    (listed : path ∈ filePaths) : contents path ≠ none := by
  intro unread
  have nothing : none ∈ filePaths.map fun path =>
      (contents path).map ((stripPrefix path root).getD path, ·) :=
    List.mem_map.mpr ⟨path, listed, by rw [unread, Option.map_none]⟩
  rw [← offers] at nothing
  obtain ⟨file, _, impossible⟩ := List.mem_map.mp nothing
  cases impossible

/-- A call that has streamed everything has shipped the blocks of its files. -/
theorem Streams.shipped_eq {call : Streaming} {commands : List SenderCommand} {total : Nat}
    (streams : Streams root filePaths contents mayClose call commands)
    (offers : Offers root filePaths contents files)
    (streamed : call.phase = .returned (.ok total)) :
    call.shipped = (Packer.packFiles files).map PackBlock.data := by
  obtain ⟨own, clean, given⟩ := streams.reads
  obtain ⟨asked, fileData, gathers, shipped⟩ := clean.dispatches total streamed
  have same : fileData = files := by
    apply List.map_injective_iff.mpr (Option.some_injective _)
    rw [offers, ← gathers.1]
    change own.map ReadResult.path = filePaths at asked
    rw [← asked, List.map_map]
    apply List.map_congr_left
    intro result member
    rw [given result member]
    rfl
  rw [shipped, same]

/-- All states of a call on files that can be read. -/
def Faithful (root : Path) (filePaths : List Path) (contents : Path → Option Bytes)
    (mayClose : Bool) (files : List (Path × Bytes)) (state : Sending) : Prop :=
  match state.phase with
  | .streaming call => Streams root filePaths contents mayClose call state.commands
  | .returned (.ok _) =>
      state.commands = ((Packer.packFiles files).map PackBlock.data).map .sendChunk ++ [.shutdown]
  | .returned (.error _) => .shutdown ∉ state.commands ∧ mayClose = true

theorem shutdown_not_mem (chunks : List Bytes) :
    SenderCommand.shutdown ∉ chunks.map .sendChunk := by
  intro member
  obtain ⟨chunk, _, impossible⟩ := List.mem_map.mp member
  cases impossible

theorem Faithful.step {state next : Sending}
    (faithful : Faithful root filePaths contents mayClose files state)
    (offers : Offers root filePaths contents files) (step : Step contents mayClose state next) :
    Faithful root filePaths contents mayClose files next := by
  rw [Faithful] at faithful
  cases step with
  | caller senderOpen allowed taken =>
      cases callerStep_of_caller taken with
      | streams phase stepped =>
          rw [phase] at faithful
          exact faithful.caller offers.readable allowed stepped
      | signals phase streamed listens =>
          rw [phase] at faithful
          rw [Faithful, faithful.shipped, faithful.shipped_eq offers streamed]
      | unheard phase streamed gone =>
          rw [phase] at faithful
          rw [gone] at allowed
          refine ⟨?_, allowed.resolve_left Bool.false_ne_true⟩
          rw [faithful.shipped]
          exact shutdown_not_mem _
      | fails phase failed =>
          rw [phase] at faithful
          refine ⟨?_, faithful.failed _ failed⟩
          rw [faithful.shipped]
          exact shutdown_not_mem _
  | thread taken =>
      rw [Sending.thread] at taken
      cases phase : state.phase with
      | returned outcome =>
          rw [phase] at taken
          cases taken
      | streaming call =>
          rw [phase] at taken faithful
          obtain ⟨reader, stepped, rfl⟩ := Option.map_eq_some_iff.mp taken
          exact faithful.thread offers.readable stepped

theorem faithful_of_reachable {state : Sending} (offers : Offers root filePaths contents files)
    (reachable : Relation.ReflTransGen (Step contents mayClose)
      { phase := .streaming (.start root filePaths), commands := [] } state) :
    Faithful root filePaths contents mayClose files state := by
  induction reachable with
  | refl => exact streams_start
  | tail _ step ih => exact ih.step offers step

/-! ### A call that cannot go on has returned -/

theorem ioUringReadLoop_eq_none_of {reader : AsyncReader} {bytes : Option Bytes}
    (waits : reader.ioUringReadLoop bytes = none) (other : Option Bytes) :
    reader.ioUringReadLoop other = none := by
  rw [AsyncReader.ioUringReadLoop] at waits ⊢
  cases place : reader.readLoop with
  | reading path =>
      rw [place] at waits
      cases waits
  | waiting =>
      rw [place] at waits
      exact waits
  | sending result =>
      rw [place] at waits
      exact waits
  | stopped => rfl

theorem streamDirectory_eq_none_of {call : Streaming} (waits : call.streamDirectory true = none)
    (senderOpen : Bool) : call.streamDirectory senderOpen = none := by
  rw [Streaming.streamDirectory, Streaming.callStep] at waits ⊢
  cases phase : call.phase with
  | submitting rest =>
      rw [phase] at waits
      cases rest with
      | nil => cases waits
      | cons path rest => exact waits
  | receiving remaining fileData totalBytes =>
      rw [phase] at waits
      cases remaining with
      | zero => cases waits
      | succ remaining => exact waits
  | shipping blocks totalBytes =>
      rw [phase] at waits
      cases blocks with
      | nil => cases waits
      | cons block rest => cases waits
  | returned outcome => rfl

theorem awaitsResults_of_waits {call : Streaming} (waits : call.streamDirectory true = none)
    (unreturned : ∀ outcome, call.phase ≠ .returned outcome) : call.AwaitsResults := by
  rw [Streaming.streamDirectory, Streaming.callStep] at waits
  rw [Streaming.AwaitsResults]
  cases phase : call.phase with
  | submitting rest => trivial
  | receiving remaining fileData totalBytes =>
      rw [phase] at waits
      cases remaining with
      | zero => cases waits
      | succ remaining => exact Nat.succ_pos _
  | shipping blocks totalBytes =>
      rw [phase] at waits
      cases blocks with
      | nil => cases waits
      | cons block rest => cases waits
  | returned outcome => exact absurd phase (unreturned outcome)

/-- With at most 1025 files the call and the thread never wait for each other. -/
theorem returned_of_stuck {state : Sending}
    (faithful : Faithful root filePaths contents mayClose files state)
    (few : filePaths.length ≤ 1025) (stuck : ∀ next, ¬ Step contents mayClose state next) :
    ∃ outcome, state.phase = .returned outcome := by
  rw [Faithful] at faithful
  cases phase : state.phase with
  | returned outcome => exact ⟨outcome, rfl⟩
  | streaming call =>
      rw [phase] at faithful
      have callerWaits : state.caller true = none := by
        cases taken : state.caller true with
        | none => rfl
        | some next => exact absurd (.caller true (.inl rfl) taken) (stuck next)
      have threadWaits : state.thread contents = none := by
        cases taken : state.thread contents with
        | none => rfl
        | some next => exact absurd (.thread taken) (stuck next)
      rw [Sending.caller, phase] at callerWaits
      rw [Sending.thread, phase] at threadWaits
      dsimp only at callerWaits threadWaits
      split at callerWaits
      · cases callerWaits
      · cases callerWaits
      · rename_i notFailed notDone
        have callWaits := Option.map_eq_none_iff.mp callerWaits
        have readerWaits := Option.map_eq_none_iff.mp threadWaits
        have unreturned : ∀ outcome, call.phase ≠ .returned outcome := by
          intro outcome returned
          cases outcome with
          | error reason => exact notFailed reason returned
          | ok total => exact notDone total returned
        have deadlocked : call.Deadlocked :=
          ⟨awaitsResults_of_waits callWaits unreturned, streamDirectory_eq_none_of callWaits,
            ioUringReadLoop_eq_none_of readerWaits⟩
        have many := faithful.sound.length_of_deadlocked deadlocked
        omega

end Runs

end Sending

/-! ### From one directory to the other -/

def filesOf (listing : Listing) (data : List EntryName → Bytes) : List (Path × Bytes) :=
  listing.regularFiles.map fun names => (below names, data names)

/-- What the blocks can carry: relative paths that the manifest stores unchanged,
and files whose parts its fields can count. -/
structure Portable (listing : Listing) (data : List EntryName → Bytes) : Prop where
  distinct : listing.Distinct
  storable : ∀ names, names ∈ listing.regularFiles → Packer.Storable (below names)
  fewParts : ∀ names, names ∈ listing.regularFiles →
    (filePieces (below names, data names)).length < 2 ^ 32

variable {listing : Listing} {data : List EntryName → Bytes}

theorem Portable.packable (portable : Portable listing data)
    (few : listing.regularFiles.length ≤ 1025) : Packable (filesOf listing data) where
  storable := by
    intro file member
    obtain ⟨names, listed, rfl⟩ := List.mem_map.mp member
    exact portable.storable names listed
  distinct := by
    rw [filesOf, List.map_map]
    refine portable.distinct.nodup_regularFiles.map_on ?_
    intro first _ second _ same
    rw [Function.comp_apply, Function.comp_apply, fileKey, fileKey, components_below,
      components_below] at same
    exact List.map_injective_iff.mpr component_injective same
  fewEntries := by
    intro layout member
    have entries := ((Packer.packLayouts_shape _).shaped layout member).few
    rw [filesOf, List.length_map] at entries
    omega
  fewParts := by
    intro file member
    obtain ⟨names, listed, rfl⟩ := List.mem_map.mp member
    exact portable.fewParts names listed

theorem offers_filesOf (root : Path) {contents : Path → Option Bytes}
    (readable : ∀ names, names ∈ listing.regularFiles →
      contents (walk root names) = some (data names)) :
    Sending.Offers root (listing.regularFiles.map (walk root)) contents (filesOf listing data) := by
  rw [Sending.Offers, filesOf, List.map_map, List.map_map]
  apply List.map_congr_left
  intro names listed
  rw [Function.comp_apply, Function.comp_apply, readable names listed, Option.map_some,
    stripPrefix_walk root (Listing.ne_nil_of_mem_regularFiles listed), Option.getD_some]

theorem requestOf_below (outputDir : Path) {names : List EntryName} (named : names ≠ [])
    (bytes : Bytes) :
    requestOf outputDir (below names, bytes) =
      { absPath := walk outputDir names, data := bytes } := by
  rw [requestOf, walk_eq outputDir named, join_eq_lead outputDir (isAbsolute_below names)]

theorem sendDirectory_eq (root : Path) (passed : listing.fault root = none) :
    Sending.sendDirectory root true listing =
      { phase := .streaming (.start root (listing.regularFiles.map (walk root)))
        commands := [] } := by
  rw [Sending.sendDirectory, collectFiles, if_pos rfl, collectRecursive_eq, passed,
    List.nil_append]

/-- What the writer does with all the blocks of a directory, in any order. -/
theorem receiveFiles_of_once (portable : Portable listing data)
    (few : listing.regularFiles.length ≤ 1025) {disk : Disk} (healthy : disk.Healthy)
    (overflowChecks : Bool) (outputDir : Path) {received : List Bytes}
    (once : received.Perm ((Packer.packFiles (filesOf listing data)).map PackBlock.data)) :
    receiveFiles overflowChecks disk outputDir received = .ok () ∧
      (AsyncWriter.receiveAndWrite overflowChecks disk outputDir received).submitted.Perm
        (listing.regularFiles.map fun names =>
          { absPath := walk outputDir names, data := data names }) := by
  have packable := portable.packable few
  have drawn : ∀ chunk, chunk ∈ received →
      chunk ∈ (Packer.packFiles (filesOf listing data)).map PackBlock.data :=
    fun chunk member => once.subset member
  have decodable := decodable_of_drawn packable overflowChecks drawn
  have consumed := AsyncWriter.consume_finishes healthy AsyncWriter.calm_start overflowChecks
    outputDir received decodable
  obtain ⟨total, returned⟩ :=
    AsyncWriter.receiveAndWrite_healthy healthy overflowChecks outputDir received decodable
  refine ⟨?_, ?_⟩
  · rw [receiveFiles, returned]
    rfl
  · have requests : (filesOf listing data).map (requestOf outputDir) =
        listing.regularFiles.map fun names =>
          { absPath := walk outputDir names, data := data names } := by
      rw [filesOf, List.map_map]
      apply List.map_congr_left
      intro names listed
      exact requestOf_below outputDir (Listing.ne_nil_of_mem_regularFiles listed) _
    rw [← requests]
    exact (submitted_perm_of_once packable overflowChecks drawn disk outputDir consumed once).1

/-- Whatever the schedule, a call on a directory comes to an end.  It fails only
at a sender that has stopped listening, and then it never signals the end.
Otherwise it has sent the blocks and the signal, and a writer that gets each
block once, in any order, copies every regular file of the directory to the same
place below its own directory, and nothing else. -/
theorem sendDirectory_receiveFiles (root : Path) (contents : Path → Option Bytes)
    (mayClose : Bool) (listing : Listing) (data : List EntryName → Bytes)
    (portable : Portable listing data) (passed : listing.fault root = none)
    (few : listing.regularFiles.length ≤ 1025)
    (readable : ∀ names, names ∈ listing.regularFiles →
      contents (walk root names) = some (data names)) :
    WellFounded (fun next state => Sending.Step contents mayClose state next) ∧
      ∀ state, Relation.ReflTransGen (Sending.Step contents mayClose)
          (Sending.sendDirectory root true listing) state →
        (∀ next, ¬ Sending.Step contents mayClose state next) →
        (mayClose = true ∧ (∃ reason, state.phase = .returned (.error reason)) ∧
          .shutdown ∉ state.commands) ∨
        (state.phase = .returned (.ok ()) ∧
          ∃ chunks, state.commands = chunks.map .sendChunk ++ [.shutdown] ∧
            ∀ overflowChecks disk outputDir received, disk.Healthy → received.Perm chunks →
              receiveFiles overflowChecks disk outputDir received = .ok () ∧
              (AsyncWriter.receiveAndWrite overflowChecks disk outputDir received).submitted.Perm
                (listing.regularFiles.map fun names =>
                  { absPath := walk outputDir names, data := data names })) := by
  refine ⟨Sending.wellFounded_step contents mayClose, ?_⟩
  intro state reachable stuck
  rw [sendDirectory_eq root passed] at reachable
  have faithful := Sending.faithful_of_reachable (offers_filesOf root readable) reachable
  have fewPaths : (listing.regularFiles.map (walk root)).length ≤ 1025 := by
    rw [List.length_map]
    exact few
  obtain ⟨outcome, returned⟩ := Sending.returned_of_stuck faithful fewPaths stuck
  rw [Sending.Faithful, returned] at faithful
  cases outcome with
  | error reason => exact .inl ⟨faithful.2, ⟨reason, returned⟩, faithful.1⟩
  | ok _ =>
      refine .inr ⟨returned, _, faithful, ?_⟩
      intro overflowChecks disk outputDir received healthy once
      exact receiveFiles_of_once portable few healthy overflowChecks outputDir once

/-- `r/a` holds three bytes, and every other file none. -/
def smallContents (path : Path) : Option Bytes :=
  if path = [0x72, 0x2F, 0x61] then some [1, 2, 3] else some []

def smallData (names : List EntryName) : Bytes := if names = [nameA] then [1, 2, 3] else []

theorem portable_smallTree : Portable smallTree smallData where
  distinct := smallTree_distinct
  storable := by decide
  fewParts := by decide

theorem sendDirectory_receiveFiles_smallTree :
    ∃ state, Relation.ReflTransGen (Sending.Step smallContents false)
        (Sending.sendDirectory [0x72] true smallTree) state ∧
      state.phase = .returned (.ok ()) ∧
      ∃ chunks, state.commands = chunks.map .sendChunk ++ [.shutdown] ∧
        receiveFiles true workingDisk [0x6F] chunks = .ok () ∧
        (AsyncWriter.receiveAndWrite true workingDisk [0x6F] chunks).submitted.Perm
          [{ absPath := [0x6F, 0x2F, 0x61], data := [1, 2, 3] },
           { absPath := [0x6F, 0x2F, 0x73, 0x2F, 0x73], data := [] }] := by
  obtain ⟨ends, outcome⟩ := sendDirectory_receiveFiles [0x72] smallContents false smallTree
    smallData portable_smallTree rfl (by decide) (by decide)
  obtain ⟨state, reachable, stuck⟩ :=
    Progress.exists_final ends (.sendDirectory [0x72] true smallTree)
  rcases outcome state reachable stuck with ⟨closed, _⟩ | ⟨returned, chunks, sent, copies⟩
  · exact absurd closed Bool.false_ne_true
  · exact ⟨state, reachable, returned, chunks, sent,
      copies true workingDisk [0x6F] chunks workingDisk_healthy (List.Perm.refl _)⟩

end Udpix.IoEngine

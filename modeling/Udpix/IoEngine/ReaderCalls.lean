/-
Several calls on one reader, one after the other.

The results carry no mark of the call they belong to: a call takes as many of
them as it asked for files.  A run keeps, beside the state of the program, what
the thread has read and how many reads the earlier calls asked for; no step
looks at either.
-/

import Udpix.IoEngine.Reader
import Udpix.Library.Unwinding

namespace Udpix.IoEngine

open UnixPath Protocol Unwinding

namespace Streaming

/-- One step of the caller for a single file.  `root` is then its path, and both
the blocks and the error name the file that was asked for. -/
def readLargeFile (senderOpen : Bool) (state : Streaming) : Option Streaming :=
  callStep (fun _ => (fileName state.root).getD state.root) (fun _ => state.root) senderOpen state

end Streaming

inductive ReaderCall where
  | streamDirectory (root : Path) (filePaths : List Path)
  | readLargeFile (path : Path)
deriving DecidableEq

namespace ReaderCall

def root : ReaderCall → Path
  | .streamDirectory root _ => root
  | .readLargeFile path => path

def paths : ReaderCall → List Path
  | .streamDirectory _ filePaths => filePaths
  | .readLargeFile path => [path]

def name : ReaderCall → Path → Path
  | .streamDirectory root _, path => (stripPrefix path root).getD path
  | .readLargeFile _, path => (fileName path).getD path

/-- All of the results could be read, and these are their files. -/
def Gathers (call : ReaderCall) (results : List ReadResult) (fileData : List (Path × Bytes))
    (totalBytes : Nat) : Prop :=
  results.map (fun result => result.bytes.map (call.name result.path, ·)) = fileData.map some ∧
    totalBytes = (fileData.map (fun file => file.2.length)).sum

/-- A call that succeeds has shipped the files it asked for, each with the bytes
that were read for it, which `own` lists, and under its own name. -/
def Dispatches (call : ReaderCall) (own : List ReadResult) (state : Streaming) : Prop :=
  ∀ total, state.phase = .returned (.ok total) →
    own.map ReadResult.path = call.paths ∧
      ∃ fileData, call.Gathers own fileData total ∧
        state.shipped = (Packer.packFiles fileData).map PackBlock.data

def start (call : ReaderCall) (reader : AsyncReader) : Streaming :=
  { reader := reader
    root := call.root
    n := call.paths.length
    phase := .submitting call.paths
    shipped := [] }

def callerStep (call : ReaderCall) : Bool → Streaming → Option Streaming :=
  match call with
  | .streamDirectory _ _ => Streaming.streamDirectory
  | .readLargeFile _ => Streaming.readLargeFile

end ReaderCall

def ReadRequest.path : ReadRequest → Option Path
  | .readFile path => some path
  | .shutdown => none

namespace AsyncReader

/-- The files that were asked for and not read yet, in the order in which the
thread reads them. -/
def toRead (reader : AsyncReader) : List Path :=
  match reader.readLoop with
  | .reading path => path :: reader.requests.items.filterMap ReadRequest.path
  | _ => reader.requests.items.filterMap ReadRequest.path

/-- The results that were read and not taken yet, in the order in which a call
takes them. -/
def undelivered (reader : AsyncReader) : List ReadResult :=
  match reader.readLoop with
  | .sending result => reader.results.items ++ [result]
  | _ => reader.results.items

def answer (bytes : Option Bytes) (reader : AsyncReader) : List ReadResult :=
  match reader.readLoop with
  | .reading path => [{ path := path, bytes := bytes }]
  | _ => []

end AsyncReader

structure ReaderRun where
  call : ReaderCall
  streaming : Streaming
  /-- Every file the thread has read so far. -/
  answered : List ReadResult
  /-- How many reads the calls before this one asked for. -/
  begun : Nat

inductive ReaderAction where
  | caller (senderOpen : Bool)
  | thread (bytes : Option Bytes)
  | next (call : ReaderCall)

namespace ReaderRun

def start (call : ReaderCall) : ReaderRun :=
  { call := call
    streaming := call.start .new
    answered := []
    begun := 0 }

/-- One step; an action that has to wait leaves the run as it is, and a call
begins only after the one before it has returned. -/
def step (run : ReaderRun) : ReaderAction → ReaderRun
  | .caller senderOpen =>
      match run.call.callerStep senderOpen run.streaming with
      | none => run
      | some streaming => { run with streaming := streaming }
  | .thread bytes =>
      match run.streaming.reader.ioUringReadLoop bytes with
      | none => run
      | some reader =>
          { run with
            streaming := { run.streaming with reader := reader }
            answered := run.answered ++ run.streaming.reader.answer bytes }
  | .next call =>
      match run.streaming.phase with
      | .returned _ =>
          { call := call
            streaming := call.start run.streaming.reader
            answered := run.answered
            begun := run.answered.length + run.streaming.reader.toRead.length }
      | _ => run

def own (run : ReaderRun) : List ReadResult := run.answered.drop run.begun

def DispatchesOwn (run : ReaderRun) : Prop := run.call.Dispatches run.own run.streaming

/-- The only read that may fail is that of the last file of a call. -/
def ReadsAllButLast (run : ReaderRun) : ReaderAction → Prop
  | .thread none =>
      ∀ path, run.streaming.reader.readLoop = .reading path →
        run.answered.length + 1 = run.begun + run.call.paths.length
  | _ => True

end ReaderRun

/-! ### Where a result can be -/

namespace AsyncReader

/-- The thread moves a file from those to be read to the results that wait, and
both keep their order. -/
theorem Serving.moves {reader next : AsyncReader} {bytes : Option Bytes}
    (serving : reader.Serving) (taken : reader.ioUringReadLoop bytes = some next) :
    reader.toRead = (reader.answer bytes).map ReadResult.path ++ next.toRead ∧
      next.undelivered = reader.undelivered ++ reader.answer bytes := by
  unfold toRead undelivered answer
  cases threadStep_of_ioUringReadLoop taken with
  | stops place received =>
      have held := BoundedChannel.items_of_recv received
      obtain ⟨path, impossible⟩ := serving.reads .shutdown (by
        rw [held]
        exact List.mem_cons_self)
      cases impossible
  | takes place received =>
      rw [place, BoundedChannel.items_of_recv received]
      exact ⟨rfl, (List.append_nil _).symm⟩
  | reads place =>
      rw [place]
      exact ⟨rfl, rfl⟩
  | answers place sent =>
      rw [place]
      dsimp only
      rw [BoundedChannel.items_of_send sent]
      exact ⟨rfl, (List.append_nil _).symm⟩

theorem toRead_send {reader : AsyncReader} {path : Path}
    {filled : BoundedChannel (QUEUE_DEPTH * 2) ReadRequest}
    (sent : reader.requests.send (.readFile path) = some filled) :
    toRead { reader with requests := filled } = reader.toRead ++ [path] := by
  unfold toRead
  dsimp only
  rw [BoundedChannel.items_of_send sent, List.filterMap_append]
  cases reader.readLoop with
  | waiting => rfl
  | reading path => rfl
  | sending result => rfl
  | stopped => rfl

theorem undelivered_recv {reader : AsyncReader} {result : ReadResult}
    {rest : BoundedChannel (QUEUE_DEPTH * 2) ReadResult}
    (received : reader.results.recv = some (result, rest)) :
    reader.undelivered = result :: undelivered { reader with results := rest } := by
  unfold undelivered
  rw [BoundedChannel.items_of_recv received]
  cases reader.readLoop with
  | waiting => rfl
  | reading path => rfl
  | sending result => rfl
  | stopped => rfl

structure Settled (reader : AsyncReader) : Prop where
  allRead : reader.toRead = []
  allTaken : reader.undelivered = []

theorem Settled.thread {reader next : AsyncReader} {bytes : Option Bytes}
    (settled : reader.Settled) (serving : reader.Serving)
    (taken : reader.ioUringReadLoop bytes = some next) :
    next.Settled ∧ reader.answer bytes = [] := by
  obtain ⟨readFrom, readTo⟩ := serving.moves taken
  rw [settled.allRead] at readFrom
  obtain ⟨noPath, allRead⟩ := List.append_eq_nil_iff.mp readFrom.symm
  have noAnswer := List.map_eq_nil_iff.mp noPath
  rw [settled.allTaken, noAnswer] at readTo
  exact ⟨⟨allRead, readTo⟩, noAnswer⟩

end AsyncReader

namespace ReaderCall

theorem exists_callStep {call : ReaderCall} {senderOpen : Bool} {state next : Streaming}
    (rooted : state.root = call.root) (taken : call.callerStep senderOpen state = some next) :
    ∃ label blamed,
      (∀ result : ReadResult, result.path ∈ call.paths → label result = call.name result.path) ∧
        Streaming.CallStep label blamed state next := by
  cases call with
  | streamDirectory root filePaths =>
      refine ⟨_, _, ?_, Streaming.callStep_cases taken⟩
      intro result _
      rw [rooted]
      rfl
  | readLargeFile path =>
      refine ⟨_, _, ?_, Streaming.callStep_cases taken⟩
      intro result member
      change (fileName state.root).getD state.root = (fileName result.path).getD result.path
      rw [rooted, List.mem_singleton.mp member]
      rfl

theorem Gathers.snoc {call : ReaderCall} {results : List ReadResult} {result : ReadResult}
    {fileData : List (Path × Bytes)} {totalBytes : Nat} {bytes : Bytes}
    (gathers : call.Gathers results fileData totalBytes) (read : result.bytes = some bytes) :
    call.Gathers (results ++ [result]) (fileData ++ [(call.name result.path, bytes)])
      (totalBytes + bytes.length) := by
  obtain ⟨files, total⟩ := gathers
  constructor
  · rw [List.map_append, List.map_append, files, List.map_singleton, List.map_singleton, read]
    rfl
  · rw [List.map_append, List.sum_append, ← total, List.map_singleton, List.sum_singleton]

/-- Where the reads of a call are: `own` has those that were made, in the order
of the paths, and a call that has returned leaves nothing behind. -/
def Accounted (call : ReaderCall) (own : List ReadResult) (state : Streaming) : Prop :=
  match state.phase with
  | .submitting rest =>
      state.shipped = [] ∧ own = state.reader.undelivered ∧
        own.map ReadResult.path ++ (state.reader.toRead ++ rest) = call.paths
  | .receiving remaining fileData totalBytes =>
      state.shipped = [] ∧ own.map ReadResult.path ++ state.reader.toRead = call.paths ∧
        ∃ taken, own = taken ++ state.reader.undelivered ∧
          taken.length + remaining = call.paths.length ∧ call.Gathers taken fileData totalBytes
  | .shipping blocks totalBytes =>
      state.reader.Settled ∧ own.map ReadResult.path = call.paths ∧
        ∃ fileData, call.Gathers own fileData totalBytes ∧
          state.shipped ++ blocks.map PackBlock.data =
            (Packer.packFiles fileData).map PackBlock.data
  | .returned _ => state.reader.Settled ∧ call.Dispatches own state

structure Clean (call : ReaderCall) (own : List ReadResult) (state : Streaming) : Prop where
  rooted : state.root = call.root
  counted : state.n = call.paths.length
  serving : state.reader.Serving
  lastFails : ∀ index result, own[index]? = some result → result.bytes = none →
    index + 1 = call.paths.length
  accounted : call.Accounted own state

theorem clean_start (call : ReaderCall) {reader : AsyncReader} (serving : reader.Serving)
    (settled : reader.Settled) : call.Clean [] (call.start reader) where
  rooted := rfl
  counted := rfl
  serving := serving
  lastFails := by
    intro index result found
    cases found
  accounted := by
    refine ⟨rfl, settled.allTaken.symm, ?_⟩
    dsimp only [start]
    rw [settled.allRead]
    rfl

/-- Only the last file of a call may turn out unreadable, also in this step. -/
theorem Clean.lastFails_thread {call : ReaderCall} {own : List ReadResult} {state : Streaming}
    {bytes : Option Bytes} (clean : call.Clean own state)
    (allowed : ∀ path, state.reader.readLoop = .reading path → bytes = none →
      own.length + 1 = call.paths.length)
    {index : Nat} {result : ReadResult}
    (found : (own ++ state.reader.answer bytes)[index]? = some result)
    (unread : result.bytes = none) : index + 1 = call.paths.length := by
  rcases Nat.lt_or_ge index own.length with earlier | fresh
  · rw [List.getElem?_append_left earlier] at found
    exact clean.lastFails index result found unread
  · rw [List.getElem?_append_right fresh, AsyncReader.answer] at found
    cases place : state.reader.readLoop with
    | reading path =>
        rw [place] at found
        dsimp only at found
        rw [List.getElem?_singleton] at found
        split at found
        · rename_i atEnd
          cases found
          have last := allowed path place unread
          omega
        · cases found
    | waiting =>
        rw [place] at found
        cases found
    | sending result =>
        rw [place] at found
        cases found
    | stopped =>
        rw [place] at found
        cases found

theorem Accounted.thread {call : ReaderCall} {own : List ReadResult} {state : Streaming}
    {bytes : Option Bytes} {reader : AsyncReader} (accounted : call.Accounted own state)
    (serving : state.reader.Serving)
    (taken : state.reader.ioUringReadLoop bytes = some reader) :
    call.Accounted (own ++ state.reader.answer bytes) { state with reader := reader } := by
  obtain ⟨readFrom, readTo⟩ := serving.moves taken
  rw [Accounted] at accounted ⊢
  dsimp only
  cases phase : state.phase with
  | submitting rest =>
      rw [phase] at accounted
      obtain ⟨noneShipped, held, asked⟩ := accounted
      refine ⟨noneShipped, ?_, ?_⟩
      · rw [readTo, held]
      · rw [← asked, readFrom, List.map_append, List.append_assoc, List.append_assoc]
  | receiving remaining fileData totalBytes =>
      rw [phase] at accounted
      obtain ⟨noneShipped, asked, gathered, held, counts, gathers⟩ := accounted
      refine ⟨noneShipped, ?_, gathered, ?_, counts, gathers⟩
      · rw [← asked, readFrom, List.map_append, List.append_assoc]
      · rw [readTo, held, List.append_assoc]
  | shipping blocks totalBytes =>
      rw [phase] at accounted
      obtain ⟨settled, packed⟩ := accounted
      obtain ⟨stillSettled, noAnswer⟩ := settled.thread serving taken
      rw [noAnswer, List.append_nil]
      exact ⟨stillSettled, packed⟩
  | returned outcome =>
      rw [phase] at accounted
      obtain ⟨settled, dispatches⟩ := accounted
      obtain ⟨stillSettled, noAnswer⟩ := settled.thread serving taken
      rw [noAnswer, List.append_nil]
      rw [Dispatches, phase] at dispatches
      exact ⟨stillSettled, dispatches⟩

theorem Clean.thread {call : ReaderCall} {own : List ReadResult} {state : Streaming}
    {bytes : Option Bytes} {reader : AsyncReader} (clean : call.Clean own state)
    (taken : state.reader.ioUringReadLoop bytes = some reader)
    (allowed : ∀ path, state.reader.readLoop = .reading path → bytes = none →
      own.length + 1 = call.paths.length) :
    call.Clean (own ++ state.reader.answer bytes) { state with reader := reader } where
  rooted := clean.rooted
  counted := clean.counted
  serving := (clean.serving.ioUringReadLoop taken).1
  lastFails := fun _ _ found unread => clean.lastFails_thread allowed found unread
  accounted := clean.accounted.thread clean.serving taken

/-- Once as many results are taken as files were asked for, nothing is on its
way. -/
theorem settled_of_taken {call : ReaderCall} {own taken : List ReadResult} {reader : AsyncReader}
    (held : own = taken ++ reader.undelivered)
    (asked : own.map ReadResult.path ++ reader.toRead = call.paths)
    (all : call.paths.length ≤ taken.length) : reader.Settled := by
  have lengths := congrArg List.length asked
  rw [List.length_append, List.length_map, held, List.length_append] at lengths
  constructor
  · apply List.eq_nil_of_length_eq_zero
    omega
  · apply List.eq_nil_of_length_eq_zero
    omega

theorem dispatches_of_error {call : ReaderCall} {own : List ReadResult} {state : Streaming}
    {error : ReaderError} (phase : state.phase = .returned (.error error)) :
    call.Dispatches own state := by
  intro total returned
  rw [phase] at returned
  cases returned

theorem Clean.receive {call : ReaderCall} {own : List ReadResult} {state : Streaming}
    {remaining : Nat} {fileData : List (Path × Bytes)} {totalBytes : Nat} {result : ReadResult}
    {rest : BoundedChannel (QUEUE_DEPTH * 2) ReadResult} (clean : call.Clean own state)
    (phase : state.phase = .receiving (remaining + 1) fileData totalBytes)
    (received : state.reader.results.recv = some (result, rest)) :
    state.shipped = [] ∧ own.map ReadResult.path ++ state.reader.toRead = call.paths ∧
      ∃ taken,
        own = taken ++ result :: AsyncReader.undelivered { state.reader with results := rest } ∧
        taken.length + (remaining + 1) = call.paths.length ∧
        call.Gathers taken fileData totalBytes ∧ result.path ∈ call.paths := by
  have accounted := clean.accounted
  rw [Accounted, phase] at accounted
  obtain ⟨noneShipped, asked, taken, held, counts, gathers⟩ := accounted
  rw [AsyncReader.undelivered_recv received] at held
  refine ⟨noneShipped, asked, taken, held, counts, gathers, ?_⟩
  rw [← asked, held]
  apply List.mem_append_left
  apply List.mem_map_of_mem
  exact List.mem_append_right _ List.mem_cons_self

theorem Clean.receiveRead {call : ReaderCall} {own : List ReadResult} {state : Streaming}
    {remaining : Nat} {fileData : List (Path × Bytes)} {totalBytes : Nat} {result : ReadResult}
    {rest : BoundedChannel (QUEUE_DEPTH * 2) ReadResult} {label : ReadResult → Path}
    {bytes : Bytes} (clean : call.Clean own state)
    (named : ∀ result : ReadResult, result.path ∈ call.paths → label result = call.name result.path)
    (phase : state.phase = .receiving (remaining + 1) fileData totalBytes)
    (received : state.reader.results.recv = some (result, rest))
    (read : result.bytes = some bytes) :
    call.Clean own
      { state with
        reader := { state.reader with results := rest }
        phase := .receiving remaining (fileData ++ [(label result, bytes)])
          (totalBytes + bytes.length) } := by
  obtain ⟨noneShipped, asked, taken, held, counts, gathers, member⟩ := clean.receive phase received
  rw [List.append_cons] at held
  refine ⟨clean.rooted, clean.counted, ⟨clean.serving.running, clean.serving.reads⟩,
    clean.lastFails, noneShipped, asked, _, held, ?_, ?_⟩
  · rw [List.length_append, List.length_singleton]
    omega
  · rw [named _ member]
    exact gathers.snoc read

/-- A result that failed is that of the last file, so none is left behind it. -/
theorem Clean.receiveFailed {call : ReaderCall} {own : List ReadResult} {state : Streaming}
    {remaining : Nat} {fileData : List (Path × Bytes)} {totalBytes : Nat} {result : ReadResult}
    {rest : BoundedChannel (QUEUE_DEPTH * 2) ReadResult} (error : ReaderError)
    (clean : call.Clean own state)
    (phase : state.phase = .receiving (remaining + 1) fileData totalBytes)
    (received : state.reader.results.recv = some (result, rest))
    (unread : result.bytes = none) :
    call.Clean own
      { state with
        reader := { state.reader with results := rest }
        phase := .returned (.error error) } := by
  obtain ⟨noneShipped, asked, taken, held, counts, gathers, member⟩ := clean.receive phase received
  have found : own[taken.length]? = some result := by
    rw [held, List.getElem?_append_right (Nat.le_refl _), Nat.sub_self]
    rfl
  have last := clean.lastFails _ _ found unread
  rw [List.append_cons] at held
  refine ⟨clean.rooted, clean.counted, ⟨clean.serving.running, clean.serving.reads⟩,
    clean.lastFails, settled_of_taken held asked ?_, dispatches_of_error rfl⟩
  rw [List.length_append, List.length_singleton]
  omega

theorem Clean.pack {call : ReaderCall} {own : List ReadResult} {state : Streaming}
    {fileData : List (Path × Bytes)} {totalBytes : Nat} (clean : call.Clean own state)
    (phase : state.phase = .receiving 0 fileData totalBytes) :
    call.Clean own { state with phase := .shipping (Packer.packFiles fileData) totalBytes } := by
  have accounted := clean.accounted
  rw [Accounted, phase] at accounted
  obtain ⟨noneShipped, asked, taken, held, counts, gathers⟩ := accounted
  have settled := settled_of_taken held asked (Nat.le_of_eq counts.symm)
  rw [settled.allTaken, List.append_nil] at held
  rw [settled.allRead, List.append_nil] at asked
  refine ⟨clean.rooted, clean.counted, clean.serving, clean.lastFails, settled, asked,
    fileData, ?_, ?_⟩
  · rw [held]
    exact gathers
  · dsimp only
    rw [noneShipped, List.nil_append]

theorem Clean.caller {call : ReaderCall} {own : List ReadResult} {state next : Streaming}
    {senderOpen : Bool} (clean : call.Clean own state)
    (taken : call.callerStep senderOpen state = some next) : call.Clean own next := by
  obtain ⟨label, blamed, named, callStep⟩ := exists_callStep clean.rooted taken
  have ⟨rooted, counted, serving, lastFails, accounted⟩ := clean
  rw [Accounted] at accounted
  cases callStep with
  | submits phase sent =>
      rw [phase] at accounted
      obtain ⟨noneShipped, held, asked⟩ := accounted
      refine ⟨rooted, counted, serving.send sent, lastFails, noneShipped, held, ?_⟩
      dsimp only
      rw [AsyncReader.toRead_send sent, List.append_assoc]
      exact asked
  | turns phase =>
      rw [phase] at accounted
      obtain ⟨noneShipped, held, asked⟩ := accounted
      rw [List.append_nil] at asked
      refine ⟨rooted, counted, serving, lastFails, noneShipped, asked, [], held, ?_, rfl, rfl⟩
      rw [List.length_nil, Nat.zero_add]
      exact counted
  | receives phase received read => exact clean.receiveRead named phase received read
  | fails phase received unread => exact clean.receiveFailed _ phase received unread
  | packs phase => exact clean.pack phase
  | ships phase =>
      rw [phase] at accounted
      obtain ⟨settled, asked, fileData, gathers, packed⟩ := accounted
      refine ⟨rooted, counted, serving, lastFails, settled, asked, fileData, gathers, ?_⟩
      dsimp only
      rw [List.append_assoc]
      exact packed
  | finishes phase =>
      rw [phase] at accounted
      obtain ⟨settled, asked, fileData, gathers, packed⟩ := accounted
      refine ⟨rooted, counted, serving, lastFails, settled, ?_⟩
      intro total returned
      cases returned
      rw [List.map_nil, List.append_nil] at packed
      exact ⟨asked, fileData, gathers, packed⟩
  | loses phase =>
      rw [phase] at accounted
      exact ⟨rooted, counted, serving, lastFails, accounted.1, dispatches_of_error rfl⟩
  | findsClosed phase dead => exact absurd dead serving.running
  | findsDead phase drained dead => exact absurd dead serving.running

theorem Clean.settled {call : ReaderCall} {own : List ReadResult} {state : Streaming}
    {outcome : Except ReaderError Nat} (clean : call.Clean own state)
    (phase : state.phase = .returned outcome) : state.reader.Settled := by
  have accounted := clean.accounted
  rw [Accounted, phase] at accounted
  exact accounted.1

theorem Clean.dispatches {call : ReaderCall} {own : List ReadResult} {state : Streaming}
    (clean : call.Clean own state) : call.Dispatches own state := by
  intro total phase
  have accounted := clean.accounted
  rw [Accounted, phase] at accounted
  exact accounted.2 total phase

end ReaderCall

/-! ### Runs of several calls -/

namespace ReaderRun

/-- Everything the earlier calls asked for was read and taken by them. -/
structure Clean (run : ReaderRun) : Prop where
  begun : run.begun ≤ run.answered.length
  call : run.call.Clean run.own run.streaming

theorem clean_start (call : ReaderCall) : Clean (start call) where
  begun := Nat.le_refl 0
  call := call.clean_start AsyncReader.serving_new ⟨rfl, rfl⟩

theorem Clean.step {run : ReaderRun} {action : ReaderAction}
    (allowed : run.ReadsAllButLast action) (clean : run.Clean) : Clean (run.step action) := by
  cases action with
  | caller senderOpen =>
      rw [ReaderRun.step]
      cases taken : run.call.callerStep senderOpen run.streaming with
      | none => exact clean
      | some streaming => exact ⟨clean.begun, clean.call.caller taken⟩
  | thread bytes =>
      rw [ReaderRun.step]
      cases taken : run.streaming.reader.ioUringReadLoop bytes with
      | none => exact clean
      | some reader =>
          have lastOnly : ∀ path, run.streaming.reader.readLoop = .reading path → bytes = none →
              run.own.length + 1 = run.call.paths.length := by
            intro path place failed
            subst failed
            have last := allowed path place
            have first := clean.begun
            rw [own, List.length_drop]
            omega
          constructor
          · dsimp only
            rw [List.length_append]
            exact Nat.le_add_right_of_le clean.begun
          · dsimp only [own]
            rw [List.drop_append_of_le_length clean.begun]
            exact clean.call.thread taken lastOnly
  | next call =>
      rw [ReaderRun.step]
      split
      · rename_i outcome phase
        have settled := clean.call.settled phase
        rw [settled.allRead, List.length_nil, Nat.add_zero]
        constructor
        · exact Nat.le_refl _
        · dsimp only [own]
          rw [List.drop_length]
          exact call.clean_start clean.call.serving settled
      · exact clean

/-- While only the last file of a call may be unreadable, every call that succeeds
ships its own files, after any number of calls that fail. -/
theorem dispatchesOwn_of_readsAllButLast (first : ReaderCall) (actions : List ReaderAction)
    (readable : EachStep step ReadsAllButLast (start first) actions) :
    DispatchesOwn (actions.foldl step (start first)) := by
  have clean : Clean (actions.foldl step (start first)) :=
    readable.invariant (fun _ _ allowed clean => clean.step allowed) (clean_start first)
  exact clean.call.dispatches

/-- Two files of a directory and then a single one, with what the thread reads. -/
def threeReads (a b c : Option Bytes) : List ReaderAction :=
  [.caller true, .caller true, .caller true,
    .thread (some []), .thread a, .thread (some []), .caller true,
    .thread (some []), .thread b, .thread (some []), .caller true,
    .next (.readLargeFile (text "c")), .caller true, .caller true,
    .thread (some []), .thread c, .thread (some []),
    .caller true, .caller true, .caller true, .caller true]

def threeReadsRun (a b c : Option Bytes) : ReaderRun :=
  (threeReads a b c).foldl step (start (.streamDirectory (text "d") [text "d/a", text "d/b"]))

theorem dispatchesOwn_after_last_failed :
    (threeReadsRun (some [1]) none (some [3])).streaming.phase = .returned (.ok 1) ∧
      (threeReadsRun (some [1]) none (some [3])).DispatchesOwn := by
  refine ⟨rfl, dispatchesOwn_of_readsAllButLast _ _ ?_⟩
  exact ⟨trivial, trivial, trivial, trivial, trivial, trivial, trivial, trivial,
    fun _ _ => rfl, trivial, trivial, trivial, trivial, trivial, trivial, trivial, trivial,
    trivial, trivial, trivial, trivial, trivial⟩

/-- The directory call fails at its first file and leaves the second one behind,
which then is shipped as the file `c`. -/
theorem readLargeFile_ships_left_result :
    (threeReadsRun none (some [2]) (some [3])).own =
        [{ path := text "c", bytes := some [3] }] ∧
      (threeReadsRun none (some [2]) (some [3])).streaming.shipped =
        (Packer.packFiles [(text "c", [2])]).map PackBlock.data ∧
      ¬ (threeReadsRun none (some [2]) (some [3])).DispatchesOwn := by
  have read : (threeReadsRun none (some [2]) (some [3])).own =
      [{ path := text "c", bytes := some [3] }] := by
    decide +kernel
  have shipped : (threeReadsRun none (some [2]) (some [3])).streaming.shipped =
      (Packer.packFiles [(text "c", [2])]).map PackBlock.data := by
    decide +kernel
  refine ⟨read, shipped, ?_⟩
  intro dispatches
  obtain ⟨_, fileData, gathers, packed⟩ := dispatches 1 rfl
  have named : (threeReadsRun none (some [2]) (some [3])).call.name (text "c") = text "c" := by
    decide +kernel
  have onlyC : fileData = [(text "c", [3])] := by
    apply List.map_injective_iff.mpr (Option.some_injective _)
    rw [← gathers.1, read, List.map_singleton, List.map_singleton, named]
    rfl
  rw [shipped, onlyC] at packed
  exact absurd packed (by decide +kernel)

end ReaderRun

end Udpix.IoEngine

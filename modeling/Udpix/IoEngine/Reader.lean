/-
The sending side of the engine: the files of a directory are read by a thread of
their own and packed.

The caller first submits every path and only then takes the results, the thread
serves one request at a time, and both channels are bounded.  What reading a
file gives and whether the sender still listens are arguments of the steps.
-/

import Udpix.IoEngine.Packer
import Udpix.Library.BoundedChannel

namespace Udpix.IoEngine

open UnixPath Protocol

def QUEUE_DEPTH : Nat := 256

inductive ReadRequest where
  | readFile (path : Path)
  | shutdown
deriving DecidableEq

/-- `none` is a read error; the caller's error does not repeat its text. -/
structure ReadResult where
  path : Path
  bytes : Option Bytes
deriving DecidableEq

inductive ReaderError where
  | threadClosed
  | threadDied
  | readFailed (path : Path)
  | senderClosed
deriving DecidableEq

inductive ReadLoop where
  | waiting
  | reading (path : Path)
  | sending (result : ReadResult)
  | stopped
deriving DecidableEq

structure AsyncReader where
  requests : BoundedChannel (QUEUE_DEPTH * 2) ReadRequest
  readLoop : ReadLoop
  results : BoundedChannel (QUEUE_DEPTH * 2) ReadResult

namespace AsyncReader

def new : AsyncReader :=
  { requests := .empty
    readLoop := .waiting
    results := .empty }

/-- One step of the thread, `none` while it waits.  `bytes` is what the file
gives if the thread is reading one. -/
def ioUringReadLoop (bytes : Option Bytes) (reader : AsyncReader) : Option AsyncReader :=
  match reader.readLoop with
  | .waiting =>
      match reader.requests.recv with
      | none => none
      | some (.shutdown, rest) => some { reader with requests := rest, readLoop := .stopped }
      | some (.readFile path, rest) =>
          some { reader with requests := rest, readLoop := .reading path }
  | .reading path =>
      some { reader with readLoop := .sending { path := path, bytes := bytes } }
  | .sending result =>
      match reader.results.send result with
      | none => none
      | some filled => some { reader with results := filled, readLoop := .waiting }
  | .stopped => none

end AsyncReader

inductive StreamPhase where
  | submitting (rest : List Path)
  | receiving (remaining : Nat) (fileData : List (Path × Bytes)) (totalBytes : Nat)
  | shipping (blocks : List PackBlock) (totalBytes : Nat)
  | returned (outcome : Except ReaderError Nat)

/-- A reader during a call on the `n` paths found under `root`. -/
structure Streaming where
  reader : AsyncReader
  root : Path
  n : Nat
  phase : StreamPhase
  shipped : List Bytes

namespace Streaming

def start (root : Path) (filePaths : List Path) : Streaming :=
  { reader := .new
    root := root
    n := filePaths.length
    phase := .submitting filePaths
    shipped := [] }

/-- One step of the caller, `none` while it waits and once it has returned.  All
calls ask for some files, take as many results and ship them packed; `label` names
a file in the blocks and `blamed` names it in the error. -/
def callStep (label blamed : ReadResult → Path) (senderOpen : Bool) (state : Streaming) :
    Option Streaming :=
  match state.phase with
  | .submitting [] => some { state with phase := .receiving state.n [] 0 }
  | .submitting (path :: rest) =>
      if state.reader.readLoop = .stopped then
        some { state with phase := .returned (.error .threadClosed) }
      else
        match state.reader.requests.send (.readFile path) with
        | none => none
        | some filled =>
            some
              { state with
                reader := { state.reader with requests := filled }
                phase := .submitting rest }
  | .receiving 0 fileData totalBytes =>
      some { state with phase := .shipping (Packer.packFiles fileData) totalBytes }
  | .receiving (remaining + 1) fileData totalBytes =>
      match state.reader.results.recv with
      | none =>
          if state.reader.readLoop = .stopped then
            some { state with phase := .returned (.error .threadDied) }
          else none
      | some (result, rest) =>
          match result.bytes with
          | none =>
              some
                { state with
                  reader := { state.reader with results := rest }
                  phase := .returned (.error (.readFailed (blamed result))) }
          | some bytes =>
              some
                { state with
                  reader := { state.reader with results := rest }
                  phase := .receiving remaining (fileData ++ [(label result, bytes)])
                    (totalBytes + bytes.length) }
  | .shipping [] totalBytes => some { state with phase := .returned (.ok totalBytes) }
  | .shipping (block :: rest) totalBytes =>
      if senderOpen then
        some
          { state with
            phase := .shipping rest totalBytes
            shipped := state.shipped ++ [block.data] }
      else some { state with phase := .returned (.error .senderClosed) }
  | .returned _ => none

/-- One step of the caller for a directory: the blocks have relative paths. -/
def streamDirectory (senderOpen : Bool) (state : Streaming) : Option Streaming :=
  callStep (fun result => (stripPrefix result.path state.root).getD result.path) ReadResult.path
    senderOpen state

inductive Step (state : Streaming) : Streaming → Prop where
  | caller (senderOpen : Bool) {next : Streaming}
      (taken : streamDirectory senderOpen state = some next) : Step state next
  | thread (bytes : Option Bytes) {reader : AsyncReader}
      (taken : state.reader.ioUringReadLoop bytes = some reader) :
      Step state { state with reader := reader }

def Reachable (root : Path) (filePaths : List Path) (state : Streaming) : Prop :=
  Relation.ReflTransGen Step (start root filePaths) state

/-- The call runs and has not received its `n` results. -/
def AwaitsResults (state : Streaming) : Prop :=
  match state.phase with
  | .submitting _ => True
  | .receiving remaining _ _ => 0 < remaining
  | .shipping _ _ => False
  | .returned _ => False

/-- Results are still due, and neither party has a step. -/
def Deadlocked (state : Streaming) : Prop :=
  state.AwaitsResults ∧ (∀ senderOpen, streamDirectory senderOpen state = none) ∧
    ∀ bytes, state.reader.ioUringReadLoop bytes = none

end Streaming

/-! ### Every request is somewhere -/

namespace AsyncReader

def inHand (reader : AsyncReader) : Nat :=
  match reader.readLoop with
  | .reading _ => 1
  | .sending _ => 1
  | .waiting => 0
  | .stopped => 0

def outstanding (reader : AsyncReader) : Nat :=
  reader.requests.items.length + reader.inHand + reader.results.items.length

def threadWork (reader : AsyncReader) : Nat :=
  3 * reader.requests.items.length +
    match reader.readLoop with
    | .reading _ => 2
    | .sending _ => 1
    | .waiting => 0
    | .stopped => 0

structure Serving (reader : AsyncReader) : Prop where
  running : reader.readLoop ≠ .stopped
  reads : ∀ request, request ∈ reader.requests.items → ∃ path, request = .readFile path

theorem serving_new : Serving new where
  running := by
    intro impossible
    cases impossible
  reads := by
    intro request member
    cases member

theorem Serving.send {reader : AsyncReader} {path : Path}
    {filled : BoundedChannel (QUEUE_DEPTH * 2) ReadRequest} (serving : reader.Serving)
    (sent : reader.requests.send (.readFile path) = some filled) :
    Serving { reader with requests := filled } where
  running := serving.running
  reads := by
    intro request member
    dsimp only at member
    rw [BoundedChannel.items_of_send sent] at member
    rcases List.mem_append.mp member with earlier | added
    · exact serving.reads request earlier
    · exact ⟨path, List.mem_singleton.mp added⟩

inductive ThreadStep (bytes : Option Bytes) (reader : AsyncReader) : AsyncReader → Prop where
  | stops {rest : BoundedChannel (QUEUE_DEPTH * 2) ReadRequest}
      (place : reader.readLoop = .waiting)
      (received : reader.requests.recv = some (.shutdown, rest)) :
      ThreadStep bytes reader { reader with requests := rest, readLoop := .stopped }
  | takes {path : Path} {rest : BoundedChannel (QUEUE_DEPTH * 2) ReadRequest}
      (place : reader.readLoop = .waiting)
      (received : reader.requests.recv = some (.readFile path, rest)) :
      ThreadStep bytes reader { reader with requests := rest, readLoop := .reading path }
  | reads {path : Path} (place : reader.readLoop = .reading path) :
      ThreadStep bytes reader
        { reader with readLoop := .sending { path := path, bytes := bytes } }
  | answers {result : ReadResult} {filled : BoundedChannel (QUEUE_DEPTH * 2) ReadResult}
      (place : reader.readLoop = .sending result)
      (sent : reader.results.send result = some filled) :
      ThreadStep bytes reader { reader with results := filled, readLoop := .waiting }

theorem threadStep_of_ioUringReadLoop {reader next : AsyncReader} {bytes : Option Bytes}
    (taken : reader.ioUringReadLoop bytes = some next) : ThreadStep bytes reader next := by
  unfold AsyncReader.ioUringReadLoop at taken
  cases place : reader.readLoop with
  | waiting =>
      rw [place] at taken
      dsimp only at taken
      cases received : reader.requests.recv with
      | none =>
          rw [received] at taken
          cases taken
      | some taking =>
          obtain ⟨request, rest⟩ := taking
          rw [received] at taken
          cases request with
          | readFile path =>
              cases taken
              exact .takes place received
          | shutdown =>
              cases taken
              exact .stops place received
  | reading path =>
      rw [place] at taken
      cases taken
      exact .reads place
  | sending result =>
      rw [place] at taken
      dsimp only at taken
      cases sent : reader.results.send result with
      | none =>
          rw [sent] at taken
          cases taken
      | some filled =>
          rw [sent] at taken
          cases taken
          exact .answers place sent
  | stopped =>
      rw [place] at taken
      cases taken

theorem Serving.ioUringReadLoop {reader next : AsyncReader} {bytes : Option Bytes}
    (serving : reader.Serving) (taken : reader.ioUringReadLoop bytes = some next) :
    next.Serving ∧ next.outstanding = reader.outstanding ∧
      next.threadWork < reader.threadWork := by
  obtain ⟨_, reads⟩ := serving
  unfold outstanding inHand threadWork
  cases threadStep_of_ioUringReadLoop taken with
  | stops place received =>
      rw [BoundedChannel.items_of_recv received] at reads
      obtain ⟨path, impossible⟩ := reads .shutdown List.mem_cons_self
      cases impossible
  | takes place received =>
      have held := BoundedChannel.items_of_recv received
      rw [place, held, List.length_cons]
      refine ⟨⟨?_, ?_⟩, ?_, ?_⟩
      · intro impossible
        cases impossible
      · intro other member
        rw [held] at reads
        exact reads other (List.mem_cons_of_mem _ member)
      · dsimp only
      · dsimp only
        omega
  | reads place =>
      rw [place]
      refine ⟨⟨?_, reads⟩, rfl, Nat.lt_succ_self _⟩
      intro impossible
      cases impossible
  | answers place sent =>
      rw [place]
      refine ⟨⟨?_, reads⟩, ?_, Nat.lt_succ_self _⟩
      · intro impossible
        cases impossible
      · dsimp only
        rw [BoundedChannel.items_of_send sent, List.length_append, List.length_singleton]
        omega

/-- A thread that serves waits only for a request or for room. -/
theorem Serving.waits {reader : AsyncReader} (serving : reader.Serving)
    (waits : ∀ bytes, reader.ioUringReadLoop bytes = none) :
    (reader.inHand = 0 ∧ reader.requests.items = []) ∨
      (reader.inHand = 1 ∧ reader.results.items.length = QUEUE_DEPTH * 2) := by
  have stuck := waits none
  unfold AsyncReader.ioUringReadLoop at stuck
  unfold inHand
  cases place : reader.readLoop with
  | waiting =>
      rw [place] at stuck
      dsimp only at stuck
      cases received : reader.requests.recv with
      | none => exact Or.inl ⟨rfl, BoundedChannel.items_of_recv_eq_none received⟩
      | some taking =>
          obtain ⟨request, rest⟩ := taking
          rw [received] at stuck
          cases request with
          | readFile path => cases stuck
          | shutdown => cases stuck
  | reading path =>
      rw [place] at stuck
      cases stuck
  | sending result =>
      rw [place] at stuck
      dsimp only at stuck
      cases sent : reader.results.send result with
      | none => exact Or.inr ⟨rfl, BoundedChannel.full_of_send_eq_none sent⟩
      | some filled =>
          rw [sent] at stuck
          cases stuck
  | stopped => exact absurd place serving.running

end AsyncReader

namespace Streaming

/-- Before the results are all taken, a file is still to be submitted, or in a
channel, or in the hand of the thread. -/
structure Sound (count : Nat) (state : Streaming) : Prop where
  counted : state.n = count
  serving : state.reader.Serving
  balanced :
    match state.phase with
    | .submitting rest => rest.length + state.reader.outstanding = count
    | .receiving remaining _ _ => state.reader.outstanding = remaining
    | .shipping _ _ => True
    | .returned _ => True

theorem sound_start (root : Path) (filePaths : List Path) :
    Sound filePaths.length (start root filePaths) where
  counted := rfl
  serving := AsyncReader.serving_new
  balanced := rfl

theorem Sound.thread {count : Nat} {state : Streaming} {reader : AsyncReader}
    {bytes : Option Bytes} (sound : Sound count state)
    (taken : state.reader.ioUringReadLoop bytes = some reader) :
    Sound count { state with reader := reader } := by
  obtain ⟨counted, serving, balanced⟩ := sound
  obtain ⟨stillServing, sameOutstanding, _⟩ := serving.ioUringReadLoop taken
  refine ⟨counted, stillServing, ?_⟩
  dsimp only
  rw [sameOutstanding]
  exact balanced

theorem Sound.submit {count : Nat} {state : Streaming} {path : Path} {rest : List Path}
    {filled : BoundedChannel (QUEUE_DEPTH * 2) ReadRequest} (sound : Sound count state)
    (phase : state.phase = .submitting (path :: rest))
    (sent : state.reader.requests.send (.readFile path) = some filled) :
    Sound count
      { state with
        reader := { state.reader with requests := filled }
        phase := .submitting rest } := by
  obtain ⟨counted, serving, balanced⟩ := sound
  refine ⟨counted, serving.send sent, ?_⟩
  rw [phase] at balanced
  dsimp only [AsyncReader.outstanding, AsyncReader.inHand] at balanced ⊢
  rw [List.length_cons] at balanced
  rw [BoundedChannel.items_of_send sent, List.length_append, List.length_singleton]
  omega

theorem Sound.receive {count remaining : Nat} {state : Streaming}
    {fileData : List (Path × Bytes)} {totalBytes : Nat} {result : ReadResult}
    {rest : BoundedChannel (QUEUE_DEPTH * 2) ReadResult} (sound : Sound count state)
    (phase : state.phase = .receiving (remaining + 1) fileData totalBytes)
    (received : state.reader.results.recv = some (result, rest)) :
    AsyncReader.Serving { state.reader with results := rest } ∧
      AsyncReader.outstanding { state.reader with results := rest } = remaining := by
  obtain ⟨_, ⟨running, reads⟩, balanced⟩ := sound
  have held := BoundedChannel.items_of_recv received
  refine ⟨⟨running, reads⟩, ?_⟩
  rw [phase] at balanced
  dsimp only [AsyncReader.outstanding, AsyncReader.inHand] at balanced ⊢
  rw [held, List.length_cons] at balanced
  omega

inductive CallStep (label blamed : ReadResult → Path) (state : Streaming) :
    Streaming → Prop where
  | submits {path : Path} {rest : List Path}
      {filled : BoundedChannel (QUEUE_DEPTH * 2) ReadRequest}
      (phase : state.phase = .submitting (path :: rest))
      (sent : state.reader.requests.send (.readFile path) = some filled) :
      CallStep label blamed state
        { state with
          reader := { state.reader with requests := filled }
          phase := .submitting rest }
  | turns (phase : state.phase = .submitting []) :
      CallStep label blamed state { state with phase := .receiving state.n [] 0 }
  | receives {remaining : Nat} {fileData : List (Path × Bytes)} {totalBytes : Nat}
      {result : ReadResult} {rest : BoundedChannel (QUEUE_DEPTH * 2) ReadResult} {bytes : Bytes}
      (phase : state.phase = .receiving (remaining + 1) fileData totalBytes)
      (received : state.reader.results.recv = some (result, rest))
      (read : result.bytes = some bytes) :
      CallStep label blamed state
        { state with
          reader := { state.reader with results := rest }
          phase := .receiving remaining (fileData ++ [(label result, bytes)])
            (totalBytes + bytes.length) }
  | fails {remaining : Nat} {fileData : List (Path × Bytes)} {totalBytes : Nat}
      {result : ReadResult} {rest : BoundedChannel (QUEUE_DEPTH * 2) ReadResult}
      (phase : state.phase = .receiving (remaining + 1) fileData totalBytes)
      (received : state.reader.results.recv = some (result, rest))
      (unread : result.bytes = none) :
      CallStep label blamed state
        { state with
          reader := { state.reader with results := rest }
          phase := .returned (.error (.readFailed (blamed result))) }
  | packs {fileData : List (Path × Bytes)} {totalBytes : Nat}
      (phase : state.phase = .receiving 0 fileData totalBytes) :
      CallStep label blamed state
        { state with phase := .shipping (Packer.packFiles fileData) totalBytes }
  | ships {block : PackBlock} {rest : List PackBlock} {totalBytes : Nat}
      (phase : state.phase = .shipping (block :: rest) totalBytes) :
      CallStep label blamed state
        { state with
          phase := .shipping rest totalBytes
          shipped := state.shipped ++ [block.data] }
  | finishes {totalBytes : Nat} (phase : state.phase = .shipping [] totalBytes) :
      CallStep label blamed state { state with phase := .returned (.ok totalBytes) }
  | loses {block : PackBlock} {rest : List PackBlock} {totalBytes : Nat}
      (phase : state.phase = .shipping (block :: rest) totalBytes) :
      CallStep label blamed state { state with phase := .returned (.error .senderClosed) }
  | findsClosed {path : Path} {rest : List Path}
      (phase : state.phase = .submitting (path :: rest))
      (dead : state.reader.readLoop = .stopped) :
      CallStep label blamed state { state with phase := .returned (.error .threadClosed) }
  | findsDead {remaining : Nat} {fileData : List (Path × Bytes)} {totalBytes : Nat}
      (phase : state.phase = .receiving (remaining + 1) fileData totalBytes)
      (drained : state.reader.results.recv = none)
      (dead : state.reader.readLoop = .stopped) :
      CallStep label blamed state { state with phase := .returned (.error .threadDied) }

theorem callStep_cases {label blamed : ReadResult → Path} {state next : Streaming}
    {senderOpen : Bool} (taken : callStep label blamed senderOpen state = some next) :
    CallStep label blamed state next := by
  rw [callStep] at taken
  cases phase : state.phase with
  | submitting paths =>
      rw [phase] at taken
      cases paths with
      | nil =>
          cases taken
          exact .turns phase
      | cons path rest =>
          dsimp only at taken
          split at taken
          · rename_i dead
            cases taken
            exact .findsClosed phase dead
          · cases sent : state.reader.requests.send (.readFile path) with
            | none =>
                rw [sent] at taken
                cases taken
            | some filled =>
                rw [sent] at taken
                cases taken
                exact .submits phase sent
  | receiving remaining fileData totalBytes =>
      rw [phase] at taken
      cases remaining with
      | zero =>
          cases taken
          exact .packs phase
      | succ remaining =>
          dsimp only at taken
          cases received : state.reader.results.recv with
          | none =>
              rw [received] at taken
              dsimp only at taken
              split at taken
              · rename_i dead
                cases taken
                exact .findsDead phase received dead
              · cases taken
          | some taking =>
              obtain ⟨result, rest⟩ := taking
              rw [received] at taken
              dsimp only at taken
              cases read : result.bytes with
              | none =>
                  rw [read] at taken
                  cases taken
                  exact .fails phase received read
              | some bytes =>
                  rw [read] at taken
                  cases taken
                  exact .receives phase received read
  | shipping blocks totalBytes =>
      rw [phase] at taken
      cases blocks with
      | nil =>
          cases taken
          exact .finishes phase
      | cons block rest =>
          cases senderOpen with
          | false =>
              cases taken
              exact .loses phase
          | true =>
              cases taken
              exact .ships phase
  | returned outcome =>
      rw [phase] at taken
      cases taken

theorem Sound.caller {count : Nat} {state next : Streaming} {senderOpen : Bool}
    (sound : Sound count state) (taken : streamDirectory senderOpen state = some next) :
    Sound count next := by
  have counted := sound.counted
  have serving := sound.serving
  have balanced := sound.balanced
  cases callStep_cases taken with
  | submits phase sent => exact sound.submit phase sent
  | turns phase =>
      rw [phase] at balanced
      dsimp only at balanced
      rw [List.length_nil, Nat.zero_add] at balanced
      exact ⟨counted, serving, balanced.trans counted.symm⟩
  | receives phase received read =>
      obtain ⟨stillServing, nowOutstanding⟩ := sound.receive phase received
      exact ⟨counted, stillServing, nowOutstanding⟩
  | fails phase received unread =>
      exact ⟨counted, (sound.receive phase received).1, trivial⟩
  | packs phase => exact ⟨counted, serving, trivial⟩
  | ships phase => exact ⟨counted, serving, trivial⟩
  | finishes phase => exact ⟨counted, serving, trivial⟩
  | loses phase => exact ⟨counted, serving, trivial⟩
  | findsClosed phase dead => exact absurd dead serving.running
  | findsDead phase drained dead => exact absurd dead serving.running

theorem sound_of_reachable {root : Path} {filePaths : List Path} {state : Streaming}
    (reachable : Reachable root filePaths state) : Sound filePaths.length state := by
  unfold Reachable at reachable
  induction reachable with
  | refl => exact sound_start root filePaths
  | tail _ step ih =>
      cases step with
      | caller senderOpen taken => exact ih.caller taken
      | thread bytes taken => exact ih.thread taken

/-! ### Deadlock -/

/-- Both channels full and one result in the hand of the thread: what can be
outstanding at most. -/
theorem outstanding_le (reader : AsyncReader) : reader.outstanding ≤ 1025 := by
  have requestsFit : reader.requests.items.length ≤ 512 := reader.requests.bounded
  have resultsFit : reader.results.items.length ≤ 512 := reader.results.bounded
  have oneHand : reader.inHand ≤ 1 := by
    unfold AsyncReader.inHand
    cases reader.readLoop with
    | waiting => exact Nat.zero_le _
    | reading path => exact Nat.le_refl _
    | sending result => exact Nat.le_refl _
    | stopped => exact Nat.zero_le _
  unfold AsyncReader.outstanding
  omega

/-- A caller that waits for a running thread waits for room or for a result. -/
theorem caller_waits {state : Streaming} (running : state.reader.readLoop ≠ .stopped)
    (awaits : state.AwaitsResults) (waits : ∀ senderOpen, streamDirectory senderOpen state = none) :
    (∃ path rest, state.phase = .submitting (path :: rest) ∧
        state.reader.requests.items.length = QUEUE_DEPTH * 2) ∨
      ∃ remaining fileData totalBytes,
        state.phase = .receiving (remaining + 1) fileData totalBytes ∧
          state.reader.results.items = [] := by
  have stuck := waits true
  unfold streamDirectory callStep at stuck
  unfold AwaitsResults at awaits
  cases phase : state.phase with
  | submitting paths =>
      rw [phase] at stuck
      cases paths with
      | nil => cases stuck
      | cons path rest =>
          dsimp only at stuck
          rw [if_neg running] at stuck
          cases sent : state.reader.requests.send (.readFile path) with
          | none =>
              exact Or.inl ⟨path, rest, rfl, BoundedChannel.full_of_send_eq_none sent⟩
          | some filled =>
              rw [sent] at stuck
              cases stuck
  | receiving remaining fileData totalBytes =>
      rw [phase] at stuck
      cases remaining with
      | zero => cases stuck
      | succ remaining =>
          dsimp only at stuck
          cases received : state.reader.results.recv with
          | none =>
              exact Or.inr ⟨remaining, fileData, totalBytes, rfl,
                BoundedChannel.items_of_recv_eq_none received⟩
          | some taking =>
              obtain ⟨result, rest⟩ := taking
              rw [received] at stuck
              dsimp only at stuck
              cases read : result.bytes with
              | none =>
                  rw [read] at stuck
                  cases stuck
              | some bytes =>
                  rw [read] at stuck
                  cases stuck
  | shipping blocks totalBytes =>
      rw [phase] at awaits
      exact absurd awaits id
  | returned outcome =>
      rw [phase] at awaits
      exact absurd awaits id

theorem Sound.length_of_deadlocked {count : Nat} {state : Streaming} (sound : Sound count state)
    (deadlocked : state.Deadlocked) : 1025 < count := by
  obtain ⟨awaits, callerWaits, threadWaits⟩ := deadlocked
  have threadAt := sound.serving.waits threadWaits
  have balanced := sound.balanced
  unfold AsyncReader.outstanding at balanced
  rcases caller_waits sound.serving.running awaits callerWaits with
    ⟨path, rest, phase, full⟩ | ⟨remaining, fileData, totalBytes, phase, noResult⟩
  · rw [phase] at balanced
    dsimp only at balanced
    rw [List.length_cons, full] at balanced
    unfold QUEUE_DEPTH at threadAt full balanced
    -- A full channel has a request for a thread that waits for one.
    rcases threadAt with ⟨_, noRequest⟩ | ⟨holds, noRoom⟩
    · rw [noRequest] at full
      cases full
    · omega
  · rw [phase] at balanced
    dsimp only at balanced
    rw [noResult, List.length_nil] at balanced threadAt
    -- The result that is due would be in the channel or on its way.
    rcases threadAt with ⟨idle, noRequest⟩ | ⟨_, noRoom⟩
    · rw [noRequest, List.length_nil] at balanced
      omega
    · cases noRoom

/-- While it submits, a caller with more files than can be outstanding either
has a step or is deadlocked with the thread. -/
theorem Sound.submitting_moves {count : Nat} {state : Streaming} {paths : List Path}
    (sound : Sound count state) (phase : state.phase = .submitting paths)
    (many : 1025 < count) :
    state.Deadlocked ∨
      ∃ next rest, Step state next ∧ Sound count next ∧ next.phase = .submitting rest ∧
        4 * rest.length + next.reader.threadWork <
          4 * paths.length + state.reader.threadWork := by
  have balanced := sound.balanced
  rw [phase] at balanced
  dsimp only at balanced
  have fits := outstanding_le state.reader
  cases paths with
  | nil =>
      rw [List.length_nil] at balanced
      omega
  | cons path rest =>
      by_cases threadWaits : ∀ bytes, state.reader.ioUringReadLoop bytes = none
      · cases sent : state.reader.requests.send (.readFile path) with
        | none =>
            refine Or.inl ⟨?_, ?_, threadWaits⟩
            · unfold AwaitsResults
              rw [phase]
              trivial
            · intro senderOpen
              unfold streamDirectory callStep
              rw [phase]
              dsimp only
              rw [if_neg sound.serving.running, sent]
        | some filled =>
            have held := BoundedChannel.items_of_send sent
            refine Or.inr ⟨_, rest, .caller true ?_, sound.submit phase sent, rfl, ?_⟩
            · unfold streamDirectory callStep
              rw [phase]
              dsimp only
              rw [if_neg sound.serving.running, sent]
            · dsimp only [AsyncReader.threadWork]
              rw [held, List.length_append, List.length_singleton, List.length_cons]
              omega
      · obtain ⟨bytes, goesOn⟩ := not_forall.mp threadWaits
        obtain ⟨reader, taken⟩ := Option.ne_none_iff_exists'.mp goesOn
        have less := (sound.serving.ioUringReadLoop taken).2.2
        refine Or.inr ⟨_, path :: rest, .thread bytes taken, sound.thread taken, phase, ?_⟩
        dsimp only
        omega

def submitWork (state : Streaming) : Nat :=
  match state.phase with
  | .submitting rest => 4 * rest.length + state.reader.threadWork
  | _ => 0

theorem exists_deadlocked (root : Path) (filePaths : List Path)
    (many : 1025 < filePaths.length) :
    ∃ state, Reachable root filePaths state ∧ state.Deadlocked := by
  have moves : ∀ state : Streaming,
      (Sound filePaths.length state ∧ ∃ rest, state.phase = .submitting rest) →
      state.Deadlocked ∨ ∃ next, Step state next ∧
        (Sound filePaths.length next ∧ ∃ rest, next.phase = .submitting rest) ∧
        submitWork next < submitWork state := by
    intro state holds
    obtain ⟨sound, paths, phase⟩ := holds
    rcases sound.submitting_moves phase many with
      deadlocked | ⟨next, rest, step, nextSound, nextPhase, less⟩
    · exact Or.inl deadlocked
    · refine Or.inr ⟨next, step, ⟨nextSound, rest, nextPhase⟩, ?_⟩
      unfold submitWork
      rw [phase, nextPhase]
      exact less
  exact exists_stuck_of_work submitWork moves (start root filePaths)
    ⟨sound_start root filePaths, filePaths, rfl⟩

/-- The caller and the thread never wait for each other exactly on directories
of at most 1025 files: two channels of 512 and the result in the thread's
hand. -/
theorem streamDirectory_deadlockFree_iff (root : Path) (filePaths : List Path) :
    (∀ state, Reachable root filePaths state → ¬ state.Deadlocked) ↔
      filePaths.length ≤ 1025 := by
  constructor
  · intro free
    apply Nat.le_of_not_lt
    intro many
    obtain ⟨state, reachable, deadlocked⟩ := exists_deadlocked root filePaths many
    exact free state reachable deadlocked
  · intro few state reachable deadlocked
    have many := (sound_of_reachable reachable).length_of_deadlocked deadlocked
    omega

def numberedFiles (count : Nat) : List Path :=
  (List.range count).map (fun index => text "d/f" ++ text (toString index))

theorem numberedFiles_deadlock :
    ∃ state, Reachable (text "d") (numberedFiles 1026) state ∧ state.Deadlocked := by
  apply exists_deadlocked
  unfold numberedFiles
  rw [List.length_map, List.length_range]
  decide

end Streaming

end Udpix.IoEngine

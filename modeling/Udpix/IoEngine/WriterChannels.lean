/-
The receiving side and its disk thread as two parties.

The caller hands complete files to the thread, counts the write as in flight,
and takes whatever results are ready after every entry; the thread serves one
request at a time.  Both channels are bounded.  A send and the count after it
are separate steps; taking a result and its count are one, since nothing waits
between them.
-/

import Udpix.IoEngine.Delivery
import Udpix.Library.BoundedChannel

namespace Udpix.IoEngine

open UnixPath Protocol

def WRITE_QUEUE_DEPTH : Nat := 128

inductive WriteLoop where
  | waiting
  | writing (request : WriteRequest)
  | answering (result : WriteResult)
  | stopped
deriving DecidableEq

/-- The thread with its two channels, and the writes it completed. -/
structure DiskThread where
  requests : BoundedChannel (WRITE_QUEUE_DEPTH * 2) (Option WriteRequest)
  writeLoop : WriteLoop
  results : BoundedChannel (WRITE_QUEUE_DEPTH * 2) WriteResult
  written : List WriteRequest

namespace DiskThread

def new : DiskThread :=
  { requests := .empty
    writeLoop := .waiting
    results := .empty
    written := [] }

/-- One step of the thread, `none` while it waits.  `succeeded` is what writing
the file gives if the thread is writing one; an empty message asks to stop. -/
def ioUringWriteLoop (succeeded : Bool) (thread : DiskThread) : Option DiskThread :=
  match thread.writeLoop with
  | .waiting =>
      match thread.requests.recv with
      | none => none
      | some (none, rest) => some { thread with requests := rest, writeLoop := .stopped }
      | some (some request, rest) =>
          some { thread with requests := rest, writeLoop := .writing request }
  | .writing request =>
      some
        { thread with
          writeLoop := .answering { absPath := request.absPath, succeeded := succeeded }
          written := if succeeded then thread.written ++ [request] else thread.written }
  | .answering result =>
      match thread.results.send result with
      | none => none
      | some filled => some { thread with results := filled, writeLoop := .waiting }
  | .stopped => none

end DiskThread

inductive WritePhase where
  | receiving (chunks : List Bytes)
  | unpacked (entries : List (FileEntry × Bytes)) (chunks : List Bytes)
  | creating (request : WriteRequest) (entries : List (FileEntry × Bytes)) (chunks : List Bytes)
  | sending (request : WriteRequest) (entries : List (FileEntry × Bytes)) (chunks : List Bytes)
  | counting (entries : List (FileEntry × Bytes)) (chunks : List Bytes)
  | reaping (entries : List (FileEntry × Bytes)) (chunks : List Bytes)
  | draining
  | returned (outcome : Except (Fault WriterError) Nat)

/-- A writer during a call, with the requests it has sent. -/
structure Writing where
  thread : DiskThread
  outputDir : Path
  partialFiles : AssocMap (List Component) PartialFile
  inFlight : Nat
  totalBytes : Nat
  submitted : List WriteRequest
  phase : WritePhase

namespace Writing

def start (outputDir : Path) (chunks : List Bytes) : Writing :=
  { thread := .new
    outputDir := outputDir
    partialFiles := ∅
    inFlight := 0
    totalBytes := 0
    submitted := []
    phase := .receiving chunks }

def fail (state : Writing) (reason : WriterError) : Writing :=
  { state with phase := .returned (.error (.error reason)) }

/-- One result taken out of the channel, on the way to `next`. -/
def takeResult (state : Writing) (result : WriteResult)
    (rest : BoundedChannel (WRITE_QUEUE_DEPTH * 2) WriteResult) : Writing :=
  let taken := { state with thread := { state.thread with results := rest } }
  if result.succeeded then { taken with inFlight := taken.inFlight - 1 }
  else taken.fail (.writeFailed result.absPath)

/-- One step of the caller, `none` while it waits and once it has returned.
`created` is what creating a directory gives if the caller is creating one. -/
def receiveAndWrite (overflowChecks created : Bool) (state : Writing) : Option Writing :=
  match state.phase with
  | .receiving [] => some { state with phase := .draining }
  | .receiving (chunk :: rest) =>
      match Packer.unpackEntries overflowChecks { id := 0, data := chunk } with
      | .error (.error reason) => some (state.fail (.unpack reason))
      | .error .panicked => some { state with phase := .returned (.error .panicked) }
      | .ok entries => some { state with phase := .unpacked entries rest }
  | .unpacked [] rest => some { state with phase := .receiving rest }
  | .unpacked (received :: entries) rest =>
      let (partialFiles, complete) :=
        AsyncWriter.acceptEntry state.partialFiles received.1 received.2
      match complete with
      | some bytes =>
          some
            { state with
              partialFiles := partialFiles
              totalBytes := state.totalBytes + bytes.length
              phase := .creating
                { absPath := join state.outputDir received.1.path, data := bytes } entries rest }
      | none =>
          some { state with partialFiles := partialFiles, phase := .reaping entries rest }
  | .creating request entries rest =>
      match parent request.absPath with
      | some dir =>
          if created then some { state with phase := .sending request entries rest }
          else some (state.fail (.createDirAll dir))
      | none => some { state with phase := .sending request entries rest }
  | .sending request entries rest =>
      if state.thread.writeLoop = .stopped then some (state.fail .threadClosed)
      else
        match state.thread.requests.send (some request) with
        | none => none
        | some filled =>
            some
              { state with
                thread := { state.thread with requests := filled }
                submitted := state.submitted ++ [request]
                phase := .counting entries rest }
  | .counting entries rest =>
      some { state with inFlight := state.inFlight + 1, phase := .reaping entries rest }
  | .reaping entries rest =>
      if state.inFlight = 0 then some { state with phase := .unpacked entries rest }
      else
        match state.thread.results.recv with
        | none =>
            if state.thread.writeLoop = .stopped then some (state.fail .threadDied)
            else some { state with phase := .unpacked entries rest }
        | some (result, left) => some (state.takeResult result left)
  | .draining =>
      if state.inFlight = 0 then some { state with phase := .returned (.ok state.totalBytes) }
      else
        match state.thread.results.recv with
        | none =>
            if state.thread.writeLoop = .stopped then some (state.fail .recvFailed) else none
        | some (result, left) => some (state.takeResult result left)
  | .returned _ => none

/-- A step of either party while the disk does what it is asked. -/
inductive Step (overflowChecks : Bool) (state : Writing) : Writing → Prop where
  | caller {next : Writing} (taken : receiveAndWrite overflowChecks true state = some next) :
      Step overflowChecks state next
  | thread {thread : DiskThread} (taken : state.thread.ioUringWriteLoop true = some thread) :
      Step overflowChecks state { state with thread := thread }

def Reachable (overflowChecks : Bool) (outputDir : Path) (chunks : List Bytes)
    (state : Writing) : Prop :=
  Relation.ReflTransGen (Step overflowChecks) (start outputDir chunks) state

/-- The call has not returned, and neither party has a step. -/
def Deadlocked (overflowChecks : Bool) (state : Writing) : Prop :=
  (∀ outcome, state.phase ≠ .returned outcome) ∧
    (∀ created, receiveAndWrite overflowChecks created state = none) ∧
    ∀ succeeded, state.thread.ioUringWriteLoop succeeded = none

end Writing

/-! ### Every write is somewhere -/

namespace DiskThread

def inHand (thread : DiskThread) : Nat :=
  match thread.writeLoop with
  | .writing _ => 1
  | .answering _ => 1
  | .waiting => 0
  | .stopped => 0

def unwritten (thread : DiskThread) : List WriteRequest :=
  match thread.writeLoop with
  | .writing request => [request]
  | _ => []

def outstanding (thread : DiskThread) : Nat :=
  thread.requests.items.length + thread.inHand + thread.results.items.length

/-- The thread runs, was not told to stop, and has written what it took. -/
structure Serving (submitted : List WriteRequest) (thread : DiskThread) : Prop where
  running : thread.writeLoop ≠ .stopped
  asked : ∃ waiting, thread.requests.items = waiting.map some ∧
    submitted = thread.written ++ thread.unwritten ++ waiting
  held : ∀ result, thread.writeLoop = .answering result → result.succeeded = true
  answered : ∀ result, result ∈ thread.results.items → result.succeeded = true

theorem serving_new : Serving [] new where
  running := WriteLoop.noConfusion
  asked := ⟨[], rfl, rfl⟩
  held := by
    intro result impossible
    cases impossible
  answered := by
    intro result member
    cases member

theorem Serving.ioUringWriteLoop {submitted : List WriteRequest} {thread next : DiskThread}
    (serving : thread.Serving submitted) (taken : thread.ioUringWriteLoop true = some next) :
    next.Serving submitted ∧ next.outstanding = thread.outstanding := by
  obtain ⟨running, ⟨waiting, queued, logged⟩, held, answered⟩ := serving
  unfold DiskThread.ioUringWriteLoop at taken
  cases place : thread.writeLoop with
  | waiting =>
      simp only [place] at taken
      simp only [unwritten, place] at logged
      cases received : thread.requests.recv with
      | none => simp only [received, reduceCtorEq] at taken
      | some taking =>
          obtain ⟨message, rest⟩ := taking
          have items := BoundedChannel.items_of_recv received
          -- the caller sends no empty message, so the head is a request
          cases waiting with
          | nil =>
              rw [queued] at items
              cases items
          | cons request waiting =>
              rw [queued, List.map_cons] at items
              obtain ⟨sameMessage, sameRest⟩ := List.cons.inj items
              subst sameMessage
              simp only [received, Option.some.injEq] at taken
              subst taken
              refine ⟨⟨WriteLoop.noConfusion, ⟨waiting, sameRest.symm, ?_⟩,
                (fun _ impossible => nomatch impossible), answered⟩, ?_⟩
              · rw [logged]
                simp [unwritten]
              · simp only [outstanding, inHand, place, BoundedChannel.items_of_recv received,
                  List.length_cons, Nat.add_zero]
  | writing request =>
      simp only [place, if_true, Option.some.injEq] at taken
      subst taken
      refine ⟨⟨WriteLoop.noConfusion, ⟨waiting, queued, ?_⟩, ?_, answered⟩, ?_⟩
      · rw [logged]
        simp only [unwritten, place, List.append_nil]
      · intro result same
        cases same
        rfl
      · simp only [outstanding, inHand, place]
  | answering result =>
      simp only [place] at taken
      cases sent : thread.results.send result with
      | none => simp only [sent, reduceCtorEq] at taken
      | some filled =>
          simp only [sent, Option.some.injEq] at taken
          subst taken
          have items := BoundedChannel.items_of_send sent
          refine ⟨⟨WriteLoop.noConfusion, ⟨waiting, queued, ?_⟩,
            (fun _ impossible => nomatch impossible), ?_⟩, ?_⟩
          · rw [logged]
            simp only [unwritten, place]
          · intro other member
            change other ∈ filled.items at member
            rw [items] at member
            rcases List.mem_append.mp member with earlier | added
            · exact answered other earlier
            · rw [List.mem_singleton.mp added]
              exact held result place
          · simp only [outstanding, inHand, place, items, List.length_append,
              List.length_singleton]
            omega
  | stopped => exact absurd place running

/-- A thread that serves waits only for a request or for room. -/
theorem Serving.waits {submitted : List WriteRequest} {thread : DiskThread}
    (serving : thread.Serving submitted)
    (waits : ∀ succeeded, thread.ioUringWriteLoop succeeded = none) :
    (thread.inHand = 0 ∧ thread.requests.items = []) ∨
      (thread.inHand = 1 ∧ thread.results.items.length = 256) := by
  have stuck := waits true
  unfold DiskThread.ioUringWriteLoop at stuck
  cases place : thread.writeLoop with
  | waiting =>
      simp only [place] at stuck
      cases received : thread.requests.recv with
      | none =>
          exact Or.inl ⟨by simp only [inHand, place],
            BoundedChannel.items_of_recv_eq_none received⟩
      | some taking =>
          obtain ⟨message, rest⟩ := taking
          cases message <;> simp only [received, reduceCtorEq] at stuck
  | writing request => simp only [place, reduceCtorEq] at stuck
  | answering result =>
      simp only [place] at stuck
      cases sent : thread.results.send result with
      | none =>
          exact Or.inr ⟨by simp only [inHand, place], BoundedChannel.full_of_send_eq_none sent⟩
      | some filled => simp only [sent, reduceCtorEq] at stuck
  | stopped => exact absurd place serving.running

/-- Room for the requests, and one in the hand: what can be outstanding once the
results are all taken. -/
theorem outstanding_le_of_no_results {thread : DiskThread} (taken : thread.results.items = []) :
    thread.outstanding ≤ 257 := by
  have fits : thread.requests.items.length ≤ 256 := thread.requests.bounded
  have oneHand : thread.inHand ≤ 1 := by
    unfold inHand
    cases thread.writeLoop <;> simp
  simp only [outstanding, taken, List.length_nil]
  omega

end DiskThread

/-! ### What the call keeps up -/

namespace WritePhase

/-- A write that was sent and not counted yet. -/
def uncounted : WritePhase → Nat
  | .counting _ _ => 1
  | _ => 0

/-- The caller is between two rounds of reaping, before its next send. -/
def beforeSend : WritePhase → Bool
  | .receiving _ => true
  | .unpacked _ _ => true
  | .creating _ _ _ => true
  | .sending _ _ _ => true
  | _ => false

def takesResults : WritePhase → Bool
  | .reaping _ _ => true
  | .draining => true
  | _ => false

theorem of_takesResults {phase : WritePhase} (takes : phase.takesResults = true) :
    phase.uncounted = 0 ∧ phase.beforeSend = false ∧ ∀ outcome, phase ≠ .returned outcome := by
  cases phase with
  | reaping entries rest => exact ⟨rfl, rfl, fun _ => WritePhase.noConfusion⟩
  | draining => exact ⟨rfl, rfl, fun _ => WritePhase.noConfusion⟩
  | _ => cases takes

def chunks : WritePhase → List Bytes
  | .receiving chunks => chunks
  | .unpacked _ chunks => chunks
  | .creating _ _ chunks => chunks
  | .sending _ _ chunks => chunks
  | .counting _ chunks => chunks
  | .reaping _ chunks => chunks
  | .draining => []
  | .returned _ => []

end WritePhase

namespace Writing

def Broken (overflowChecks : Bool) (chunk : Bytes) : Prop :=
  ∀ entries, Packer.unpackEntries overflowChecks { id := 0, data := chunk } ≠ .ok entries

/-- Writes in flight are where the channels and the thread have them; before a
send, the results were all taken since the last one. -/
structure Sound (overflowChecks : Bool) (chunks : List Bytes) (state : Writing) : Prop where
  serving : state.thread.Serving state.submitted
  counted : state.thread.outstanding = state.inFlight + state.phase.uncounted
  window : state.phase.beforeSend = true → state.thread.outstanding ≤ 257
  pending : ∀ chunk, chunk ∈ state.phase.chunks → chunk ∈ chunks
  finished : ∀ outcome, state.phase = .returned outcome →
    ((∃ total, outcome = .ok total) ∧ state.inFlight = 0) ∨
      ((∃ fault, outcome = .error fault) ∧ ∃ chunk, chunk ∈ chunks ∧ Broken overflowChecks chunk)

variable {overflowChecks : Bool} {chunks : List Bytes} {state next : Writing}

theorem sound_start (overflowChecks : Bool) (outputDir : Path) (chunks : List Bytes) :
    Sound overflowChecks chunks (start outputDir chunks) where
  serving := DiskThread.serving_new
  counted := rfl
  window := fun _ => Nat.zero_le 257
  pending := fun _ member => member
  finished := fun _ impossible => nomatch impossible

theorem Sound.thread {thread : DiskThread} (sound : Sound overflowChecks chunks state)
    (taken : state.thread.ioUringWriteLoop true = some thread) :
    Sound overflowChecks chunks { state with thread := thread } := by
  obtain ⟨serving, sameOutstanding⟩ := sound.serving.ioUringWriteLoop taken
  refine ⟨serving, ?_, ?_, sound.pending, sound.finished⟩
  · exact sameOutstanding.trans sound.counted
  · intro before
    exact sameOutstanding.symm ▸ sound.window before

theorem Sound.move (sound : Sound overflowChecks chunks state)
    (partialFiles : AssocMap (List Component) PartialFile) (totalBytes : Nat)
    (phase : WritePhase) (sameCount : phase.uncounted = state.phase.uncounted)
    (window : phase.beforeSend = true → state.thread.outstanding ≤ 257)
    (fewer : ∀ chunk, chunk ∈ phase.chunks → chunk ∈ state.phase.chunks)
    (running : ∀ outcome, phase ≠ .returned outcome) :
    Sound overflowChecks chunks
      { state with partialFiles := partialFiles, totalBytes := totalBytes, phase := phase } where
  serving := sound.serving
  counted := by
    rw [sameCount]
    exact sound.counted
  window := window
  pending := fun chunk member => sound.pending chunk (fewer chunk member)
  finished := fun outcome returned => absurd returned (running outcome)

theorem Sound.takeResult (sound : Sound overflowChecks chunks state) {result : WriteResult}
    {left : BoundedChannel (WRITE_QUEUE_DEPTH * 2) WriteResult}
    (takes : state.phase.takesResults = true)
    (received : state.thread.results.recv = some (result, left)) :
    Sound overflowChecks chunks (state.takeResult result left) := by
  obtain ⟨uncounted, later, running⟩ := WritePhase.of_takesResults takes
  have items := BoundedChannel.items_of_recv received
  have good : result.succeeded = true :=
    sound.serving.answered result (by rw [items]; exact List.mem_cons_self)
  have counted := sound.counted
  simp only [DiskThread.outstanding, items, List.length_cons, uncounted] at counted
  simp only [Writing.takeResult, good, if_true]
  refine ⟨?_, ?_, ?_, sound.pending, ?_⟩
  · refine ⟨sound.serving.running, sound.serving.asked, sound.serving.held, ?_⟩
    intro other member
    apply sound.serving.answered other
    rw [items]
    exact List.mem_cons_of_mem _ member
  · simp only [DiskThread.outstanding, uncounted]
    change _ + state.thread.inHand + _ = _
    omega
  · intro before
    rw [show state.phase.beforeSend = true from before] at later
    cases later
  · intro outcome returned
    exact absurd returned (running outcome)

theorem Sound.sends (sound : Sound overflowChecks chunks state) {request : WriteRequest}
    {entries : List (FileEntry × Bytes)} {rest : List Bytes}
    {filled : BoundedChannel (WRITE_QUEUE_DEPTH * 2) (Option WriteRequest)}
    (phase : state.phase = .sending request entries rest)
    (sent : state.thread.requests.send (some request) = some filled) :
    Sound overflowChecks chunks
      { state with
        thread := { state.thread with requests := filled }
        submitted := state.submitted ++ [request]
        phase := .counting entries rest } := by
  have items := BoundedChannel.items_of_send sent
  have counted := sound.counted
  have pending := sound.pending
  rw [phase] at counted pending
  refine ⟨?_, ?_, (fun impossible => nomatch impossible), pending,
    (fun _ impossible => nomatch impossible)⟩
  · obtain ⟨running, ⟨waiting, queued, logged⟩, held, answered⟩ := sound.serving
    refine ⟨running, ⟨waiting ++ [request], ?_, ?_⟩, held, answered⟩
    · change filled.items = _
      rw [items, queued, List.map_append, List.map_singleton]
    · rw [logged, List.append_assoc]
      rfl
  · simp only [DiskThread.outstanding, WritePhase.uncounted] at counted ⊢
    rw [items, List.length_append, List.length_singleton]
    change _ + state.thread.inHand + _ = _
    omega

/-- Ending a round of reaping leaves at most the requests and the thread's hand. -/
theorem Sound.stopsReaping (sound : Sound overflowChecks chunks state)
    {entries : List (FileEntry × Bytes)} {rest : List Bytes}
    (phase : state.phase = .reaping entries rest)
    (reaped : state.inFlight = 0 ∨ state.thread.results.items = []) :
    Sound overflowChecks chunks { state with phase := .unpacked entries rest } := by
  have counted := sound.counted
  rw [phase] at counted
  refine sound.move state.partialFiles state.totalBytes (.unpacked entries rest)
    (by rw [phase]; rfl) (fun _ => ?_) (by rw [phase]; exact fun _ member => member)
    (fun _ => WritePhase.noConfusion)
  rcases reaped with none | taken
  · rw [counted, none]
    exact Nat.zero_le 257
  · exact DiskThread.outstanding_le_of_no_results taken

inductive CallerStep (overflowChecks : Bool) (state : Writing) : Writing → Prop where
  | drains (phase : state.phase = .receiving []) :
      CallerStep overflowChecks state { state with phase := .draining }
  | unpacks {chunk : Bytes} {rest : List Bytes} {entries : List (FileEntry × Bytes)}
      (phase : state.phase = .receiving (chunk :: rest))
      (read : Packer.unpackEntries overflowChecks { id := 0, data := chunk } = .ok entries) :
      CallerStep overflowChecks state { state with phase := .unpacked entries rest }
  | rejects {chunk : Bytes} {rest : List Bytes} {fault : Fault WriterError}
      (phase : state.phase = .receiving (chunk :: rest))
      (broken : Broken overflowChecks chunk) :
      CallerStep overflowChecks state { state with phase := .returned (.error fault) }
  | turns {rest : List Bytes} (phase : state.phase = .unpacked [] rest) :
      CallerStep overflowChecks state { state with phase := .receiving rest }
  | completes {received : FileEntry × Bytes} {entries : List (FileEntry × Bytes)}
      {rest : List Bytes} {partialFiles : AssocMap (List Component) PartialFile} {bytes : Bytes}
      (phase : state.phase = .unpacked (received :: entries) rest)
      (accepted : AsyncWriter.acceptEntry state.partialFiles received.1 received.2 =
        (partialFiles, some bytes)) :
      CallerStep overflowChecks state
        { state with
          partialFiles := partialFiles
          totalBytes := state.totalBytes + bytes.length
          phase := .creating
            { absPath := join state.outputDir received.1.path, data := bytes } entries rest }
  | collects {received : FileEntry × Bytes} {entries : List (FileEntry × Bytes)}
      {rest : List Bytes} {partialFiles : AssocMap (List Component) PartialFile}
      (phase : state.phase = .unpacked (received :: entries) rest)
      (accepted : AsyncWriter.acceptEntry state.partialFiles received.1 received.2 =
        (partialFiles, none)) :
      CallerStep overflowChecks state
        { state with partialFiles := partialFiles, phase := .reaping entries rest }
  | creates {request : WriteRequest} {entries : List (FileEntry × Bytes)} {rest : List Bytes}
      (phase : state.phase = .creating request entries rest) :
      CallerStep overflowChecks state { state with phase := .sending request entries rest }
  | sends {request : WriteRequest} {entries : List (FileEntry × Bytes)} {rest : List Bytes}
      {filled : BoundedChannel (WRITE_QUEUE_DEPTH * 2) (Option WriteRequest)}
      (phase : state.phase = .sending request entries rest)
      (sent : state.thread.requests.send (some request) = some filled) :
      CallerStep overflowChecks state
        { state with
          thread := { state.thread with requests := filled }
          submitted := state.submitted ++ [request]
          phase := .counting entries rest }
  | counts {entries : List (FileEntry × Bytes)} {rest : List Bytes}
      (phase : state.phase = .counting entries rest) :
      CallerStep overflowChecks state
        { state with inFlight := state.inFlight + 1, phase := .reaping entries rest }
  | stopsReaping {entries : List (FileEntry × Bytes)} {rest : List Bytes}
      (phase : state.phase = .reaping entries rest)
      (reaped : state.inFlight = 0 ∨ state.thread.results.items = []) :
      CallerStep overflowChecks state { state with phase := .unpacked entries rest }
  | takes {result : WriteResult} {left : BoundedChannel (WRITE_QUEUE_DEPTH * 2) WriteResult}
      (takes : state.phase.takesResults = true)
      (received : state.thread.results.recv = some (result, left)) :
      CallerStep overflowChecks state (state.takeResult result left)
  | finishes (phase : state.phase = .draining) (none : state.inFlight = 0) :
      CallerStep overflowChecks state
        { state with phase := .returned (.ok state.totalBytes) }
  | findsStopped {reason : WriterError} (stopped : state.thread.writeLoop = .stopped) :
      CallerStep overflowChecks state (state.fail reason)

theorem callerStep_of_receiveAndWrite
    (taken : receiveAndWrite overflowChecks true state = some next) :
    CallerStep overflowChecks state next := by
  unfold receiveAndWrite at taken
  cases phase : state.phase with
  | receiving remaining =>
      simp only [phase] at taken
      cases remaining with
      | nil =>
          cases taken
          exact .drains phase
      | cons chunk rest =>
          cases read : Packer.unpackEntries overflowChecks { id := 0, data := chunk } with
          | ok entries =>
              simp only [read] at taken
              cases taken
              exact .unpacks phase read
          | error fault =>
              have broken : Broken overflowChecks chunk := by
                intro entries ok
                rw [read] at ok
                cases ok
              cases fault <;> simp only [read] at taken <;> cases taken <;>
                exact .rejects phase broken
  | unpacked entries rest =>
      simp only [phase] at taken
      cases entries with
      | nil =>
          cases taken
          exact .turns phase
      | cons received entries =>
          obtain ⟨⟨partialFiles, complete⟩, accepted⟩ : ∃ outcome,
            AsyncWriter.acceptEntry state.partialFiles received.1 received.2 = outcome := ⟨_, rfl⟩
          simp only [accepted] at taken
          cases complete with
          | some bytes =>
              cases taken
              exact .completes phase accepted
          | none =>
              cases taken
              exact .collects phase accepted
  | creating request entries rest =>
      simp only [phase, if_true] at taken
      split at taken <;> cases taken <;> exact .creates phase
  | sending request entries rest =>
      simp only [phase] at taken
      split at taken
      · rename_i stopped
        cases taken
        exact .findsStopped stopped
      · cases sent : state.thread.requests.send (some request) with
        | none => simp only [sent, reduceCtorEq] at taken
        | some filled =>
            simp only [sent] at taken
            cases taken
            exact .sends phase sent
  | counting entries rest =>
      simp only [phase] at taken
      cases taken
      exact .counts phase
  | reaping entries rest =>
      simp only [phase] at taken
      split at taken
      · rename_i none
        cases taken
        exact .stopsReaping phase (Or.inl none)
      · cases received : state.thread.results.recv with
        | none =>
            simp only [received] at taken
            split at taken
            · rename_i stopped
              cases taken
              exact .findsStopped stopped
            · cases taken
              exact .stopsReaping phase
                (Or.inr (BoundedChannel.items_of_recv_eq_none received))
        | some taking =>
            simp only [received] at taken
            cases taken
            exact .takes (by rw [phase]; rfl) received
  | draining =>
      simp only [phase] at taken
      split at taken
      · rename_i none
        cases taken
        exact .finishes phase none
      · cases received : state.thread.results.recv with
        | none =>
            simp only [received] at taken
            split at taken
            · rename_i stopped
              cases taken
              exact .findsStopped stopped
            · cases taken
        | some taking =>
            simp only [received] at taken
            cases taken
            exact .takes (by rw [phase]; rfl) received
  | returned outcome => simp only [phase, reduceCtorEq] at taken

theorem Sound.caller (sound : Sound overflowChecks chunks state)
    (taken : receiveAndWrite overflowChecks true state = some next) :
    Sound overflowChecks chunks next := by
  have counted := sound.counted
  have window := sound.window
  have pending := sound.pending
  cases callerStep_of_receiveAndWrite taken with
  | drains phase =>
      exact sound.move _ _ .draining (by rw [phase]; rfl) (fun impossible => nomatch impossible)
        (fun _ member => nomatch member) (fun _ => WritePhase.noConfusion)
  | unpacks phase read =>
      rw [phase] at window
      exact sound.move _ _ (.unpacked _ _) (by rw [phase]; rfl) (fun _ => window rfl)
        (by rw [phase]; exact fun _ member => List.mem_cons_of_mem _ member)
        (fun _ => WritePhase.noConfusion)
  | rejects phase broken =>
      rw [phase] at counted pending
      exact ⟨sound.serving, counted, (fun impossible => nomatch impossible),
        (fun _ member => nomatch member),
        (fun _ returned => Or.inr ⟨⟨_, (WritePhase.returned.inj returned).symm⟩,
          _, pending _ List.mem_cons_self, broken⟩)⟩
  | turns phase =>
      rw [phase] at window
      exact sound.move _ _ (.receiving _) (by rw [phase]; rfl) (fun _ => window rfl)
        (by rw [phase]; exact fun _ member => member) (fun _ => WritePhase.noConfusion)
  | completes phase accepted =>
      rw [phase] at window
      exact sound.move _ _ (.creating _ _ _) (by rw [phase]; rfl) (fun _ => window rfl)
        (by rw [phase]; exact fun _ member => member) (fun _ => WritePhase.noConfusion)
  | collects phase accepted =>
      exact sound.move _ _ (.reaping _ _) (by rw [phase]; rfl)
        (fun impossible => nomatch impossible)
        (by rw [phase]; exact fun _ member => member) (fun _ => WritePhase.noConfusion)
  | creates phase =>
      rw [phase] at window
      exact sound.move _ _ (.sending _ _ _) (by rw [phase]; rfl) (fun _ => window rfl)
        (by rw [phase]; exact fun _ member => member) (fun _ => WritePhase.noConfusion)
  | sends phase sent => exact sound.sends phase sent
  | counts phase =>
      rw [phase] at counted pending
      exact ⟨sound.serving, counted, (fun impossible => nomatch impossible), pending,
        (fun _ impossible => nomatch impossible)⟩
  | stopsReaping phase reaped => exact sound.stopsReaping phase reaped
  | takes collecting received => exact sound.takeResult collecting received
  | finishes phase none =>
      rw [phase] at counted
      exact ⟨sound.serving, counted, (fun impossible => nomatch impossible),
        (fun _ member => nomatch member),
        (fun _ returned => Or.inl ⟨⟨_, (WritePhase.returned.inj returned).symm⟩, none⟩)⟩
  | findsStopped stopped => exact absurd stopped sound.serving.running

theorem sound_of_reachable {outputDir : Path}
    (reachable : Reachable overflowChecks outputDir chunks state) :
    Sound overflowChecks chunks state := by
  unfold Reachable at reachable
  induction reachable with
  | refl => exact sound_start overflowChecks outputDir chunks
  | tail _ step ih =>
      cases step with
      | caller taken => exact ih.caller taken
      | thread taken => exact ih.thread taken

/-! ### No deadlock -/

theorem caller_waits (running : state.thread.writeLoop ≠ .stopped)
    (unfinished : ∀ outcome, state.phase ≠ .returned outcome)
    (waits : ∀ created, receiveAndWrite overflowChecks created state = none) :
    (state.phase.beforeSend = true ∧ state.thread.requests.items.length = 256) ∨
      (state.phase = .draining ∧ state.inFlight ≠ 0 ∧ state.thread.results.items = []) := by
  have stuck := waits true
  unfold receiveAndWrite at stuck
  cases phase : state.phase with
  | receiving remaining =>
      cases remaining with
      | nil => simp only [phase, reduceCtorEq] at stuck
      | cons chunk rest =>
          simp only [phase] at stuck
          split at stuck <;> cases stuck
  | unpacked entries rest =>
      cases entries with
      | nil => simp only [phase, reduceCtorEq] at stuck
      | cons received entries =>
          simp only [phase] at stuck
          split at stuck <;> cases stuck
  | creating request entries rest =>
      simp only [phase, if_true] at stuck
      split at stuck <;> cases stuck
  | sending request entries rest =>
      simp only [phase, running, if_false] at stuck
      cases sent : state.thread.requests.send (some request) with
      | none => exact Or.inl ⟨rfl, BoundedChannel.full_of_send_eq_none sent⟩
      | some filled => simp only [sent, reduceCtorEq] at stuck
  | counting entries rest => simp only [phase, reduceCtorEq] at stuck
  | reaping entries rest =>
      simp only [phase, running, if_false] at stuck
      split at stuck
      · cases stuck
      · split at stuck <;> cases stuck
  | draining =>
      simp only [phase, running, if_false] at stuck
      split at stuck
      · cases stuck
      · rename_i some
        split at stuck
        · rename_i received
          exact Or.inr ⟨rfl, some, BoundedChannel.items_of_recv_eq_none received⟩
        · cases stuck
  | returned outcome => exact absurd phase (unfinished outcome)

theorem Sound.not_deadlocked (sound : Sound overflowChecks chunks state) :
    ¬ state.Deadlocked overflowChecks := by
  rintro ⟨unfinished, callerWaits, threadWaits⟩
  have threadAt := sound.serving.waits threadWaits
  have counted := sound.counted
  rcases caller_waits sound.serving.running unfinished callerWaits with
    ⟨before, full⟩ | ⟨phase, inFlight, noResult⟩
  · -- with both channels full there would be twice as much outstanding as a send allows
    have window := sound.window before
    unfold DiskThread.outstanding at window
    rcases threadAt with ⟨_, noRequest⟩ | ⟨_, noRoom⟩
    · rw [noRequest] at full
      cases full
    · omega
  · -- a write in flight is a request for the thread or a result for the caller
    rw [phase] at counted
    simp only [DiskThread.outstanding, noResult, List.length_nil, WritePhase.uncounted] at counted
    rcases threadAt with ⟨idle, noRequest⟩ | ⟨_, noRoom⟩
    · rw [noRequest, List.length_nil] at counted
      omega
    · rw [noResult] at noRoom
      cases noRoom

/-- Once nothing is in flight, everything submitted was written. -/
theorem Sound.written_eq (sound : Sound overflowChecks chunks state)
    (none : state.inFlight + state.phase.uncounted = 0) :
    state.thread.written = state.submitted := by
  have counted := sound.counted
  obtain ⟨waiting, queued, logged⟩ := sound.serving.asked
  rw [none] at counted
  simp only [DiskThread.outstanding, queued, List.length_map] at counted
  have noWaiting : waiting = [] := List.length_eq_zero_iff.mp (by omega)
  have noHand : state.thread.unwritten = [] := by
    have idle : state.thread.inHand = 0 := by omega
    cases place : state.thread.writeLoop with
    | writing request => simp only [DiskThread.inHand, place, Nat.one_ne_zero] at idle
    | _ => simp only [DiskThread.unwritten, place]
  rw [logged, noWaiting, noHand, List.append_nil, List.append_nil]

/-- For all received chunks and all interleavings in which the disk does what it
is asked: the two parties never wait for each other, the writes in flight are
those queued, in the hand of the thread or answered, except between a send and
its count; and when the call returns, which it does with the total unless a
chunk is no block, every write it submitted has completed. -/
theorem receiveAndWrite_deadlockFree (overflowChecks : Bool) (outputDir : Path)
    (chunks : List Bytes) (state : Writing)
    (reachable : Reachable overflowChecks outputDir chunks state) :
    ¬ state.Deadlocked overflowChecks ∧
    ((∀ entries rest, state.phase ≠ .counting entries rest) →
      state.inFlight = state.thread.requests.items.length + state.thread.inHand +
        state.thread.results.items.length) ∧
    (∀ total, state.phase = .returned (.ok total) → state.thread.written = state.submitted) ∧
    ((∀ chunk, chunk ∈ chunks → ∃ entries,
        Packer.unpackEntries overflowChecks { id := 0, data := chunk } = .ok entries) →
      ∀ outcome, state.phase = .returned outcome →
        (∃ total, outcome = .ok total) ∧ state.thread.written = state.submitted) := by
  have sound := sound_of_reachable reachable
  have completed : ∀ total, state.phase = .returned (.ok total) →
      state.thread.written = state.submitted := by
    intro total returned
    rcases sound.finished _ returned with ⟨_, none⟩ | ⟨⟨_, impossible⟩, _⟩
    · exact sound.written_eq (by rw [none, returned]; rfl)
    · cases impossible
  refine ⟨sound.not_deadlocked, ?_, completed, ?_⟩
  · intro counted
    have balance := sound.counted
    have settled : state.phase.uncounted = 0 := by
      cases phase : state.phase with
      | counting entries rest => exact absurd phase (counted entries rest)
      | _ => rfl
    rw [settled, Nat.add_zero] at balance
    exact balance.symm
  · intro blocks outcome returned
    rcases sound.finished outcome returned with ⟨⟨total, ok⟩, _⟩ | ⟨_, chunk, member, broken⟩
    · rw [ok] at returned
      exact ⟨⟨total, ok⟩, completed total returned⟩
    · obtain ⟨entries, read⟩ := blocks chunk member
      exact absurd read (broken entries)

/-! ### The same requests as without the thread -/

open Assembly AsyncWriter

def entriesLeft (overflowChecks : Bool) : WritePhase → List (FileEntry × Bytes)
  | .receiving chunks => decodedEntries overflowChecks chunks
  | .unpacked entries chunks => entries ++ decodedEntries overflowChecks chunks
  | .creating _ entries chunks => entries ++ decodedEntries overflowChecks chunks
  | .sending _ entries chunks => entries ++ decodedEntries overflowChecks chunks
  | .counting entries chunks => entries ++ decodedEntries overflowChecks chunks
  | .reaping entries chunks => entries ++ decodedEntries overflowChecks chunks
  | .draining => []
  | .returned _ => []

def unsent : WritePhase → List WriteRequest
  | .creating request _ _ => [request]
  | .sending request _ _ => [request]
  | _ => []

/-- The requests are those of the assembly of the entries gone through. -/
def Assembles (overflowChecks : Bool) (outputDir : Path) (chunks : List Bytes)
    (state : Writing) : Prop :=
  state.outputDir = outputDir ∧
    ((∀ fault, state.phase ≠ .returned (.error fault)) →
      ∃ processed, decodedEntries overflowChecks chunks =
          processed ++ entriesLeft overflowChecks state.phase ∧
        state.partialFiles = (run processed).partialFiles ∧
        state.submitted ++ unsent state.phase =
          (run processed).completed.map (requestOf outputDir))

variable {outputDir : Path}

theorem Assembles.move (assembles : Assembles overflowChecks outputDir chunks state)
    (sameDir : next.outputDir = state.outputDir)
    (samePartials : next.partialFiles = state.partialFiles)
    (sameEntries : entriesLeft overflowChecks next.phase =
      entriesLeft overflowChecks state.phase)
    (sameRequests : next.submitted ++ unsent next.phase = state.submitted ++ unsent state.phase)
    (live : ∀ fault, state.phase ≠ .returned (.error fault)) :
    Assembles overflowChecks outputDir chunks next := by
  refine ⟨sameDir.trans assembles.1, fun _ => ?_⟩
  rw [sameEntries, samePartials, sameRequests]
  exact assembles.2 live

theorem Assembles.caller (assembles : Assembles overflowChecks outputDir chunks state)
    (taken : receiveAndWrite overflowChecks true state = some next) :
    Assembles overflowChecks outputDir chunks next := by
  have live : ∀ fault, state.phase ≠ .returned (.error fault) := by
    intro fault returned
    simp only [receiveAndWrite, returned, reduceCtorEq] at taken
  obtain ⟨sameDir, follows⟩ := assembles
  obtain ⟨processed, split, partials, requests⟩ := follows live
  have stays := @Assembles.move _ _ _ next _ ⟨sameDir, follows⟩
  cases callerStep_of_receiveAndWrite taken with
  | drains phase => exact stays rfl rfl (by rw [phase]; rfl) (by rw [phase]; rfl) live
  | unpacks phase read =>
      refine stays rfl rfl ?_ (by rw [phase]; rfl) live
      simp only [phase, entriesLeft, decodedEntries, read]
  | rejects phase broken => exact ⟨sameDir, fun fine => absurd rfl (fine _)⟩
  | turns phase => exact stays rfl rfl (by rw [phase]; rfl) (by rw [phase]; rfl) live
  | @completes received entries rest partialFiles bytes phase accepted =>
      rw [phase] at split requests
      rw [partials] at accepted
      obtain ⟨nextPartials, nextCompleted⟩ := run_absorb_some accepted
      refine ⟨sameDir, fun _ => ⟨processed ++ [received], ?_, nextPartials.symm, ?_⟩⟩
      · rw [split, List.append_assoc]
        rfl
      · rw [nextCompleted, List.map_append, ← requests, ← sameDir]
        simp only [unsent, List.append_nil, List.map_singleton]
        rfl
  | @collects received entries rest partialFiles phase accepted =>
      rw [phase] at split requests
      rw [partials] at accepted
      obtain ⟨nextPartials, nextCompleted⟩ := run_absorb_none accepted
      refine ⟨sameDir, fun _ => ⟨processed ++ [received], ?_, nextPartials.symm, ?_⟩⟩
      · rw [split, List.append_assoc]
        rfl
      · rw [nextCompleted, ← requests]
        rfl
  | creates phase => exact stays rfl rfl (by rw [phase]; rfl) (by rw [phase]; rfl) live
  | sends phase sent =>
      refine stays rfl rfl (by rw [phase]; rfl) ?_ live
      rw [phase]
      exact List.append_nil _
  | counts phase => exact stays rfl rfl (by rw [phase]; rfl) (by rw [phase]; rfl) live
  | stopsReaping phase reaped =>
      exact stays rfl rfl (by rw [phase]; rfl) (by rw [phase]; rfl) live
  | @takes result left collecting received =>
      cases good : result.succeeded with
      | true =>
          refine stays ?_ ?_ ?_ ?_ live <;> simp only [takeResult, good, if_true]
      | false =>
          refine ⟨?_, fun fine => ?_⟩
          · simp only [takeResult, good]
            exact sameDir
          · refine absurd ?_ (fine (.error (.writeFailed result.absPath)))
            simp only [takeResult, good]
            rfl
  | finishes phase none => exact stays rfl rfl (by rw [phase]; rfl) (by rw [phase]; rfl) live
  | findsStopped stopped => exact ⟨sameDir, fun fine => absurd rfl (fine _)⟩

theorem assembles_of_reachable (reachable : Reachable overflowChecks outputDir chunks state) :
    Assembles overflowChecks outputDir chunks state := by
  unfold Reachable at reachable
  induction reachable with
  | refl => exact ⟨rfl, fun _ => ⟨[], rfl, rfl, rfl⟩⟩
  | tail _ step ih =>
      cases step with
      | caller taken => exact ih.caller taken
      | thread taken => exact ih

/-- A call that returns its total has submitted what the sequential reading of
the code submits on a disk that does what it is asked. -/
theorem submitted_eq_of_returned (reachable : Reachable overflowChecks outputDir chunks state)
    (total : Nat) (returned : state.phase = .returned (.ok total)) {disk : Disk}
    (healthy : disk.Healthy) :
    state.submitted =
      (AsyncWriter.receiveAndWrite overflowChecks disk outputDir chunks).submitted := by
  obtain ⟨_, follows⟩ := assembles_of_reachable reachable
  obtain ⟨processed, split, _, requests⟩ :=
    follows (by rw [returned]; exact fun _ same => nomatch same)
  rw [returned] at split requests
  simp only [entriesLeft, unsent, List.append_nil] at split requests
  rw [receiveAndWrite_submitted_healthy healthy, split]
  exact requests

/-- Follow a schedule: `true` is a step of the caller, `false` of the thread. -/
def follow (overflowChecks : Bool) : List Bool → Writing → Option Writing
  | [], state => some state
  | true :: rest, state =>
      (receiveAndWrite overflowChecks true state).bind (follow overflowChecks rest)
  | false :: rest, state =>
      (state.thread.ioUringWriteLoop true).bind
        (fun thread => follow overflowChecks rest { state with thread := thread })

theorem reachable_of_follow (schedule : List Bool) {final : Writing}
    (followed : follow overflowChecks schedule state = some final) :
    Relation.ReflTransGen (Step overflowChecks) state final := by
  induction schedule generalizing state with
  | nil =>
      cases followed
      exact Relation.ReflTransGen.refl
  | cons turn rest ih =>
      cases turn with
      | true =>
          obtain ⟨next, taken, later⟩ := Option.bind_eq_some_iff.mp followed
          exact Relation.ReflTransGen.head (.caller taken) (ih later)
      | false =>
          obtain ⟨thread, taken, later⟩ := Option.bind_eq_some_iff.mp followed
          exact Relation.ReflTransGen.head (.thread taken) (ih later)

/-- The general statement on a whole call that writes one small file. -/
theorem receiveAndWrite_deadlockFree_oneFile :
    ∃ state, Reachable true [0x64]
        ((Packer.packFiles [([0x61], [1, 2])]).map PackBlock.data) state ∧
      state.phase = .returned (.ok 2) ∧ state.thread.written = state.submitted ∧
      state.submitted.length = 1 := by
  obtain ⟨state, followed, finished⟩ : ∃ state,
      follow true [true, true, true, true, true, false, false, false, true, true, true, true, true]
          (start [0x64] ((Packer.packFiles [([0x61], [1, 2])]).map PackBlock.data)) = some state ∧
        state.phase = .returned (.ok 2) ∧ state.submitted.length = 1 := by
    refine ⟨_, rfl, ?_, ?_⟩
    · rfl
    · rfl
  have reachable := reachable_of_follow _ followed
  exact ⟨state, reachable, finished.1,
    (receiveAndWrite_deadlockFree true [0x64] _ state reachable).2.2.1 2 finished.1, finished.2⟩

end Writing

end Udpix.IoEngine

/-
What a whole run of the writer submits.

The run mirrors the assembly of the entries it decoded: as long as the disk
answers, the submitted requests are the completed files, and after a failure
they are a beginning of them.  The disk only decides where the run stops.
-/

import Udpix.IoEngine.Reassembly

namespace Udpix.IoEngine

open Chunks UnixPath Protocol Packer Assembly

/-- The request that a complete file becomes. -/
def requestOf (outputDir : Path) (file : Path × Bytes) : WriteRequest :=
  { absPath := join outputDir file.1, data := file.2 }

def totalSize (files : List (Path × Bytes)) : Nat := (files.map (fun file => file.2.length)).sum

namespace AsyncWriter

structure Mirrors (outputDir : Path) (entries : List (FileEntry × Bytes))
    (state : WriterState) : Prop where
  started : state.submitted <+: (run entries).completed.map (requestOf outputDir)
  live : state.failure = none →
    state.partialFiles = (run entries).partialFiles ∧
      state.submitted = (run entries).completed.map (requestOf outputDir) ∧
      state.totalBytes = totalSize (run entries).completed

variable {outputDir : Path} {state : WriterState}
  {entries : List (FileEntry × Bytes)}

theorem mirrors_start (outputDir : Path) : Mirrors outputDir [] start where
  started := List.nil_prefix
  live := fun _ => ⟨rfl, rfl, rfl⟩

/-! ### The disk's part of a step -/

theorem reap_keeps (disconnected : Bool) (results : List WriteResult) (state : WriterState) :
    (reap disconnected results state).partialFiles = state.partialFiles ∧
      (reap disconnected results state).submitted = state.submitted ∧
      (reap disconnected results state).totalBytes = state.totalBytes := by
  induction results generalizing state with
  | nil =>
      unfold reap
      split
      · exact ⟨rfl, rfl, rfl⟩
      · exact ⟨rfl, rfl, rfl⟩
  | cons result rest ih =>
      unfold reap
      split
      · exact ⟨rfl, rfl, rfl⟩
      · split
        · exact ih { state with inFlight := state.inFlight - 1 }
        · exact ⟨rfl, rfl, rfl⟩

theorem reapReady_keeps (disk : Disk) (state : WriterState) :
    (reapReady disk state).partialFiles = state.partialFiles ∧
      (reapReady disk state).submitted = state.submitted ∧
      (reapReady disk state).totalBytes = state.totalBytes := by
  unfold reapReady
  split
  · exact ⟨rfl, rfl, rfl⟩
  · exact reap_keeps _ _ { state with entriesSeen := state.entriesSeen + 1 }

theorem reapReady_failure (disk : Disk) (state : WriterState)
    (alive : (reapReady disk state).failure = none) : state.failure = none := by
  unfold reapReady at alive
  split at alive
  · exact alive
  · rename_i noFailure
    cases failure : state.failure with
    | none => rfl
    | some reason =>
        rw [failure] at noFailure
        exact absurd rfl noFailure

theorem submitWrite_cases (disk : Disk) (state : WriterState) (absPath : Path) (data : Bytes) :
    (∃ inFlight, submitWrite disk state absPath data =
        { state with
          submitted := state.submitted ++ [{ absPath := absPath, data := data }]
          inFlight := inFlight }) ∨
      ∃ reason, submitWrite disk state absPath data = { state with failure := some reason } := by
  have sent : ∀ request, (∃ inFlight, send disk state request =
        { state with
          submitted := state.submitted ++ [request]
          inFlight := inFlight }) ∨
      ∃ reason, send disk state request = { state with failure := some reason } := by
    intro request
    unfold send
    split
    · exact Or.inl ⟨_, rfl⟩
    · exact Or.inr ⟨_, rfl⟩
  unfold submitWrite
  split
  · split
    · exact sent _
    · exact Or.inr ⟨_, rfl⟩
  · exact sent _

theorem Mirrors.reapReady (mirrors : Mirrors outputDir entries state) (disk : Disk) :
    Mirrors outputDir entries (reapReady disk state) := by
  obtain ⟨samePartials, sameSubmitted, sameTotal⟩ := reapReady_keeps disk state
  refine ⟨?_, ?_⟩
  · rw [sameSubmitted]
    exact mirrors.started
  · intro alive
    rw [samePartials, sameSubmitted, sameTotal]
    exact mirrors.live (reapReady_failure disk state alive)

/-! ### One entry -/

theorem run_absorb_none {received : FileEntry × Bytes}
    {partialFiles : AssocMap (List Component) PartialFile}
    (accepted : acceptEntry (run entries).partialFiles received.1 received.2 =
      (partialFiles, none)) :
    (run (entries ++ [received])).partialFiles = partialFiles ∧
      (run (entries ++ [received])).completed = (run entries).completed := by
  rw [run_snoc]
  unfold absorb
  rw [accepted]
  exact ⟨rfl, List.append_nil _⟩

theorem run_absorb_some {received : FileEntry × Bytes} {bytes : Bytes}
    {partialFiles : AssocMap (List Component) PartialFile}
    (accepted : acceptEntry (run entries).partialFiles received.1 received.2 =
      (partialFiles, some bytes)) :
    (run (entries ++ [received])).partialFiles = partialFiles ∧
      (run (entries ++ [received])).completed =
        (run entries).completed ++ [(received.1.path, bytes)] := by
  rw [run_snoc]
  unfold absorb
  rw [accepted]
  exact ⟨rfl, rfl⟩

theorem run_completed_isPrefix (entries more : List (FileEntry × Bytes)) :
    (run entries).completed <+: (run (entries ++ more)).completed := by
  induction more using List.reverseRecOn with
  | nil => exact ⟨[], by rw [List.append_nil, List.append_nil]⟩
  | append_singleton more received ih =>
      rw [← List.append_assoc, run_snoc]
      exact ih.trans (List.prefix_append _ _)

/-- A failed run stays a beginning of whatever else would have arrived. -/
theorem Mirrors.of_failure (mirrors : Mirrors outputDir entries state)
    (failed : state.failure ≠ none) (more : List (FileEntry × Bytes)) :
    Mirrors outputDir (entries ++ more) state where
  started := mirrors.started.trans ((run_completed_isPrefix entries more).map _)
  live := fun alive => absurd alive failed

theorem failure_eq_none (noFailure : ¬ state.failure.isSome = true) : state.failure = none := by
  cases failure : state.failure with
  | none => rfl
  | some reason =>
      rw [failure] at noFailure
      exact absurd rfl noFailure

theorem Mirrors.processEntry (mirrors : Mirrors outputDir entries state) (disk : Disk)
    (received : FileEntry × Bytes) :
    Mirrors outputDir (entries ++ [received]) (processEntry disk outputDir state received) := by
  unfold AsyncWriter.processEntry
  split
  · rename_i failed
    apply mirrors.of_failure
    intro alive
    rw [alive] at failed
    cases failed
  · rename_i noFailure
    obtain ⟨samePartials, sameSubmitted, sameTotal⟩ := mirrors.live (failure_eq_none noFailure)
    obtain ⟨⟨partialFiles, complete⟩, accepted⟩ :
        ∃ answer, acceptEntry state.partialFiles received.1 received.2 = answer := ⟨_, rfl⟩
    rw [accepted]
    rw [samePartials] at accepted
    cases complete with
    | none =>
        obtain ⟨nextPartials, nextCompleted⟩ := run_absorb_none accepted
        refine Mirrors.reapReady ⟨?_, fun _ => ⟨nextPartials.symm, ?_, ?_⟩⟩ disk
        · rw [nextCompleted]
          exact mirrors.started
        · rw [nextCompleted]
          exact sameSubmitted
        · rw [nextCompleted]
          exact sameTotal
    | some bytes =>
        obtain ⟨nextPartials, nextCompleted⟩ := run_absorb_some accepted
        have nextSubmitted : state.submitted ++
            [{ absPath := join outputDir received.1.path, data := bytes }] =
              (run (entries ++ [received])).completed.map (requestOf outputDir) := by
          rw [nextCompleted, List.map_append, ← sameSubmitted]
          rfl
        have nextTotal : state.totalBytes + bytes.length =
            totalSize (run (entries ++ [received])).completed := by
          unfold totalSize at sameTotal ⊢
          rw [nextCompleted, List.map_append, List.sum_append, ← sameTotal]
          rfl
        refine Mirrors.reapReady ?_ disk
        rcases submitWrite_cases disk
          { state with
            partialFiles := partialFiles
            totalBytes := state.totalBytes + bytes.length }
          (join outputDir received.1.path) bytes with ⟨inFlight, written⟩ | ⟨reason, broken⟩
        · rw [written]
          refine ⟨?_, fun _ => ⟨nextPartials.symm, nextSubmitted, nextTotal⟩⟩
          exact ⟨[], (List.append_nil _).trans nextSubmitted⟩
        · rw [broken]
          refine ⟨?_, fun impossible => by cases impossible⟩
          rw [nextCompleted, List.map_append]
          exact mirrors.started.trans (List.prefix_append _ _)

theorem Mirrors.processEntries (mirrors : Mirrors outputDir entries state) (disk : Disk)
    (more : List (FileEntry × Bytes)) :
    Mirrors outputDir (entries ++ more)
      (more.foldl (AsyncWriter.processEntry disk outputDir) state) := by
  induction more generalizing entries state with
  | nil =>
      rw [List.append_nil]
      exact mirrors
  | cons received rest ih =>
      rw [List.append_cons]
      exact ih (mirrors.processEntry disk received)

/-! ### The whole channel -/

/-- The entries of the chunks up to the first one that cannot be unpacked. -/
def decodedEntries (overflowChecks : Bool) : List Bytes → List (FileEntry × Bytes)
  | [] => []
  | chunk :: rest =>
      match unpackEntries overflowChecks { id := 0, data := chunk } with
      | .ok entries => entries ++ decodedEntries overflowChecks rest
      | .error _ => []

theorem Mirrors.consume (mirrors : Mirrors outputDir entries state) (overflowChecks : Bool)
    (disk : Disk) (chunks : List Bytes) :
    Mirrors outputDir (entries ++ decodedEntries overflowChecks chunks)
      (consume overflowChecks disk outputDir state chunks).1 := by
  induction chunks generalizing entries state with
  | nil =>
      rw [decodedEntries, List.append_nil]
      exact mirrors
  | cons chunk rest ih =>
      unfold AsyncWriter.consume decodedEntries
      cases unpacked : unpackEntries overflowChecks { id := 0, data := chunk } with
      | error fault =>
          rw [List.append_nil]
          cases fault with
          | error reason => exact mirrors
          | panicked => exact mirrors
      | ok decoded =>
          have next := mirrors.processEntries disk decoded
          rw [← List.append_assoc]
          dsimp only
          cases failure : (decoded.foldl (AsyncWriter.processEntry disk outputDir)
              state).failure with
          | none => exact ih next
          | some reason =>
              apply next.of_failure
              rw [failure]
              exact Option.some_ne_none reason

theorem consume_failure (overflowChecks : Bool) (disk : Disk) (outputDir : Path)
    (chunks : List Bytes) (state : WriterState)
    (alive : state.failure = none)
    (finished : (consume overflowChecks disk outputDir state chunks).2 = none) :
    (consume overflowChecks disk outputDir state chunks).1.failure = none := by
  induction chunks generalizing state with
  | nil => exact alive
  | cons chunk rest ih =>
      unfold consume at finished ⊢
      cases unpacked : unpackEntries overflowChecks { id := 0, data := chunk } with
      | error fault =>
          rw [unpacked] at finished
          cases fault with
          | error reason => cases finished
          | panicked => cases finished
      | ok decoded =>
          rw [unpacked] at finished
          dsimp only at finished ⊢
          cases failure : (decoded.foldl (processEntry disk outputDir) state).failure with
          | none =>
              rw [failure] at finished
              exact ih _ failure finished
          | some reason =>
              rw [failure] at finished
              cases finished

/-- Whatever the disk does, the requests are a beginning of the completed
files. -/
theorem receiveAndWrite_submitted_prefix (overflowChecks : Bool) (disk : Disk)
    (outputDir : Path) (chunks : List Bytes) :
    (receiveAndWrite overflowChecks disk outputDir chunks).submitted <+:
      (run (decodedEntries overflowChecks chunks)).completed.map (requestOf outputDir) :=
  ((mirrors_start outputDir).consume overflowChecks disk chunks).started

theorem receiveAndWrite_of_consumed (overflowChecks : Bool) (disk : Disk) (outputDir : Path)
    (chunks : List Bytes)
    (consumed : (consume overflowChecks disk outputDir start chunks).2 = none) :
    (receiveAndWrite overflowChecks disk outputDir chunks).submitted =
        (run (decodedEntries overflowChecks chunks)).completed.map (requestOf outputDir) ∧
      ∀ total, (receiveAndWrite overflowChecks disk outputDir chunks).outcome = .ok total →
        total = totalSize (run (decodedEntries overflowChecks chunks)).completed := by
  have mirrors := (mirrors_start outputDir).consume overflowChecks disk chunks
  have alive := consume_failure overflowChecks disk outputDir chunks start rfl consumed
  obtain ⟨_, submitted, totalBytes⟩ := mirrors.live alive
  refine ⟨submitted, ?_⟩
  intro total returned
  unfold receiveAndWrite at returned
  dsimp only at returned
  rw [consumed] at returned
  dsimp only at returned
  split at returned
  · cases returned
  · cases returned
    exact totalBytes

theorem consumed_of_ok (overflowChecks : Bool) (disk : Disk) (outputDir : Path)
    (chunks : List Bytes) (total : Nat)
    (returned : (receiveAndWrite overflowChecks disk outputDir chunks).outcome = .ok total) :
    (consume overflowChecks disk outputDir start chunks).2 = none := by
  cases stopped : (consume overflowChecks disk outputDir start chunks).2 with
  | none => rfl
  | some fault =>
      unfold receiveAndWrite at returned
      dsimp only at returned
      rw [stopped] at returned
      cases returned

theorem decodable_of_consumed (overflowChecks : Bool) (disk : Disk) (outputDir : Path)
    (chunks : List Bytes) (state : WriterState)
    (consumed : (consume overflowChecks disk outputDir state chunks).2 = none)
    (chunk : Bytes) (member : chunk ∈ chunks) :
    ∃ entries, unpackEntries overflowChecks { id := 0, data := chunk } = .ok entries := by
  induction chunks generalizing state with
  | nil => cases member
  | cons head rest ih =>
      unfold consume at consumed
      cases unpacked : unpackEntries overflowChecks { id := 0, data := head } with
      | error fault =>
          rw [unpacked] at consumed
          cases fault with
          | error reason => cases consumed
          | panicked => cases consumed
      | ok decoded =>
          rcases List.mem_cons.mp member with isHead | inRest
          · rw [isHead]
            exact ⟨decoded, unpacked⟩
          · rw [unpacked] at consumed
            dsimp only at consumed
            cases failure : (decoded.foldl (processEntry disk outputDir) state).failure with
            | none =>
                rw [failure] at consumed
                exact ih _ consumed inRest
            | some reason =>
                rw [failure] at consumed
                cases consumed

theorem decodable_of_ok (overflowChecks : Bool) (disk : Disk) (outputDir : Path)
    (chunks : List Bytes) (total : Nat)
    (returned : (receiveAndWrite overflowChecks disk outputDir chunks).outcome = .ok total)
    (chunk : Bytes) (member : chunk ∈ chunks) :
    ∃ entries, unpackEntries overflowChecks { id := 0, data := chunk } = .ok entries :=
  decodable_of_consumed overflowChecks disk outputDir chunks start
    (consumed_of_ok overflowChecks disk outputDir chunks total returned) chunk member

theorem unreadable_or_decodable (overflowChecks : Bool) (chunks : List Bytes) :
    (∃ chunk, chunk ∈ chunks ∧
      ∃ fault, unpackEntries overflowChecks { id := 0, data := chunk } = .error fault) ∨
    ∀ chunk, chunk ∈ chunks →
      ∃ entries, unpackEntries overflowChecks { id := 0, data := chunk } = .ok entries := by
  rw [or_iff_not_imp_left]
  intro readable chunk member
  cases unpacked : unpackEntries overflowChecks { id := 0, data := chunk } with
  | ok entries => exact ⟨entries, rfl⟩
  | error fault => exact absurd ⟨chunk, member, fault, unpacked⟩ readable

/-! ### A disk on which everything succeeds -/

/-- No operation failed, and no failed write is waiting to be reaped. -/
def Calm (state : WriterState) : Prop :=
  state.failure = none ∧ ∀ result, result ∈ state.results → result.succeeded = true

theorem reap_calm (results : List WriteResult) (state : WriterState)
    (alive : state.failure = none)
    (written : ∀ result, result ∈ results → result.succeeded = true) :
    Calm (reap false results state) := by
  induction results generalizing state with
  | nil =>
      unfold reap
      rw [if_neg (fun both => Bool.false_ne_true both.2)]
      exact ⟨alive, fun result member => by cases member⟩
  | cons result rest ih =>
      unfold reap
      split
      · exact ⟨alive, written⟩
      · rw [if_pos (written result List.mem_cons_self)]
        exact ih { state with inFlight := state.inFlight - 1 } alive
          (fun other member => written other (List.mem_cons_of_mem _ member))

theorem Calm.reapReady {disk : Disk} (healthy : disk.Healthy) (calm : Calm state) :
    Calm (reapReady disk state) := by
  unfold AsyncWriter.reapReady
  rw [if_neg (by rw [calm.1]; exact Bool.false_ne_true), healthy.connected]
  apply reap_calm
  · exact calm.1
  · intro result member
    rcases List.mem_append.mp member with waiting | arrived
    · exact calm.2 result waiting
    · exact healthy.written _ result arrived

theorem Calm.submitWrite {disk : Disk} (healthy : disk.Healthy) (calm : Calm state)
    (absPath : Path) (data : Bytes) : Calm (submitWrite disk state absPath data) := by
  have sent : ∀ request, Calm (send disk state request) := by
    intro request
    unfold send
    rw [if_pos (healthy.opened _)]
    exact calm
  unfold AsyncWriter.submitWrite
  split
  · rw [if_pos (healthy.directories _ _)]
    exact sent _
  · exact sent _

theorem Calm.processEntry {disk : Disk} (healthy : disk.Healthy) (calm : Calm state)
    (outputDir : Path) (received : FileEntry × Bytes) :
    Calm (processEntry disk outputDir state received) := by
  unfold AsyncWriter.processEntry
  rw [if_neg (by rw [calm.1]; exact Bool.false_ne_true)]
  dsimp only
  split
  · apply Calm.reapReady healthy
    apply Calm.submitWrite healthy
    exact calm
  · exact Calm.reapReady healthy calm

theorem Calm.processEntries {disk : Disk} (healthy : disk.Healthy) (calm : Calm state)
    (outputDir : Path) (received : List (FileEntry × Bytes)) :
    Calm (received.foldl (AsyncWriter.processEntry disk outputDir) state) := by
  induction received generalizing state with
  | nil => exact calm
  | cons head tail ih => exact ih (calm.processEntry healthy outputDir head)

theorem Calm.consume {disk : Disk} (healthy : disk.Healthy) (calm : Calm state)
    (overflowChecks : Bool) (outputDir : Path) (chunks : List Bytes) :
    Calm (consume overflowChecks disk outputDir state chunks).1 := by
  induction chunks generalizing state with
  | nil => exact calm
  | cons chunk rest ih =>
      unfold AsyncWriter.consume
      cases unpackEntries overflowChecks { id := 0, data := chunk } with
      | error fault =>
          cases fault with
          | error reason => exact calm
          | panicked => exact calm
      | ok decoded =>
          have next := calm.processEntries healthy outputDir decoded
          dsimp only
          rw [next.1]
          exact ih next

theorem consume_finishes {disk : Disk} (healthy : disk.Healthy) (calm : Calm state)
    (overflowChecks : Bool) (outputDir : Path) (chunks : List Bytes)
    (decodable : ∀ chunk, chunk ∈ chunks →
      ∃ entries, unpackEntries overflowChecks { id := 0, data := chunk } = .ok entries) :
    (consume overflowChecks disk outputDir state chunks).2 = none := by
  induction chunks generalizing state with
  | nil => rfl
  | cons chunk rest ih =>
      obtain ⟨decoded, unpacked⟩ := decodable chunk List.mem_cons_self
      have next := calm.processEntries healthy outputDir decoded
      unfold consume
      rw [unpacked]
      dsimp only
      rw [next.1]
      exact ih next (fun other member => decodable other (List.mem_cons_of_mem _ member))

theorem drain_healthy {disk : Disk} (healthy : disk.Healthy) (inFlight received : Nat)
    (results : List WriteResult)
    (written : ∀ result, result ∈ results → result.succeeded = true) :
    drain disk inFlight received results = none := by
  induction inFlight generalizing received results with
  | zero =>
      unfold drain
      rfl
  | succ inFlight ih =>
      cases results with
      | nil =>
          obtain ⟨result, answer, succeeded⟩ := healthy.answered received
          unfold drain
          rw [answer]
          dsimp only
          rw [if_pos succeeded]
          exact ih (received + 1) [] (fun other member => by cases member)
      | cons result rest =>
          unfold drain
          rw [if_pos (written result List.mem_cons_self)]
          exact ih received rest
            (fun other member => written other (List.mem_cons_of_mem _ member))

theorem calm_start : Calm start := ⟨rfl, fun result member => by cases member⟩

theorem receiveAndWrite_healthy {disk : Disk} (healthy : disk.Healthy) (overflowChecks : Bool)
    (outputDir : Path) (chunks : List Bytes)
    (decodable : ∀ chunk, chunk ∈ chunks →
      ∃ entries, unpackEntries overflowChecks { id := 0, data := chunk } = .ok entries) :
    ∃ total, (receiveAndWrite overflowChecks disk outputDir chunks).outcome = .ok total := by
  have calm := calm_start.consume healthy overflowChecks outputDir chunks
  have finished := consume_finishes healthy calm_start overflowChecks outputDir
    chunks decodable
  have drained := drain_healthy healthy
    (consume overflowChecks disk outputDir start chunks).1.inFlight 0
    (consume overflowChecks disk outputDir start chunks).1.results calm.2
  refine ⟨(consume overflowChecks disk outputDir start chunks).1.totalBytes, ?_⟩
  unfold receiveAndWrite
  dsimp only
  rw [finished]
  dsimp only
  rw [drained]

theorem receiveAndWrite_submitted_healthy {disk : Disk} (healthy : disk.Healthy)
    (overflowChecks : Bool) (outputDir : Path) (chunks : List Bytes) :
    (receiveAndWrite overflowChecks disk outputDir chunks).submitted =
      (run (decodedEntries overflowChecks chunks)).completed.map (requestOf outputDir) := by
  have calm := calm_start.consume healthy overflowChecks outputDir chunks
  have mirrors := (mirrors_start outputDir).consume overflowChecks disk chunks
  exact (mirrors.live calm.1).2.1

end AsyncWriter

/-! ### Blocks of one set of files -/

open AsyncWriter

/-- The parts a chunk carries, none when it cannot be unpacked. -/
def chunkParts (overflowChecks : Bool) (chunk : Bytes) : List Part :=
  match unpackEntries overflowChecks { id := 0, data := chunk } with
  | .ok entries => entries.map receivedPart
  | .error _ => []

theorem decodedEntries_parts (overflowChecks : Bool) (chunks : List Bytes)
    (decodable : ∀ chunk, chunk ∈ chunks →
      ∃ entries, unpackEntries overflowChecks { id := 0, data := chunk } = .ok entries) :
    (decodedEntries overflowChecks chunks).map receivedPart =
      chunks.flatMap (chunkParts overflowChecks) := by
  induction chunks with
  | nil => rfl
  | cons chunk rest ih =>
      obtain ⟨entries, unpacked⟩ := decodable chunk List.mem_cons_self
      have others := ih (fun other member => decodable other (List.mem_cons_of_mem _ member))
      unfold decodedEntries
      rw [List.flatMap_cons, ← others]
      unfold chunkParts
      rw [unpacked, List.map_append]

/-- What the results below ask of the files: paths that the manifest stores
unchanged and that differ as paths, and counts that its fields can hold. -/
structure Packable (files : List (Path × Bytes)) : Prop where
  storable : ∀ file, file ∈ files → Storable file.1
  distinct : (files.map fileKey).Nodup
  fewEntries : ∀ layout, layout ∈ packLayouts files → layout.entries.length < 2 ^ 32
  fewParts : ∀ file, file ∈ files → (filePieces file).length < 2 ^ 32

variable {files : List (Path × Bytes)}

theorem Packable.unpackEntries (packable : Packable files) (overflowChecks : Bool)
    (layout : Layout) (member : layout ∈ packLayouts files) :
    Packer.unpackEntries overflowChecks { id := 0, data := layout.block.data } =
      .ok (layout.entries.map (fun entry => (entry, entryData layout.payload entry))) := by
  rw [unpackEntries_renumber]
  exact unpackEntries_block overflowChecks layout (packLayouts_wellFormed files layout member)
    (packable.fewEntries layout member)
    (storable_of_mem_packLayouts packable.storable layout member)

theorem Packable.block_fits (packable : Packable files) (chunk : Bytes)
    (drawn : chunk ∈ (packFiles files).map PackBlock.data) : chunk.length + 8 < 2 ^ 64 := by
  obtain ⟨block, inBlocks, sameData⟩ := List.mem_map.mp drawn
  obtain ⟨layout, inLayouts, sameBlock⟩ := List.mem_map.mp inBlocks
  have manifestShort := manifest_length_le layout.entries
    (storable_of_mem_packLayouts packable.storable layout inLayouts)
  have fewEntries := packable.fewEntries layout inLayouts
  have bounded := (packLayouts_wellFormed files layout inLayouts).bounded
  unfold BLOCK_SIZE at bounded
  rw [← sameData, ← sameBlock]
  unfold Layout.block serialise
  dsimp only
  rw [List.length_append, List.length_append, headerBytes_length]
  omega

theorem Packable.chunkParts (packable : Packable files) (overflowChecks : Bool)
    (layout : Layout) (member : layout ∈ packLayouts files) :
    IoEngine.chunkParts overflowChecks layout.block.data = layout.parts := by
  unfold IoEngine.chunkParts
  rw [packable.unpackEntries overflowChecks layout member]
  dsimp only
  rw [List.map_map]
  rfl

theorem mem_data_packFiles (chunk : Bytes)
    (drawn : chunk ∈ (packFiles files).map PackBlock.data) :
    ∃ layout, layout ∈ packLayouts files ∧ layout.block.data = chunk := by
  obtain ⟨block, inBlocks, sameData⟩ := List.mem_map.mp drawn
  obtain ⟨layout, inLayouts, sameBlock⟩ := List.mem_map.mp inBlocks
  refine ⟨layout, inLayouts, ?_⟩
  rw [sameBlock]
  exact sameData

section Drawn

variable {chunks : List Bytes} (packable : Packable files) (overflowChecks : Bool)
  (drawn : ∀ chunk, chunk ∈ chunks → chunk ∈ (packFiles files).map PackBlock.data)

include packable drawn

theorem decodable_of_drawn (chunk : Bytes) (member : chunk ∈ chunks) :
    ∃ entries, unpackEntries overflowChecks { id := 0, data := chunk } = .ok entries := by
  obtain ⟨layout, inLayouts, sameData⟩ := mem_data_packFiles chunk (drawn chunk member)
  rw [← sameData]
  exact ⟨_, packable.unpackEntries overflowChecks layout inLayouts⟩

theorem follows_of_drawn :
    Follows files (chunks.flatMap (IoEngine.chunkParts overflowChecks))
      (run (decodedEntries overflowChecks chunks)) := by
  have decodable := decodable_of_drawn packable overflowChecks drawn
  have parts := decodedEntries_parts overflowChecks chunks decodable
  have ofFiles : ∀ received, received ∈ decodedEntries overflowChecks chunks →
      receivedPart received ∈ files.flatMap fileParts := by
    intro received member
    have inParts : receivedPart received ∈
        chunks.flatMap (IoEngine.chunkParts overflowChecks) := by
      rw [← parts]
      exact List.mem_map.mpr ⟨received, member, rfl⟩
    obtain ⟨chunk, inChunks, inChunk⟩ := List.mem_flatMap.mp inParts
    obtain ⟨layout, inLayouts, sameData⟩ := mem_data_packFiles chunk (drawn chunk inChunks)
    rw [← sameData, packable.chunkParts overflowChecks layout inLayouts] at inChunk
    rw [← packLayouts_parts]
    exact List.mem_flatMap.mpr ⟨layout, inLayouts, inChunk⟩
  rw [← parts]
  exact follows_run files packable.distinct packable.fewParts _ ofFiles

end Drawn

def Carries (overflowChecks : Bool) (block : PackBlock) (path : Path) : Prop :=
  ∃ entries, unpackEntries overflowChecks block = .ok entries ∧
    ∃ received, received ∈ entries ∧ received.1.path = path

theorem parts_seen_of_blocks (packable : Packable files) (overflowChecks : Bool)
    (chunks : List Bytes) (file : Path × Bytes) (member : file ∈ files)
    (present : ∀ block, block ∈ packFiles files → Carries overflowChecks block file.1 →
      block.data ∈ chunks)
    (part : Part) (ofFile : part ∈ fileParts file) :
    part ∈ chunks.flatMap (IoEngine.chunkParts overflowChecks) := by
  have inParts : part ∈ (packLayouts files).flatMap Layout.parts := by
    rw [packLayouts_parts]
    exact List.mem_flatMap.mpr ⟨file, member, ofFile⟩
  obtain ⟨layout, inLayouts, inLayout⟩ := List.mem_flatMap.mp inParts
  obtain ⟨entry, inEntries, built⟩ := List.mem_map.mp inLayout
  have path : entry.path = file.1 := by
    have samePath := fileParts_path file part ofFile
    rw [← built] at samePath
    exact samePath
  have unpacked := packable.unpackEntries overflowChecks layout inLayouts
  rw [unpackEntries_renumber] at unpacked
  have carries : Carries overflowChecks layout.block file.1 :=
    ⟨_, unpacked, _, List.mem_map.mpr ⟨entry, inEntries, rfl⟩, path⟩
  have inChunks := present layout.block (List.mem_map.mpr ⟨layout, inLayouts, rfl⟩) carries
  refine List.mem_flatMap.mpr ⟨layout.block.data, inChunks, ?_⟩
  rw [packable.chunkParts overflowChecks layout inLayouts]
  exact inLayout

theorem parts_perm_of_blocks (packable : Packable files) (overflowChecks : Bool)
    (chunks : List Bytes) (once : chunks.Perm ((packFiles files).map PackBlock.data)) :
    (chunks.flatMap (IoEngine.chunkParts overflowChecks)).Perm (files.flatMap fileParts) := by
  have blocks : ((packFiles files).map PackBlock.data).flatMap
      (IoEngine.chunkParts overflowChecks) = files.flatMap fileParts := by
    rw [← packLayouts_parts]
    unfold packFiles
    rw [List.map_map, List.flatMap_map]
    apply List.flatMap_congr
    intro layout inLayouts
    exact packable.chunkParts overflowChecks layout inLayouts
  rw [← blocks]
  exact once.flatMap_right _

section Submitted

variable {chunks : List Bytes} (packable : Packable files) (overflowChecks : Bool)
  (drawn : ∀ chunk, chunk ∈ chunks → chunk ∈ (packFiles files).map PackBlock.data)
  (disk : Disk) (outputDir : Path)

include packable drawn

theorem submitted_of_drawn (request : WriteRequest)
    (member : request ∈ (receiveAndWrite overflowChecks disk outputDir chunks).submitted) :
    ∃ file, file ∈ files ∧ request = requestOf outputDir file := by
  have follows := follows_of_drawn packable overflowChecks drawn
  have started := receiveAndWrite_submitted_prefix overflowChecks disk outputDir chunks
  obtain ⟨file, completed, built⟩ := List.mem_map.mp (started.subset member)
  exact ⟨file, follows.exact file completed, built.symm⟩

theorem submitted_perm_of_once
    (consumed : (consume overflowChecks disk outputDir start chunks).2 = none)
    (once : chunks.Perm ((packFiles files).map PackBlock.data)) :
    (receiveAndWrite overflowChecks disk outputDir chunks).submitted.Perm
        (files.map (requestOf outputDir)) ∧
      ∀ total, (receiveAndWrite overflowChecks disk outputDir chunks).outcome = .ok total →
        total = totalSize files := by
  have follows := follows_of_drawn packable overflowChecks drawn
  obtain ⟨submitted, totals⟩ :=
    receiveAndWrite_of_consumed overflowChecks disk outputDir chunks consumed
  have completed := follows.completed_perm packable.distinct packable.fewParts
    (parts_perm_of_blocks packable overflowChecks chunks once)
  refine ⟨?_, ?_⟩
  · rw [submitted]
    exact completed.map _
  · intro total returned
    rw [totals total returned]
    exact (completed.map _).sum_nat

end Submitted

/-- Feeding the writer blocks of one set of files, in any order, with any
repetitions and omissions.  Every request is a whole file of the set.  When the
loop reaches the end of the channel, which it does on a disk where everything
succeeds, every file whose blocks all came is submitted; and when every block
came exactly once, so is every file, and the returned total is their size. -/
theorem receiveAndWrite_of_packed (overflowChecks : Bool) (disk : Disk) (outputDir : Path)
    (files : List (Path × Bytes)) (chunks : List Bytes) (packable : Packable files)
    (drawn : ∀ chunk, chunk ∈ chunks → chunk ∈ (packFiles files).map PackBlock.data) :
    (∀ request, request ∈ (receiveAndWrite overflowChecks disk outputDir chunks).submitted →
      ∃ file, file ∈ files ∧ request = requestOf outputDir file) ∧
    (disk.Healthy →
      (consume overflowChecks disk outputDir start chunks).2 = none ∧
        ∃ total, (receiveAndWrite overflowChecks disk outputDir chunks).outcome = .ok total) ∧
    ((consume overflowChecks disk outputDir start chunks).2 = none →
      ∀ file, file ∈ files →
        (∀ block, block ∈ packFiles files → Carries overflowChecks block file.1 →
          block.data ∈ chunks) →
        requestOf outputDir file ∈
          (receiveAndWrite overflowChecks disk outputDir chunks).submitted) ∧
    ((consume overflowChecks disk outputDir start chunks).2 = none →
      chunks.Perm ((packFiles files).map PackBlock.data) →
        (receiveAndWrite overflowChecks disk outputDir chunks).submitted.Perm
            (files.map (requestOf outputDir)) ∧
          ∀ total, (receiveAndWrite overflowChecks disk outputDir chunks).outcome = .ok total →
            total = totalSize files) := by
  refine ⟨submitted_of_drawn packable overflowChecks drawn disk outputDir, ?_, ?_,
    submitted_perm_of_once packable overflowChecks drawn disk outputDir⟩
  · intro healthy
    have decodable := decodable_of_drawn packable overflowChecks drawn
    exact ⟨consume_finishes healthy calm_start overflowChecks outputDir chunks decodable,
      receiveAndWrite_healthy healthy overflowChecks outputDir chunks decodable⟩
  · intro consumed file member present
    have follows := follows_of_drawn packable overflowChecks drawn
    rw [(receiveAndWrite_of_consumed overflowChecks disk outputDir chunks consumed).1]
    apply List.mem_map_of_mem
    apply follows.mem_completed packable.distinct file member (packable.fewParts file member)
    exact parts_seen_of_blocks packable overflowChecks chunks file member present

def workingDisk : Disk :=
  { createDirAll := fun _ _ => true
    threadOpen := fun _ => true
    ready := fun _ => ([], false)
    recv := fun _ => some { absPath := [], succeeded := true } }

theorem workingDisk_healthy : workingDisk.Healthy where
  directories := fun _ _ => rfl
  opened := fun _ => rfl
  connected := fun _ => rfl
  written := by
    intro count result member
    cases member
  answered := fun _ => ⟨_, rfl, rfl⟩

/-- Two files, `a` with three bytes and `b/c` with none. -/
def twoFiles : List (Path × Bytes) := [([0x61], [1, 2, 3]), ([0x62, 0x2F, 0x63], [])]

theorem packable_twoFiles : Packable twoFiles where
  storable := by decide
  distinct := by decide
  fewEntries := by decide
  fewParts := by decide

theorem receiveAndWrite_of_packed_twoFiles :
    (receiveAndWrite true workingDisk [0x6F]
        ((packFiles twoFiles).map PackBlock.data)).submitted.Perm
          [{ absPath := [0x6F, 0x2F, 0x61], data := [1, 2, 3] },
           { absPath := [0x6F, 0x2F, 0x62, 0x2F, 0x63], data := [] }] ∧
      (receiveAndWrite true workingDisk [0x6F]
        ((packFiles twoFiles).map PackBlock.data)).outcome = .ok 3 := by
  obtain ⟨_, finishes, _, exactly⟩ := receiveAndWrite_of_packed true workingDisk [0x6F] twoFiles
    ((packFiles twoFiles).map PackBlock.data) packable_twoFiles (fun _ member => member)
  obtain ⟨consumed, total, returned⟩ := finishes workingDisk_healthy
  obtain ⟨submitted, totals⟩ := exactly consumed (List.Perm.refl _)
  refine ⟨submitted, ?_⟩
  rw [returned, totals total returned]
  rfl

end Udpix.IoEngine

/-
What a split file is written from.

A completion is an entry that completes a file, with the entries before it and
the bytes that are submitted.  The parts collected for a path are counted to see
whether they are all there, but read by index to put the file together; the
total they are compared with is that of the first part.
-/

import Udpix.IoEngine.Containment

namespace Udpix.IoEngine

open PartMap UnixPath Protocol Packer Assembly AsyncWriter

def heldFile (done : List (FileEntry × Bytes)) (received : FileEntry × Bytes) : PartialFile :=
  let file := ((run done).partialFiles.lookup (components received.1.path)).getD
    { totalParts := received.1.totalParts, parts := ∅ }
  { file with parts := file.parts.insert received.1.partIndex received.2 }

structure Completion where
  done : List (FileEntry × Bytes)
  received : FileEntry × Bytes
  bytes : Bytes
deriving DecidableEq

namespace Completion

def request (outputDir : Path) (completion : Completion) : WriteRequest :=
  requestOf outputDir (completion.received.1.path, completion.bytes)

def held (completion : Completion) : PartialFile :=
  heldFile completion.done completion.received

/-- The file is put together from one received part for each index below the
total, and from every part held for the path. -/
structure WrittenWhole (completion : Completion) : Prop where
  pieces : ∀ index, index < completion.received.1.totalParts →
    ∃ item, item ∈ completion.done ++ [completion.received] ∧
      components item.1.path = components completion.received.1.path ∧
      item.1.partIndex = index ∧ completion.held.parts.lookup index = some item.2
  included : ∀ index, (completion.held.parts.lookup index).isSome = true →
    index < completion.received.1.totalParts
  data : completion.bytes = (List.range completion.received.1.totalParts).flatMap
    (fun index => (completion.held.parts.lookup index).getD [])

/-- The entry announces the total of the first part, and every part held has an
index below it. -/
def PartsInRange (completion : Completion) : Prop :=
  completion.held.totalParts = completion.received.1.totalParts ∧
    ∀ index, (completion.held.parts.lookup index).isSome = true →
      index < completion.received.1.totalParts

end Completion

/-- The completions among `entries`, received behind `done`. -/
def completionsFrom (done : List (FileEntry × Bytes)) :
    List (FileEntry × Bytes) → List Completion
  | [] => []
  | received :: rest =>
      ((acceptEntry (run done).partialFiles received.1 received.2).2.toList.map
          (fun bytes => { done := done, received := received, bytes := bytes })) ++
        completionsFrom (done ++ [received]) rest

def completions (entries : List (FileEntry × Bytes)) : List Completion :=
  completionsFrom [] entries

/-! ### Completions and submissions -/

theorem completed_foldl_absorb (done entries : List (FileEntry × Bytes)) :
    (run (done ++ entries)).completed =
      (run done).completed ++
        (completionsFrom done entries).map
          (fun completion => (completion.received.1.path, completion.bytes)) := by
  induction entries generalizing done with
  | nil => rw [List.append_nil, completionsFrom, List.map_nil, List.append_nil]
  | cons received rest ih =>
      rw [List.append_cons, ih, run_snoc, completionsFrom, List.map_append, List.map_map,
        ← List.append_assoc]
      rfl

theorem completed_run (entries : List (FileEntry × Bytes)) :
    (run entries).completed =
      (completions entries).map
        (fun completion => (completion.received.1.path, completion.bytes)) :=
  completed_foldl_absorb [] entries

theorem mem_completionsFrom (done entries : List (FileEntry × Bytes)) (completion : Completion) :
    completion ∈ completionsFrom done entries ↔
      ∃ front rest, entries = front ++ completion.received :: rest ∧
        completion.done = done ++ front ∧
        (acceptEntry (run completion.done).partialFiles completion.received.1
          completion.received.2).2 = some completion.bytes := by
  induction entries generalizing done with
  | nil =>
      refine iff_of_false (fun member => nomatch member) ?_
      rintro ⟨front, rest, split, _⟩
      exact List.append_ne_nil_of_right_ne_nil front (List.cons_ne_nil _ rest) split.symm
  | cons received entries ih =>
      rw [completionsFrom, List.mem_append, ih]
      constructor
      · rintro (first | ⟨front, rest, split, sameDone, accepted⟩)
        · obtain ⟨bytes, accepted, rfl⟩ := List.mem_map.mp first
          exact ⟨[], entries, rfl, (List.append_nil done).symm, Option.mem_toList.mp accepted⟩
        · refine ⟨received :: front, rest, by rw [split]; rfl, ?_, accepted⟩
          rw [sameDone, List.append_assoc]
          rfl
      · rintro ⟨front, rest, split, sameDone, accepted⟩
        cases front with
        | nil =>
            left
            obtain ⟨sameReceived, _⟩ := List.cons.inj split
            rw [List.append_nil] at sameDone
            rw [sameDone, ← sameReceived] at accepted
            refine List.mem_map.mpr ⟨completion.bytes, Option.mem_toList.mpr accepted, ?_⟩
            rw [← sameDone, sameReceived]
        | cons head front =>
            obtain ⟨rfl, restSplit⟩ := List.cons.inj split
            refine Or.inr ⟨front, rest, restSplit, ?_, accepted⟩
            rw [sameDone, List.append_assoc]
            rfl

theorem mem_completions (entries : List (FileEntry × Bytes)) (completion : Completion) :
    completion ∈ completions entries ↔
      (∃ rest, entries = completion.done ++ completion.received :: rest) ∧
        (acceptEntry (run completion.done).partialFiles completion.received.1
          completion.received.2).2 = some completion.bytes := by
  refine (mem_completionsFrom [] entries completion).trans ?_
  constructor
  · rintro ⟨front, rest, split, sameDone, accepted⟩
    rw [List.nil_append] at sameDone
    exact ⟨⟨rest, by rw [sameDone]; exact split⟩, accepted⟩
  · rintro ⟨⟨rest, split⟩, accepted⟩
    exact ⟨completion.done, rest, split, rfl, accepted⟩

theorem submitted_isPrefix_completions (overflowChecks : Bool) (disk : Disk) (outputDir : Path)
    (chunks : List Bytes) :
    (receiveAndWrite overflowChecks disk outputDir chunks).submitted <+:
      (completions (decodedEntries overflowChecks chunks)).map
        (Completion.request outputDir) := by
  have started := receiveAndWrite_submitted_prefix overflowChecks disk outputDir chunks
  rw [completed_run, List.map_map] at started
  exact started

/-! ### The parts held for a path -/

theorem acceptEntry_split (done : List (FileEntry × Bytes)) (received : FileEntry × Bytes)
    (split : received.1.totalParts ≠ 1) :
    acceptEntry (run done).partialFiles received.1 received.2 =
      if (heldFile done received).isComplete then
        ((run done).partialFiles.erase (components received.1.path),
          some (heldFile done received).assemble)
      else
        ((run done).partialFiles.insert (components received.1.path) (heldFile done received),
          none) := by
  rw [acceptEntry, if_neg split]
  rfl

theorem acceptEntry_unsplit (partialFiles : AssocMap (List Component) PartialFile)
    (received : FileEntry × Bytes) (whole : received.1.totalParts = 1) :
    acceptEntry partialFiles received.1 received.2 = (partialFiles, some received.2) :=
  if_pos whole

/-- Every part in the map was received under its path and index. -/
def FromReceived (entries : List (FileEntry × Bytes)) (key : List Component)
    (parts : AssocMap Nat Bytes) : Prop :=
  ∀ index piece, parts.lookup index = some piece →
    ∃ item, item ∈ entries ∧ components item.1.path = key ∧ item.1.partIndex = index ∧
      item.2 = piece

theorem FromReceived.mono {entries : List (FileEntry × Bytes)} {key : List Component}
    {parts : AssocMap Nat Bytes} (fromReceived : FromReceived entries key parts)
    (more : List (FileEntry × Bytes)) : FromReceived (entries ++ more) key parts := by
  intro index piece found
  obtain ⟨item, member, facts⟩ := fromReceived index piece found
  exact ⟨item, List.mem_append_left _ member, facts⟩

theorem fromReceived_heldFile {done : List (FileEntry × Bytes)} (received : FileEntry × Bytes)
    (before : ∀ key file, (run done).partialFiles.lookup key = some file →
      FromReceived done key file.parts) :
    FromReceived (done ++ [received]) (components received.1.path)
      (heldFile done received).parts := by
  have earlier : FromReceived done (components received.1.path)
      (((run done).partialFiles.lookup (components received.1.path)).getD
        { totalParts := received.1.totalParts, parts := ∅ }).parts := by
    cases found : (run done).partialFiles.lookup (components received.1.path) with
    | none =>
        intro index piece impossible
        change (∅ : AssocMap Nat Bytes).lookup index = some piece at impossible
        rw [AList.lookup_empty] at impossible
        cases impossible
    | some file => exact before _ file found
  intro index piece found
  have inserted : (heldFile done received).parts = AList.insert received.1.partIndex received.2
      (((run done).partialFiles.lookup (components received.1.path)).getD
        { totalParts := received.1.totalParts, parts := ∅ }).parts := rfl
  rw [inserted] at found
  by_cases same : index = received.1.partIndex
  · rw [same, AList.lookup_insert] at found
    cases found
    exact ⟨received, List.mem_append_right _ List.mem_cons_self, rfl, same.symm, rfl⟩
  · rw [AList.lookup_insert_ne same] at found
    exact earlier.mono [received] index piece found

theorem fromReceived_run (entries : List (FileEntry × Bytes)) (key : List Component)
    (file : PartialFile) (found : (run entries).partialFiles.lookup key = some file) :
    FromReceived entries key file.parts := by
  induction entries using List.reverseRecOn generalizing key file with
  | nil =>
      change (∅ : AssocMap (List Component) PartialFile).lookup key = some file at found
      rw [AList.lookup_empty] at found
      cases found
  | append_singleton entries received ih =>
      rw [run_snoc] at found
      change (acceptEntry (run entries).partialFiles received.1 received.2).1.lookup key =
        some file at found
      by_cases whole : received.1.totalParts = 1
      · rw [acceptEntry_unsplit _ _ whole] at found
        exact (ih key file found).mono [received]
      · rw [acceptEntry_split entries received whole] at found
        split at found
        · by_cases same : key = components received.1.path
          · rw [same, AList.lookup_erase] at found
            cases found
          · rw [AList.lookup_erase_ne same] at found
            exact (ih key file found).mono [received]
        · by_cases same : key = components received.1.path
          · rw [same, AList.lookup_insert] at found
            cases found
            rw [same]
            exact fromReceived_heldFile received ih
          · rw [AList.lookup_insert_ne same] at found
            exact (ih key file found).mono [received]

/-! ### Whole files -/

theorem Completion.complete {entries : List (FileEntry × Bytes)} {completion : Completion}
    (member : completion ∈ completions entries)
    (split : completion.received.1.totalParts ≠ 1) :
    completion.held.parts.size = completion.held.totalParts ∧
      completion.bytes = completion.held.assemble := by
  have accepted := ((mem_completions entries completion).mp member).2
  rw [acceptEntry_split _ _ split] at accepted
  split at accepted
  · rename_i complete
    exact ⟨of_decide_eq_true complete, (Option.some.inj accepted).symm⟩
  · cases accepted

/-- A split file is whole exactly when no index and no total is out of line. -/
theorem Completion.writtenWhole_iff {entries : List (FileEntry × Bytes)}
    {completion : Completion} (member : completion ∈ completions entries)
    (split : completion.received.1.totalParts ≠ 1) :
    completion.WrittenWhole ↔ completion.PartsInRange := by
  obtain ⟨full, assembled⟩ := Completion.complete member split
  constructor
  · intro whole
    refine ⟨?_, whole.included⟩
    have upper := size_le_of_inside whole.included
    have lower := le_size_of_isSome completion.held.parts completion.received.1.totalParts (by
      intro index within
      obtain ⟨item, _, _, _, found⟩ := whole.pieces index within
      rw [found]
      rfl)
    omega
  · rintro ⟨sameTotal, inside⟩
    have counted : completion.held.parts.size = completion.received.1.totalParts :=
      full.trans sameTotal
    refine ⟨?_, inside, ?_⟩
    · intro index within
      obtain ⟨piece, found⟩ :=
        Option.isSome_iff_exists.mp (isSome_of_full inside counted index within)
      obtain ⟨item, inSeen, sameKey, sameIndex, samePiece⟩ :=
        fromReceived_heldFile completion.received
          (fun key file => fromReceived_run completion.done key file) index piece found
      exact ⟨item, inSeen, sameKey, sameIndex, by rw [samePiece]; exact found⟩
    · rw [assembled, PartialFile.assemble, sameTotal]

/-- Every submitted split file is written from all its parts, for every directory
and every behaviour of the disk, exactly when no completed path holds a part
outside the announced range. -/
theorem submitted_writtenWhole_iff (overflowChecks : Bool) (chunks : List Bytes) :
    (∀ (disk : Disk) (outputDir : Path) (index : Nat) (request : WriteRequest),
        (receiveAndWrite overflowChecks disk outputDir chunks).submitted[index]? = some request →
        ∃ completion : Completion,
          (completions (decodedEntries overflowChecks chunks))[index]? = some completion ∧
          request = completion.request outputDir ∧
          (completion.received.1.totalParts ≠ 1 → completion.WrittenWhole)) ↔
      ∀ completion, completion ∈ completions (decodedEntries overflowChecks chunks) →
        completion.received.1.totalParts ≠ 1 → completion.PartsInRange := by
  constructor
  · intro always completion member split
    obtain ⟨index, placed⟩ := List.mem_iff_getElem?.mp member
    have submitted : (receiveAndWrite overflowChecks workingDisk [] chunks).submitted[index]? =
        some (completion.request []) := by
      rw [receiveAndWrite_submitted_healthy workingDisk_healthy, completed_run, List.map_map,
        List.getElem?_map, placed]
      rfl
    obtain ⟨other, otherPlaced, _, whole⟩ := always workingDisk [] index _ submitted
    cases placed.symm.trans otherPlaced
    exact (Completion.writtenWhole_iff member split).mp (whole split)
  · intro inRange disk outputDir index request placed
    have started := submitted_isPrefix_completions overflowChecks disk outputDir chunks
    obtain ⟨others, joined⟩ := started
    have inMap : ((completions (decodedEntries overflowChecks chunks)).map
        (Completion.request outputDir))[index]? = some request := by
      rw [← joined, List.getElem?_append_left (List.getElem?_eq_some_iff.mp placed).1]
      exact placed
    rw [List.getElem?_map] at inMap
    obtain ⟨completion, isCompletion, built⟩ := Option.map_eq_some_iff.mp inMap
    refine ⟨completion, isCompletion, built.symm, ?_⟩
    intro split
    have member := List.mem_of_getElem? isCompletion
    exact (Completion.writtenWhole_iff member split).mpr (inRange completion member split)

/-- A block with the parts 0 and 5 of a file of two parts. -/
def strayPartBlock : Bytes :=
  serialise 0
    [{ path := [0x61], offset := 0, size := 1, partIndex := 0, totalParts := 2 },
     { path := [0x61], offset := 1, size := 1, partIndex := 5, totalParts := 2 }] [1, 2]

/-- The file is submitted with part 1 missing and part 5 left out. -/
theorem strayPartBlock_written_short :
    ¬ ∀ (overflowChecks : Bool) (chunks : List Bytes) (disk : Disk) (outputDir : Path)
        (index : Nat) (request : WriteRequest),
      (receiveAndWrite overflowChecks disk outputDir chunks).submitted[index]? = some request →
      ∃ completion : Completion,
        (completions (decodedEntries overflowChecks chunks))[index]? = some completion ∧
        request = completion.request outputDir ∧
        (completion.received.1.totalParts ≠ 1 → completion.WrittenWhole) := by
  intro always
  obtain ⟨completion, placed, _, whole⟩ := always true [strayPartBlock] workingDisk [0x6F] 0
    { absPath := [0x6F, 0x2F, 0x61], data := [1] } (by decide +kernel)
  have first : (completions (decodedEntries true [strayPartBlock]))[0]? = some
      { done :=
          [({ path := [0x61], offset := 0, size := 1, partIndex := 0, totalParts := 2 }, [1])]
        received :=
          ({ path := [0x61], offset := 1, size := 1, partIndex := 5, totalParts := 2 }, [2])
        bytes := [1] } := by
    decide +kernel
  cases first.symm.trans placed
  exact absurd ((whole (by decide)).included 5 (by decide +kernel)) (by decide)

end Udpix.IoEngine

/-
Packing and unpacking any list of files.

The manifest stores the lossy text of a path, which is valid and is its own
lossy text.  So a block is also the block of its stored entries, and those are
read back as they are.  What remains is bookkeeping: the blocks are numbered in
order, and the entries group into those of each file.
-/

import Udpix.IoEngine.Reassembly

namespace Udpix.IoEngine

open Chunks Fallible UnixPath Protocol

namespace Packer

/-! ### What the manifest stores -/

/-- An entry as it is read back: its path is the lossy text. -/
def storedEntry (entry : FileEntry) : FileEntry :=
  { entry with path := Utf8.toStringLossy entry.path }

def Layout.stored (layout : Layout) : Layout :=
  { layout with entries := layout.entries.map storedEntry }

theorem entryBytes_storedEntry (entry : FileEntry) :
    entryBytes (storedEntry entry) = entryBytes entry := by
  simp only [entryBytes, storedEntry, Utf8.toStringLossy_toStringLossy]

/-- The bytes of a block do not tell a path from its lossy text. -/
theorem Layout.stored_block (layout : Layout) : layout.stored.block = layout.block := by
  simp only [Layout.block, Layout.stored, serialise, List.length_map, List.flatMap_map,
    entryBytes_storedEntry]

theorem Layout.WellFormed.stored {layout : Layout} (wellFormed : layout.WellFormed) :
    layout.stored.WellFormed where
  bounded := wellFormed.bounded
  within := by
    intro entry member
    obtain ⟨original, inEntries, rfl⟩ := List.mem_map.mp member
    exact wellFormed.within original inEntries
  filled := by
    obtain ⟨entry, member, reaches⟩ := wellFormed.filled
    exact ⟨storedEntry entry, List.mem_map.mpr ⟨entry, member, rfl⟩, reaches⟩
  covered := by
    change (layout.entries.map storedEntry).flatMap (entryData layout.payload) = layout.payload
    rw [List.flatMap_map]
    exact wellFormed.covered
  numbered := by
    intro entry member
    obtain ⟨original, inEntries, rfl⟩ := List.mem_map.mp member
    exact wellFormed.numbered original inEntries

/-! ### Block numbers -/

structure Numbered (state : PackState) : Prop where
  ids : state.blocks.map Layout.id = List.range state.blocks.length
  next : state.blockId = state.blocks.length

variable {state : PackState}

theorem Numbered.push (numbered : Numbered state) (layout : Layout)
    (named : layout.id = state.blockId) (after : PackState)
    (pushed : after.blocks = state.blocks ++ [layout])
    (counted : after.blockId = state.blockId + 1) : Numbered after where
  ids := by
    rw [pushed, List.map_append, List.length_append, numbered.ids, List.map_singleton, named,
      numbered.next, List.length_singleton, List.range_succ]
  next := by rw [counted, pushed, List.length_append, numbered.next, List.length_singleton]

theorem Numbered.flush (numbered : Numbered state) : Numbered (flush state) := by
  unfold Packer.flush
  split
  · exact numbered
  · exact numbered.push state.current rfl _ rfl rfl

theorem Numbered.foldl_packPart (numbered : Numbered state) (path : Path) (total : Nat)
    (parts : List (Bytes × Nat)) : Numbered (parts.foldl (packPart path total) state) := by
  induction parts generalizing state with
  | nil => exact numbered
  | cons part parts ih =>
      rw [List.foldl_cons]
      exact ih (numbered.push _ rfl _ rfl rfl)

theorem Numbered.appendFile (numbered : Numbered state) (path : Path) (bytes : Bytes) :
    Numbered (appendFile state path bytes) :=
  ⟨numbered.ids, numbered.next⟩

theorem Numbered.packFile (numbered : Numbered state) (file : Path × Bytes) :
    Numbered (packFile state file) := by
  unfold Packer.packFile
  split
  · exact numbered.flush.foldl_packPart file.1 _ _
  · unfold packSmall
    split
    · exact numbered.flush.appendFile file.1 file.2
    · exact numbered.appendFile file.1 file.2

theorem numbered_foldl (files : List (Path × Bytes)) :
    Numbered (files.foldl packFile PackState.start) := by
  induction files using List.reverseRecOn with
  | nil => exact ⟨rfl, rfl⟩
  | append_singleton files file ih =>
      rw [List.foldl_append]
      exact ih.packFile file

theorem packFiles_ids (files : List (Path × Bytes)) :
    (packFiles files).map PackBlock.id = List.range (packFiles files).length := by
  have numbered := (numbered_foldl files).flush.ids
  rw [packFiles, List.map_map, List.length_map]
  exact numbered

/-! ### The entries of each file -/

/-- What unpacking returns for one file: the whole of a file that fits a block,
or else its consecutive parts, all full but the last. -/
def Unpacked (file : Path × Bytes) (received : List (FileEntry × Bytes)) : Prop :=
  (∀ item, item ∈ received → item.1.path = Utf8.toStringLossy file.1) ∧
  if file.2.length ≤ BLOCK_SIZE then
    received.map (fun item => (item.1.partIndex, item.1.totalParts, item.2)) = [(0, 1, file.2)]
  else
    ∃ n, n = (file.2.length + BLOCK_SIZE - 1) / BLOCK_SIZE ∧ 2 ≤ n ∧
      received.map (fun item => item.1.partIndex) = List.range n ∧
      (∀ item, item ∈ received → item.1.totalParts = n) ∧
      (received.map Prod.snd).flatten = file.2 ∧
      ∀ index item, received[index]? = some item →
        if index + 1 < n then item.2.length = BLOCK_SIZE else 0 < item.2.length

/-- Parts that line up file by file come from entries that do. -/
theorem exists_groups {α β γ : Type} (view : α → β) (pieces : γ → List β) (files : List γ)
    (items : List α) (lined : items.map view = files.flatMap pieces) :
    ∃ groups : List (List α), groups.flatten = items ∧
      List.Forall₂ (fun file group => group.map view = pieces file) files groups := by
  induction files generalizing items with
  | nil =>
      have empty : items = [] := List.map_eq_nil_iff.mp lined
      exact ⟨[], by rw [empty]; rfl, List.Forall₂.nil⟩
  | cons file files ih =>
      rw [List.flatMap_cons] at lined
      obtain ⟨group, rest, split, ofFile, ofRest⟩ := List.map_eq_append_iff.mp lined
      obtain ⟨groups, flat, grouped⟩ := ih rest ofRest
      exact ⟨group :: groups, by rw [List.flatten_cons, flat, split],
        List.Forall₂.cons ofFile grouped⟩

/-- The indices of the parts of a large file count up from zero. -/
theorem indices_splitPart (path : Path) (total : Nat) (pieces : List Bytes)
    (fewParts : pieces.length < 2 ^ 32) :
    (pieces.zipIdx.map (splitPart path total)).map Part.index = List.range pieces.length := by
  have small : pieces.zipIdx.map (fun part => part.2 % 2 ^ 32) = pieces.zipIdx.map Prod.snd := by
    apply List.map_congr_left
    intro part member
    have within : part.2 < pieces.length :=
      (List.getElem?_eq_some_iff.mp (List.mem_zipIdx_iff_getElem?.mp member)).1
    exact Nat.mod_eq_of_lt (Nat.lt_trans within fewParts)
  rw [List.map_map, List.range_eq_range', ← List.zipIdx_map_snd 0]
  exact small

theorem unpacked_of_parts (file : Path × Bytes) (received : List (FileEntry × Bytes))
    (fewParts : (file.2.length + BLOCK_SIZE - 1) / BLOCK_SIZE < 2 ^ 32)
    (parts : received.map Assembly.receivedPart =
      fileParts (Utf8.toStringLossy file.1, file.2)) :
    Unpacked file received := by
  have count : (chunks BLOCK_SIZE file.2).length = (file.2.length + BLOCK_SIZE - 1) / BLOCK_SIZE :=
    length_chunks BLOCK_SIZE BLOCK_SIZE_pos file.2
  rw [← count] at fewParts
  have inParts : ∀ item, item ∈ received → Assembly.receivedPart item ∈
      fileParts (Utf8.toStringLossy file.1, file.2) := by
    intro item member
    rw [← parts]
    exact List.mem_map_of_mem member
  refine ⟨fun item member => fileParts_path _ _ (inParts item member), ?_⟩
  by_cases small : file.2.length ≤ BLOCK_SIZE
  · rw [if_pos small]
    rw [fileParts, if_neg (Nat.not_lt.mpr small)] at parts
    have viewed := congrArg (List.map fun part : Part => (part.index, part.total, part.data)) parts
    rw [List.map_map] at viewed
    exact viewed
  · rw [if_neg small]
    have large : BLOCK_SIZE < file.2.length := Nat.lt_of_not_le small
    rw [fileParts, if_pos large] at parts
    have data : received.map Prod.snd = chunks BLOCK_SIZE file.2 := by
      have datas := congrArg (List.map Part.data) parts
      rw [List.map_map, List.map_map] at datas
      rw [← List.zipIdx_map_fst 0 (chunks BLOCK_SIZE file.2)]
      exact datas
    refine ⟨_, rfl, ?_, ?_, ?_, ?_, ?_⟩
    · rw [← count]
      exact one_lt_length_filePieces file large
    · have indices := congrArg (List.map Part.index) parts
      rw [List.map_map, indices_splitPart _ _ _ fewParts, count] at indices
      exact indices
    · intro item member
      rcases fileParts_cases (Utf8.toStringLossy file.1, file.2) _ fewParts
        (inParts item member) with ⟨notLarge, _⟩ | ⟨_, _, _, _, built⟩
      · exact absurd large notLarge
      · rw [← count]
        exact congrArg Part.total built
    · rw [data]
      exact flatten_chunks BLOCK_SIZE BLOCK_SIZE_pos file.2
    · intro index item placed
      have piece : (chunks BLOCK_SIZE file.2)[index]? = some item.2 := by
        rw [← data, List.getElem?_map, placed]
        rfl
      rw [← count]
      split
      · rename_i notLast
        exact length_of_getElem?_chunks BLOCK_SIZE BLOCK_SIZE_pos file.2 index item.2 piece notLast
      · exact (length_of_mem_chunks BLOCK_SIZE BLOCK_SIZE_pos file.2 item.2
          (List.mem_of_getElem? piece)).1

/-! ### The whole list of files -/

def Layout.received (layout : Layout) : List (FileEntry × Bytes) :=
  layout.entries.map (fun entry => (storedEntry entry, entryData layout.payload entry))

variable {files : List (Path × Bytes)}

theorem storable_stored
    (shortPaths : ∀ file, file ∈ files → (Utf8.toStringLossy file.1).length ≤ 65535)
    (layout : Layout) (member : layout ∈ packLayouts files) (entry : FileEntry)
    (inStored : entry ∈ layout.stored.entries) : Storable entry.path := by
  obtain ⟨original, inEntries, rfl⟩ := List.mem_map.mp inStored
  obtain ⟨file, inFiles, path⟩ := path_of_mem_packLayouts layout member original inEntries
  refine ⟨Utf8.firstError_toStringLossy original.path, ?_⟩
  change (Utf8.toStringLossy original.path).length ≤ 65535
  rw [path]
  exact shortPaths file inFiles

theorem unpackEntries_stored (overflowChecks : Bool)
    (shortPaths : ∀ file, file ∈ files → (Utf8.toStringLossy file.1).length ≤ 65535)
    (layout : Layout) (member : layout ∈ packLayouts files)
    (fewEntries : layout.entries.length < 2 ^ 32) :
    unpackEntries overflowChecks layout.block = .ok layout.received := by
  have unpacked := unpackEntries_block overflowChecks layout.stored
    (packLayouts_wellFormed files layout member).stored
    (by rw [Layout.stored, List.length_map]; exact fewEntries)
    (storable_stored shortPaths layout member)
  rw [Layout.stored_block] at unpacked
  rw [unpacked, Layout.received, Layout.stored, List.map_map]
  rfl

theorem payload_stored
    (shortPaths : ∀ file, file ∈ files → (Utf8.toStringLossy file.1).length ≤ 65535)
    (layout : Layout) (member : layout ∈ packLayouts files)
    (fewEntries : layout.entries.length < 2 ^ 32) :
    readManifest layout.block.data =
        .ok (layout.stored.entries, payloadStart layout.stored.entries) ∧
      (layout.block.data.drop (payloadStart layout.stored.entries)).length ≤ BLOCK_SIZE := by
  have wellFormed := (packLayouts_wellFormed files layout member).stored
  have manifest := readManifest_serialise layout.stored.id layout.stored.entries
    layout.stored.payload (by rw [Layout.stored, List.length_map]; exact fewEntries)
    (wellFormed.encodable (storable_stored shortPaths layout member))
  rw [← Layout.stored_block]
  refine ⟨manifest, ?_⟩
  have long : layout.stored.block.data.length =
      payloadStart layout.stored.entries + layout.stored.payload.length := by
    change (serialise _ _ _).length = _
    rw [serialise, List.length_append, List.length_append, headerBytes_length, payloadStart]
  rw [List.length_drop, long, Nat.add_sub_cancel_left]
  exact wellFormed.bounded

theorem map_fileParts (rename : Path → Path) (file : Path × Bytes) :
    (fileParts file).map (fun part => { part with path := rename part.path }) =
      fileParts (rename file.1, file.2) := by
  unfold fileParts
  split
  · rw [List.map_map]
    rfl
  · rfl

/-- Packing and unpacking loses, duplicates and reorders nothing: the blocks are
numbered from zero, none carries more than the block size, all of them unpack,
and the entries in order are those of the files in order. -/
theorem unpackEntries_packFiles (overflowChecks : Bool) (files : List (Path × Bytes))
    (shortPaths : ∀ file, file ∈ files → (Utf8.toStringLossy file.1).length ≤ 65535)
    (fewEntries : ∀ layout, layout ∈ packLayouts files → layout.entries.length < 2 ^ 32)
    (fewParts : ∀ file, file ∈ files →
      (file.2.length + BLOCK_SIZE - 1) / BLOCK_SIZE < 2 ^ 32) :
    (packFiles files).map PackBlock.id = List.range (packFiles files).length ∧
    (∀ block, block ∈ packFiles files → ∃ entries start,
      readManifest block.data = .ok (entries, start) ∧
        (block.data.drop start).length ≤ BLOCK_SIZE) ∧
    ∃ results groups,
      (packFiles files).mapM (unpackEntries overflowChecks) = .ok results ∧
      results.flatten = groups.flatten ∧ List.Forall₂ Unpacked files groups := by
  have unpacked : (packFiles files).mapM (unpackEntries overflowChecks) =
      .ok ((packLayouts files).map Layout.received) := by
    rw [packFiles, List.mapM_map]
    apply mapM_eq_ok
    intro layout member
    rw [Function.comp_apply]
    exact unpackEntries_stored overflowChecks shortPaths layout member (fewEntries layout member)
  have lined : ((packLayouts files).map Layout.received).flatten.map Assembly.receivedPart =
      files.flatMap (fun file => fileParts (Utf8.toStringLossy file.1, file.2)) := by
    have renamed := congrArg (List.map fun part : Part =>
      { part with path := Utf8.toStringLossy part.path }) (packLayouts_parts files)
    rw [List.map_flatMap, List.map_flatMap] at renamed
    simp only [map_fileParts] at renamed
    rw [← renamed, ← List.flatMap_def, List.map_flatMap]
    apply List.flatMap_congr
    intro layout _
    rw [Layout.received, Layout.parts, List.map_map, List.map_map]
    rfl
  obtain ⟨groups, flat, grouped⟩ := exists_groups _ _ _ _ lined
  refine ⟨packFiles_ids files, ?_, _, groups, unpacked, flat.symm, ?_⟩
  · intro block member
    obtain ⟨layout, inLayouts, rfl⟩ := List.mem_map.mp member
    exact ⟨_, _, payload_stored shortPaths layout inLayouts (fewEntries layout inLayouts)⟩
  · refine List.forall₂_iff_get.mpr ⟨grouped.length_eq, ?_⟩
    intro index inFiles inGroups
    exact unpacked_of_parts _ _ (fewParts _ (List.get_mem _ _))
      ((List.forall₂_iff_get.mp grouped).2 index inFiles inGroups)

/-- The general statement for a path that is not UTF-8 and an empty file. -/
theorem unpackEntries_packFiles_lossyPath :
    (packFiles [([0x61, 0xFF], [1, 2]), ([0x62], [])]).map PackBlock.id = [0] ∧
    ∃ results groups,
      (packFiles [([0x61, 0xFF], [1, 2]), ([0x62], [])]).mapM (unpackEntries true) =
        .ok results ∧
      results.flatten = groups.flatten ∧
      List.Forall₂ Unpacked [([0x61, 0xFF], [1, 2]), ([0x62], [])] groups := by
  obtain ⟨ids, _, unpacked⟩ :=
    unpackEntries_packFiles true [([0x61, 0xFF], [1, 2]), ([0x62], [])]
      (by decide +kernel) (by decide +kernel) (by decide +kernel)
  have single : (packFiles [([0x61, 0xFF], [1, 2]), ([0x62], [])]).length = 1 := by
    decide +kernel
  rw [single] at ids
  exact ⟨ids, unpacked⟩

end Packer

end Udpix.IoEngine

/-
Sizes of blocks, and what unpacking says to a block that was cut short.

Reading never looks beyond what it has accepted, so a manifest read from the
beginning of a block is the manifest of the block.  The last entry of a block
ends where the block ends, so no beginning of a block unpacks.
-/

import Udpix.IoEngine.Reassembly
import Mathlib.Algebra.Order.BigOperators.Group.List
import Mathlib.Algebra.Order.Ring.Nat

namespace Udpix.IoEngine

open Chunks Fallible LittleEndian UnixPath Protocol

namespace Packer

/-! ### Reading the beginning of a buffer -/

section Append

variable {buf : Bytes} {pos count : Nat} (tail : Bytes)

theorem readBytes_append {read : Bytes × Nat} (succeeds : readBytes buf pos count = .ok read) :
    readBytes (buf ++ tail) pos count = .ok read := by
  unfold readBytes at succeeds ⊢
  split at succeeds
  · cases succeeds
  · rename_i enough
    rw [if_neg (by rw [List.length_append]; omega), List.drop_append_of_le_length (by omega),
      List.take_append_of_le_length (by rw [List.length_drop]; omega)]
    exact succeeds

theorem readBytes_next {read : Bytes × Nat} (succeeds : readBytes buf pos count = .ok read) :
    read.2 ≤ buf.length := by
  unfold readBytes at succeeds
  split at succeeds
  · cases succeeds
  · cases succeeds
    dsimp only
    omega

theorem readUint_append {width : Nat} {read : Nat × Nat}
    (succeeds : readUint width buf pos = .ok read) :
    readUint width (buf ++ tail) pos = .ok read := by
  unfold readUint at succeeds ⊢
  obtain ⟨⟨bytes, next⟩, fieldRead, rest⟩ := bind_eq_ok succeeds
  rw [readBytes_append tail fieldRead]
  exact rest

theorem readUint_next {width : Nat} {read : Nat × Nat}
    (succeeds : readUint width buf pos = .ok read) : read.2 ≤ buf.length := by
  unfold readUint at succeeds
  obtain ⟨⟨bytes, next⟩, fieldRead, rest⟩ := bind_eq_ok succeeds
  cases rest
  exact readBytes_next fieldRead

theorem readEntry_append {read : FileEntry × Nat} (succeeds : readEntry buf pos = .ok read) :
    readEntry (buf ++ tail) pos = .ok read ∧ read.2 ≤ buf.length := by
  unfold readEntry readU16 readU64 readU32 at succeeds ⊢
  obtain ⟨⟨pathLen, afterLen⟩, lenRead, succeeds⟩ := bind_eq_ok succeeds
  obtain ⟨⟨pathBytes, afterPath⟩, pathRead, succeeds⟩ := bind_eq_ok succeeds
  obtain ⟨path, decoded, succeeds⟩ := bind_eq_ok succeeds
  obtain ⟨⟨offset, afterOffset⟩, offsetRead, succeeds⟩ := bind_eq_ok succeeds
  obtain ⟨⟨size, afterSize⟩, sizeRead, succeeds⟩ := bind_eq_ok succeeds
  obtain ⟨⟨partIndex, afterPart⟩, partRead, succeeds⟩ := bind_eq_ok succeeds
  obtain ⟨⟨totalParts, afterTotal⟩, totalRead, succeeds⟩ := bind_eq_ok succeeds
  dsimp only at pathRead decoded offsetRead sizeRead partRead totalRead succeeds
  cases succeeds
  refine ⟨?_, readUint_next totalRead⟩
  rw [readUint_append tail lenRead]
  simp only [bind, Except.bind]
  rw [readBytes_append tail pathRead]
  dsimp only
  rw [decoded]
  dsimp only
  rw [readUint_append tail offsetRead]
  dsimp only
  rw [readUint_append tail sizeRead]
  dsimp only
  rw [readUint_append tail partRead]
  dsimp only
  rw [readUint_append tail totalRead]
  rfl

theorem readEntries_append {entryCount : Nat} {read : List FileEntry × Nat}
    (within : pos ≤ buf.length) (succeeds : readEntries buf entryCount pos = .ok read) :
    readEntries (buf ++ tail) entryCount pos = .ok read ∧ read.2 ≤ buf.length := by
  induction entryCount generalizing pos read with
  | zero =>
      unfold readEntries at succeeds ⊢
      cases succeeds
      exact ⟨rfl, within⟩
  | succ entryCount ih =>
      unfold readEntries at succeeds ⊢
      obtain ⟨⟨entry, afterEntry⟩, entryRead, succeeds⟩ := bind_eq_ok succeeds
      obtain ⟨⟨entries, afterEntries⟩, entriesRead, succeeds⟩ := bind_eq_ok succeeds
      dsimp only at entriesRead succeeds
      cases succeeds
      obtain ⟨entryWhole, entryWithin⟩ := readEntry_append tail entryRead
      obtain ⟨entriesWhole, entriesWithin⟩ := ih entryWithin entriesRead
      refine ⟨?_, entriesWithin⟩
      rw [entryWhole]
      simp only [bind, Except.bind]
      rw [entriesWhole]
      rfl

theorem readManifest_append {read : List FileEntry × Nat}
    (succeeds : readManifest buf = .ok read) :
    readManifest (buf ++ tail) = .ok read ∧ read.2 ≤ buf.length := by
  unfold readManifest readU32 readU16 readU64 at succeeds ⊢
  obtain ⟨⟨magic, afterMagic⟩, magicRead, succeeds⟩ := bind_eq_ok succeeds
  obtain ⟨⟨version, afterVersion⟩, versionRead, succeeds⟩ := bind_eq_ok succeeds
  obtain ⟨⟨blockId, afterId⟩, idRead, succeeds⟩ := bind_eq_ok succeeds
  obtain ⟨⟨entryCount, afterCount⟩, countRead, succeeds⟩ := bind_eq_ok succeeds
  dsimp only at versionRead idRead countRead succeeds
  rw [readUint_append tail magicRead]
  simp only [bind, Except.bind]
  rw [readUint_append tail versionRead]
  dsimp only
  rw [readUint_append tail idRead]
  dsimp only
  rw [readUint_append tail countRead]
  dsimp only
  split at succeeds
  · cases succeeds
  · rename_i magicOk
    rw [if_neg magicOk]
    exact readEntries_append tail (readUint_next countRead) succeeds

end Append

/-- No proper beginning of a block unpacks. -/
theorem unpackEntries_take (overflowChecks : Bool) (layout : Layout)
    (wellFormed : layout.WellFormed) (fewEntries : layout.entries.length < 2 ^ 32)
    (storable : ∀ entry, entry ∈ layout.entries → Storable entry.path)
    (length : Nat) (short : length < layout.block.data.length) (small : length < 2 ^ 32)
    (entries : List (FileEntry × Bytes)) :
    unpackEntries overflowChecks { id := 0, data := layout.block.data.take length } ≠
      .ok entries := by
  intro succeeds
  unfold unpackEntries at succeeds
  dsimp only at succeeds
  cases manifest : readManifest (layout.block.data.take length) with
  | error reason =>
      rw [manifest] at succeeds
      cases succeeds
  | ok read =>
      rw [manifest] at succeeds
      obtain ⟨whole, startWithin⟩ :=
        readManifest_append (layout.block.data.drop length) manifest
      rw [List.take_append_drop] at whole
      have original := readManifest_serialise layout.id layout.entries layout.payload fewEntries
        (wellFormed.encodable storable)
      change readManifest layout.block.data = _ at original
      rw [original] at whole
      cases whole
      obtain ⟨last, inEntries, ends⟩ := wellFormed.filled
      obtain ⟨value, sliced⟩ := mapM_ok_mem succeeds last inEntries
      -- the last entry ends with the whole block, beyond the cut
      have cutLength : (layout.block.data.take length).length = length := by
        rw [List.length_take]
        omega
      have wholeLength : layout.block.data.length =
          payloadStart layout.entries + layout.payload.length := by
        unfold Layout.block serialise payloadStart
        dsimp only
        rw [List.length_append, List.length_append, headerBytes_length]
      have bounded := wellFormed.bounded
      unfold BLOCK_SIZE at bounded
      dsimp only at startWithin
      rw [cutLength] at startWithin
      unfold sliceEntry at sliced
      rw [addUsize_of_lt overflowChecks _ _ (by omega)] at sliced
      dsimp only at sliced
      rw [addUsize_of_lt overflowChecks _ _ (by omega)] at sliced
      dsimp only at sliced
      rw [if_pos (by omega)] at sliced
      cases sliced

/-! ### Sizes -/

def partWeight (part : Part) : Nat := 26 + part.path.length + part.data.length

def oneBlockLength (files : List (Path × Bytes)) : Nat :=
  18 + (files.map (fun file => 26 + file.1.length + file.2.length)).sum

theorem block_length (layout : Layout) (wellFormed : layout.WellFormed)
    (storable : ∀ entry, entry ∈ layout.entries → Storable entry.path) :
    layout.block.data.length = 18 + (layout.parts.map partWeight).sum := by
  have weights : ∀ entries : List FileEntry,
      (∀ entry, entry ∈ entries → Storable entry.path) →
      (entries.flatMap entryBytes).length +
          (entries.flatMap (entryData layout.payload)).length =
        ((entries.map (entryPart layout.payload)).map partWeight).sum := by
    intro entries
    induction entries with
    | nil =>
        intro _
        rfl
    | cons entry rest ih =>
        intro stored
        have others := ih (fun other member => stored other (List.mem_cons_of_mem _ member))
        have valid := (stored entry List.mem_cons_self).1
        rw [List.flatMap_cons, List.flatMap_cons, List.length_append, List.length_append,
          List.map_cons, List.map_cons, List.sum_cons, ← others, entryBytes_length,
          Utf8.toStringLossy_of_valid _ valid]
        unfold partWeight entryPart
        dsimp only
        omega
  have total := weights layout.entries storable
  rw [wellFormed.covered] at total
  unfold Layout.block serialise Layout.parts
  dsimp only
  rw [List.length_append, List.length_append, headerBytes_length, ← total]
  omega

theorem sum_partWeight_fileParts (file : Path × Bytes) (small : ¬ BLOCK_SIZE < file.2.length) :
    ((fileParts file).map partWeight).sum = 26 + file.1.length + file.2.length := by
  unfold fileParts
  rw [if_neg small]
  rfl

theorem length_le_sum_partWeight (file : Path × Bytes) :
    file.2.length ≤ ((fileParts file).map partWeight).sum := by
  by_cases large : BLOCK_SIZE < file.2.length
  · have lengths : ∀ pieces : List (Bytes × Nat),
        ((pieces.map Prod.fst).flatten).length ≤
          ((pieces.map (splitPart file.1 (totalParts file.2))).map partWeight).sum := by
      intro pieces
      induction pieces with
      | nil => exact Nat.le_refl 0
      | cons piece rest ih =>
          rw [List.map_cons, List.flatten_cons, List.length_append, List.map_cons,
            List.map_cons, List.sum_cons]
          apply Nat.add_le_add _ ih
          exact Nat.le_add_left _ _
    have bound := lengths (chunks BLOCK_SIZE file.2).zipIdx
    rw [List.zipIdx_map_fst, flatten_chunks BLOCK_SIZE BLOCK_SIZE_pos] at bound
    unfold fileParts
    rw [if_pos large]
    exact bound
  · rw [sum_partWeight_fileParts file large]
    exact Nat.le_add_left _ _

theorem sum_parts_le {layout : Layout} {layouts : List Layout} (member : layout ∈ layouts) :
    (layout.parts.map partWeight).sum ≤ ((layouts.flatMap Layout.parts).map partWeight).sum := by
  induction layouts with
  | nil => cases member
  | cons head rest ih =>
      rw [List.flatMap_cons, List.map_append, List.sum_append]
      rcases List.mem_cons.mp member with isHead | inRest
      · rw [isHead]
        exact Nat.le_add_right _ _
      · exact Nat.le_trans (ih inRest) (Nat.le_add_left _ _)

theorem sum_fileParts_of_small (files : List (Path × Bytes))
    (small : ∀ file, file ∈ files → ¬ BLOCK_SIZE < file.2.length) :
    ((files.flatMap fileParts).map partWeight).sum =
      (files.map (fun file => 26 + file.1.length + file.2.length)).sum := by
  induction files with
  | nil => rfl
  | cons file rest ih =>
      rw [List.flatMap_cons, List.map_append, List.sum_append, List.map_cons, List.sum_cons,
        sum_partWeight_fileParts file (small file List.mem_cons_self),
        ih (fun other member => small other (List.mem_cons_of_mem _ member))]

theorem length_le_sum_of_mem {files : List (Path × Bytes)} {file : Path × Bytes}
    (member : file ∈ files) :
    file.2.length ≤ ((files.flatMap fileParts).map partWeight).sum := by
  induction files with
  | nil => cases member
  | cons head rest ih =>
      rw [List.flatMap_cons, List.map_append, List.sum_append]
      rcases List.mem_cons.mp member with isHead | inRest
      · rw [isHead]
        exact Nat.le_trans (length_le_sum_partWeight head) (Nat.le_add_right _ _)
      · exact Nat.le_trans (ih inRest) (Nat.le_add_left _ _)

/-! ### More than one block means a big block -/

theorem exists_big_part (size : Nat) (room : size < BLOCK_SIZE) (file : Path × Bytes)
    (big : size < file.2.length) : ∃ part, part ∈ fileParts file ∧ size < part.data.length := by
  by_cases large : BLOCK_SIZE < file.2.length
  · have nonempty : file.2 ≠ [] := List.ne_nil_of_length_pos (by omega)
    have cut := chunks_of_ne_nil BLOCK_SIZE BLOCK_SIZE_pos file.2 nonempty
    refine ⟨splitPart file.1 (totalParts file.2) (file.2.take BLOCK_SIZE, 0), ?_, ?_⟩
    · unfold fileParts
      rw [if_pos large, cut, List.zipIdx_cons]
      exact List.mem_map_of_mem List.mem_cons_self
    · change size < (file.2.take BLOCK_SIZE).length
      rw [List.length_take]
      omega
  · refine ⟨{ path := file.1, index := 0, total := 1, data := file.2 }, ?_, big⟩
    unfold fileParts
    rw [if_neg large]
    exact List.mem_cons_self

theorem exists_big_layout (size : Nat) (room : size < BLOCK_SIZE)
    (files : List (Path × Bytes)) (file : Path × Bytes) (member : file ∈ files)
    (big : size < file.2.length) :
    ∃ layout, layout ∈ packLayouts files ∧ size < layout.payload.length := by
  obtain ⟨part, ofFile, bigPart⟩ := exists_big_part size room file big
  have inParts : part ∈ (packLayouts files).flatMap Layout.parts := by
    rw [packLayouts_parts]
    exact List.mem_flatMap.mpr ⟨file, member, ofFile⟩
  obtain ⟨layout, inLayouts, inLayout⟩ := List.mem_flatMap.mp inParts
  obtain ⟨entry, _, built⟩ := List.mem_map.mp inLayout
  refine ⟨layout, inLayouts, ?_⟩
  rw [← built] at bigPart
  change size < (entryData layout.payload entry).length at bigPart
  unfold entryData at bigPart
  rw [List.length_take, List.length_drop] at bigPart
  omega

/-- Until a block is flushed there is none; a flush of small files leaves a
block behind that is larger than any of them. -/
theorem unflushed_or_big (size : Nat) (room : 2 * size < BLOCK_SIZE)
    (files : List (Path × Bytes)) (short : ∀ file, file ∈ files → file.2.length ≤ size) :
    (files.foldl packFile PackState.start).blocks = [] ∨
      ∃ layout, layout ∈ (files.foldl packFile PackState.start).blocks ++
          [(files.foldl packFile PackState.start).current] ∧ size < layout.payload.length := by
  induction files using List.reverseRecOn with
  | nil => exact Or.inl rfl
  | append_singleton files file ih =>
      have before := ih (fun other member => short other (List.mem_append_left _ member))
      have packed := packed_foldl files
      have fileShort := short file (List.mem_append_right _ List.mem_cons_self)
      have small : ¬ BLOCK_SIZE < file.2.length := by omega
      rw [List.foldl_append, List.foldl_cons, List.foldl_nil]
      obtain ⟨state, isState⟩ : ∃ state, files.foldl packFile PackState.start = state :=
        ⟨_, rfl⟩
      rw [isState] at before packed ⊢
      unfold packFile packSmall
      rw [if_neg small]
      split
      · rename_i overfull
        -- the block in progress is flushed, and it is larger than a file
        have bigCurrent : size < state.payload.length := by omega
        have occupied : ¬ state.entries.isEmpty = true := by
          intro empty
          have idle := flush_idle packed
          unfold flush at idle
          rw [if_pos empty] at idle
          rw [idle.2] at bigCurrent
          exact Nat.not_lt_zero _ bigCurrent
        refine Or.inr ⟨state.current, ?_, bigCurrent⟩
        apply List.mem_append_left
        change state.current ∈ (flush state).blocks
        unfold flush
        rw [if_neg occupied]
        exact List.mem_append_right _ List.mem_cons_self
      · rcases before with noBlocks | ⟨layout, member, big⟩
        · exact Or.inl noBlocks
        · refine Or.inr ?_
          rcases List.mem_append.mp member with finished | isCurrent
          · exact ⟨layout, List.mem_append_left _ finished, big⟩
          · refine ⟨_, List.mem_append_right _ List.mem_cons_self, ?_⟩
            rw [List.mem_singleton.mp isCurrent] at big
            change size < (state.payload ++ file.2).length
            rw [List.length_append]
            exact Nat.lt_of_lt_of_le big (Nat.le_add_right _ _)

theorem big_or_single (size : Nat) (room : 2 * size < BLOCK_SIZE)
    (files : List (Path × Bytes)) :
    (∃ layout, layout ∈ packLayouts files ∧ size < layout.payload.length) ∨
      (packLayouts files).length ≤ 1 := by
  by_cases someBig : ∃ file, file ∈ files ∧ size < file.2.length
  · obtain ⟨file, member, big⟩ := someBig
    exact Or.inl (exists_big_layout size (by omega) files file member big)
  · have short : ∀ file, file ∈ files → file.2.length ≤ size := by
      intro file member
      apply Nat.le_of_not_lt
      intro big
      exact someBig ⟨file, member, big⟩
    have packed := packed_foldl files
    unfold packLayouts flush
    split
    · rename_i empty
      rcases unflushed_or_big size room files short with noBlocks | ⟨layout, member, big⟩
      · rw [noBlocks]
        exact Or.inr (Nat.zero_le 1)
      · rcases List.mem_append.mp member with finished | isCurrent
        · exact Or.inl ⟨layout, finished, big⟩
        · have idle := flush_idle packed
          unfold flush at idle
          rw [if_pos empty] at idle
          rw [List.mem_singleton.mp isCurrent] at big
          change size < (files.foldl packFile PackState.start).payload.length at big
          rw [idle.2] at big
          exact absurd big (Nat.not_lt_zero _)
    · rcases unflushed_or_big size room files short with noBlocks | big
      · rw [noBlocks]
        exact Or.inr (Nat.le_refl 1)
      · exact Or.inl big

/-- Every block fits a given size exactly when one block with all the files
would. -/
theorem blocks_le_iff (size : Nat) (header : 18 ≤ size) (room : 2 * size < BLOCK_SIZE)
    (files : List (Path × Bytes)) (storable : ∀ file, file ∈ files → Storable file.1) :
    (∀ layout, layout ∈ packLayouts files → layout.block.data.length ≤ size) ↔
      oneBlockLength files ≤ size := by
  have lengthEq : ∀ layout, layout ∈ packLayouts files →
      layout.block.data.length = 18 + (layout.parts.map partWeight).sum :=
    fun layout member => block_length layout (packLayouts_wellFormed files layout member)
      (storable_of_mem_packLayouts storable layout member)
  have payloadLe : ∀ layout : Layout, layout.payload.length ≤ layout.block.data.length := by
    intro layout
    unfold Layout.block serialise
    dsimp only
    rw [List.length_append]
    exact Nat.le_add_left _ _
  constructor
  · intro fit
    rcases big_or_single size room files with ⟨layout, member, big⟩ | single
    · have within := fit layout member
      have payload := payloadLe layout
      omega
    · have total : 18 + ((files.flatMap fileParts).map partWeight).sum ≤ size := by
        rw [← packLayouts_parts]
        cases layouts : packLayouts files with
        | nil => exact header
        | cons layout rest =>
            rw [layouts] at single fit lengthEq
            have noMore : rest = [] := by
              apply List.length_eq_zero_iff.mp
              rw [List.length_cons] at single
              omega
            have within := fit layout List.mem_cons_self
            rw [lengthEq layout List.mem_cons_self] at within
            rw [noMore, List.flatMap_singleton]
            exact within
      have small : ∀ file, file ∈ files → ¬ BLOCK_SIZE < file.2.length := by
        intro file member large
        have fileLe := length_le_sum_of_mem member
        omega
      rw [sum_fileParts_of_small files small] at total
      exact total
  · intro fits layout member
    unfold oneBlockLength at fits
    have small : ∀ file, file ∈ files → ¬ BLOCK_SIZE < file.2.length := by
      intro file inFiles large
      have fileLe : 26 + file.1.length + file.2.length ≤
          (files.map (fun other => 26 + other.1.length + other.2.length)).sum :=
        List.single_le_sum (fun _ _ => Nat.zero_le _) _ (List.mem_map_of_mem inFiles)
      omega
    have partsLe := sum_parts_le member
    rw [packLayouts_parts, sum_fileParts_of_small files small] at partsLe
    rw [lengthEq layout member]
    omega

end Packer

end Udpix.IoEngine

/-
Putting split files together, whatever the order of their parts.

The unfinished files and the files completed so far form an assembly.  One
received part does one of three things to it, and every invariant is proved from
that case distinction: an unsplit file is completed at once, a part of a split
file is collected, or it completes the file and empties its map.
-/

import Udpix.IoEngine.PackRoundTrip
import Udpix.IoEngine.Writer
import Udpix.Library.PartMap

namespace Udpix.IoEngine

open Chunks PartMap UnixPath Protocol Packer AsyncWriter

/-! ### Parts of a file -/

def filePieces (file : Path × Bytes) : List Bytes := chunks BLOCK_SIZE file.2

def fileKey (file : Path × Bytes) : List Component := components file.1

theorem flatten_filePieces (file : Path × Bytes) : (filePieces file).flatten = file.2 :=
  flatten_chunks BLOCK_SIZE BLOCK_SIZE_pos file.2

theorem totalParts_eq (file : Path × Bytes) (fewParts : (filePieces file).length < 2 ^ 32) :
    totalParts file.2 = (filePieces file).length := by
  have count : (filePieces file).length =
      (file.2.length + BLOCK_SIZE - 1) / BLOCK_SIZE :=
    length_chunks BLOCK_SIZE BLOCK_SIZE_pos file.2
  unfold totalParts
  rw [← count, Nat.mod_eq_of_lt fewParts]

theorem one_lt_length_filePieces (file : Path × Bytes) (large : BLOCK_SIZE < file.2.length) :
    1 < (filePieces file).length := by
  unfold filePieces
  rw [length_chunks BLOCK_SIZE BLOCK_SIZE_pos]
  apply (Nat.le_div_iff_mul_le BLOCK_SIZE_pos).mpr
  have positive := BLOCK_SIZE_pos
  omega

theorem fileParts_cases (file : Path × Bytes) (part : Part)
    (fewParts : (filePieces file).length < 2 ^ 32) (member : part ∈ fileParts file) :
    (¬ BLOCK_SIZE < file.2.length ∧
      part = { path := file.1, index := 0, total := 1, data := file.2 }) ∨
    (BLOCK_SIZE < file.2.length ∧ ∃ index data, (filePieces file)[index]? = some data ∧
      part = { path := file.1, index := index, total := (filePieces file).length,
               data := data }) := by
  unfold fileParts at member
  split at member
  · rename_i large
    obtain ⟨⟨data, index⟩, inPieces, built⟩ := List.mem_map.mp member
    have placed : (filePieces file)[index]? = some data :=
      List.mem_zipIdx_iff_getElem?.mp inPieces
    have within := (List.getElem?_eq_some_iff.mp placed).1
    refine Or.inr ⟨large, index, data, placed, ?_⟩
    rw [← built]
    unfold splitPart
    rw [totalParts_eq file fewParts, Nat.mod_eq_of_lt (Nat.lt_trans within fewParts)]
  · rename_i small
    exact Or.inl ⟨small, List.mem_singleton.mp member⟩

theorem fileParts_length (file : Path × Bytes) :
    (fileParts file).length =
      if BLOCK_SIZE < file.2.length then (filePieces file).length else 1 := by
  unfold fileParts
  split
  · rw [List.length_map, List.length_zipIdx]
    rfl
  · rfl

theorem fileParts_path (file : Path × Bytes) (part : Part) (member : part ∈ fileParts file) :
    part.path = file.1 := by
  unfold fileParts at member
  split at member
  · obtain ⟨piece, _, built⟩ := List.mem_map.mp member
    rw [← built]
    rfl
  · rw [List.mem_singleton.mp member]

theorem path_of_mem_packLayouts {files : List (Path × Bytes)} (layout : Layout)
    (member : layout ∈ packLayouts files) (entry : FileEntry)
    (inEntries : entry ∈ layout.entries) : ∃ file, file ∈ files ∧ entry.path = file.1 := by
  have inParts : entryPart layout.payload entry ∈ files.flatMap fileParts := by
    rw [← packLayouts_parts]
    exact List.mem_flatMap.mpr ⟨layout, member, List.mem_map.mpr ⟨entry, inEntries, rfl⟩⟩
  obtain ⟨file, inFiles, ofFile⟩ := List.mem_flatMap.mp inParts
  exact ⟨file, inFiles, fileParts_path file _ ofFile⟩

theorem storable_of_mem_packLayouts {files : List (Path × Bytes)}
    (storable : ∀ file, file ∈ files → Storable file.1)
    (layout : Layout) (member : layout ∈ packLayouts files) (entry : FileEntry)
    (inEntries : entry ∈ layout.entries) : Storable entry.path := by
  obtain ⟨file, inFiles, path⟩ := path_of_mem_packLayouts layout member entry inEntries
  rw [path]
  exact storable file inFiles

/-! ### Assemblies -/

structure Assembly where
  partialFiles : AssocMap (List Component) PartialFile
  completed : List (Path × Bytes)

namespace Assembly

def empty : Assembly := { partialFiles := ∅, completed := [] }

def absorb (assembly : Assembly) (received : FileEntry × Bytes) : Assembly :=
  let (partialFiles, complete) := acceptEntry assembly.partialFiles received.1 received.2
  { partialFiles := partialFiles
    completed := assembly.completed ++
      complete.toList.map (fun bytes => (received.1.path, bytes)) }

def run (entries : List (FileEntry × Bytes)) : Assembly := entries.foldl absorb empty

theorem run_snoc (entries : List (FileEntry × Bytes)) (received : FileEntry × Bytes) :
    run (entries ++ [received]) = (run entries).absorb received := by
  unfold run
  rw [List.foldl_append]
  rfl

def partsOf (assembly : Assembly) (key : List Component) : AssocMap Nat Bytes :=
  match assembly.partialFiles.lookup key with
  | some file => file.parts
  | none => ∅

def receivedPart (received : FileEntry × Bytes) : Part :=
  { path := received.1.path
    index := received.1.partIndex
    total := received.1.totalParts
    data := received.2 }

/-- What holds of an assembly that received some parts of the files. -/
structure Follows (files : List (Path × Bytes)) (seen : List Part)
    (assembly : Assembly) : Prop where
  exact : ∀ file, file ∈ assembly.completed → file ∈ files
  totals : ∀ key unfinished, assembly.partialFiles.lookup key = some unfinished →
    ∃ file, file ∈ files ∧ fileKey file = key ∧ BLOCK_SIZE < file.2.length ∧
      unfinished.totalParts = (filePieces file).length
  agrees : ∀ file, file ∈ files →
    Agrees (assembly.partsOf (fileKey file)) (filePieces file)
  unfinished : ∀ file, file ∈ files → BLOCK_SIZE < file.2.length →
    (assembly.partsOf (fileKey file)).size < (filePieces file).length
  kept : ∀ file, file ∈ files → ∀ part, part ∈ fileParts file → part ∈ seen →
    file ∈ assembly.completed ∨
      ((assembly.partsOf (fileKey file)).lookup part.index).isSome = true
  counted : ∀ file, file ∈ files →
    assembly.completed.count file * (fileParts file).length +
        (assembly.partsOf (fileKey file)).size ≤
      (seen.filter (fun part => components part.path = fileKey file)).length

/-- The three things a part of a file can do. -/
inductive Absorbed (file : Path × Bytes) (part : Part) (before after : Assembly) : Prop
  | whole (small : ¬ BLOCK_SIZE < file.2.length)
      (completed : after.completed = before.completed ++ [file])
      (partials : after.partialFiles = before.partialFiles)
  | collected (large : BLOCK_SIZE < file.2.length)
      (placed : (filePieces file)[part.index]? = some part.data)
      (unfinished : AssocMap.size ((before.partsOf (fileKey file)).insert part.index part.data) <
        (filePieces file).length)
      (completed : after.completed = before.completed)
      (partials : after.partialFiles = before.partialFiles.insert (fileKey file)
        { totalParts := (filePieces file).length
          parts := (before.partsOf (fileKey file)).insert part.index part.data })
  | finished (large : BLOCK_SIZE < file.2.length)
      (placed : (filePieces file)[part.index]? = some part.data)
      (full : AssocMap.size ((before.partsOf (fileKey file)).insert part.index part.data) =
        (filePieces file).length)
      (completed : after.completed = before.completed ++ [file])
      (partials : after.partialFiles = before.partialFiles.erase (fileKey file))

variable {files : List (Path × Bytes)} {seen : List Part} {assembly : Assembly}

theorem follows_empty (files : List (Path × Bytes)) : Follows files [] empty where
  exact := by
    intro file member
    cases member
  totals := by
    intro key unfinished found
    change (∅ : AssocMap (List Component) PartialFile).lookup key = some unfinished at found
    rw [AList.lookup_empty] at found
    cases found
  agrees := by
    intro file _
    exact agrees_empty _
  unfinished := by
    intro file _ large
    exact Nat.lt_trans Nat.zero_lt_one (one_lt_length_filePieces file large)
  kept := by
    intro file _ part _ member
    cases member
  counted := by
    intro file _
    exact Nat.le_of_eq (Nat.zero_mul _)

theorem Follows.lookup_getD (follows : Follows files seen assembly)
    (distinct : (files.map fileKey).Nodup) (file : Path × Bytes) (member : file ∈ files) :
    (assembly.partialFiles.lookup (fileKey file)).getD
        { totalParts := (filePieces file).length, parts := ∅ } =
      { totalParts := (filePieces file).length
        parts := assembly.partsOf (fileKey file) } := by
  unfold partsOf
  cases found : assembly.partialFiles.lookup (fileKey file) with
  | none => rfl
  | some unfinished =>
      obtain ⟨other, otherMember, sameKey, _, total⟩ :=
        follows.totals (fileKey file) unfinished found
      have same : other = file := List.inj_on_of_nodup_map distinct otherMember member sameKey
      rw [Option.getD_some, ← same, ← total]

theorem Follows.acceptEntry_part (follows : Follows files seen assembly)
    (distinct : (files.map fileKey).Nodup) {file : Path × Bytes} (member : file ∈ files)
    {entry : FileEntry} {data : Bytes} (several : entry.totalParts ≠ 1)
    (path : entry.path = file.1) (total : entry.totalParts = (filePieces file).length)
    (placed : (filePieces file)[entry.partIndex]? = some data) :
    acceptEntry assembly.partialFiles entry data =
      if AssocMap.size ((assembly.partsOf (fileKey file)).insert entry.partIndex data) =
          (filePieces file).length
      then (assembly.partialFiles.erase (fileKey file), some file.2)
      else (assembly.partialFiles.insert (fileKey file)
        { totalParts := (filePieces file).length
          parts := (assembly.partsOf (fileKey file)).insert entry.partIndex data }, none) := by
  have key : components entry.path = fileKey file := by
    rw [path]
    rfl
  have grownAgrees : Agrees ((assembly.partsOf (fileKey file)).insert entry.partIndex data)
      (filePieces file) := (follows.agrees file member).insert placed
  unfold acceptEntry
  rw [if_neg several]
  dsimp only
  rw [key, total, follows.lookup_getD distinct file member]
  unfold PartialFile.isComplete PartialFile.assemble
  dsimp only
  by_cases full : AssocMap.size
      ((assembly.partsOf (fileKey file)).insert entry.partIndex data) = (filePieces file).length
  · rw [if_pos (decide_eq_true full), if_pos full, grownAgrees.flatMap_eq_flatten full,
      flatten_filePieces]
  · rw [if_neg (by rw [decide_eq_true_iff]; exact full), if_neg full]

theorem Follows.absorbed (follows : Follows files seen assembly)
    (distinct : (files.map fileKey).Nodup) (file : Path × Bytes) (member : file ∈ files)
    (fewParts : (filePieces file).length < 2 ^ 32) (received : FileEntry × Bytes)
    (ofFile : receivedPart received ∈ fileParts file) :
    Absorbed file (receivedPart received) assembly (assembly.absorb received) := by
  obtain ⟨entry, data⟩ := received
  rcases fileParts_cases file _ fewParts ofFile with ⟨small, built⟩ | ⟨large, index, piece,
    placed, built⟩
  · have total : entry.totalParts = 1 := congrArg Part.total built
    have path : entry.path = file.1 := congrArg Part.path built
    have bytes : data = file.2 := congrArg Part.data built
    have accepted : acceptEntry assembly.partialFiles entry data =
        (assembly.partialFiles, some data) := by
      unfold acceptEntry
      rw [if_pos total]
    apply Absorbed.whole small
    · unfold absorb
      rw [accepted, path, bytes]
      rfl
    · unfold absorb
      rw [accepted]
  · have total : entry.totalParts = (filePieces file).length := congrArg Part.total built
    have path : entry.path = file.1 := congrArg Part.path built
    have partIndex : entry.partIndex = index := congrArg Part.index built
    have bytes : data = piece := congrArg Part.data built
    have severalParts : ¬ entry.totalParts = 1 := by
      have several := one_lt_length_filePieces file large
      omega
    have bounded := ((follows.agrees file member).insert placed).size_le
    subst partIndex bytes
    have step := follows.acceptEntry_part distinct member severalParts path total placed
    by_cases full : AssocMap.size
        ((assembly.partsOf (fileKey file)).insert entry.partIndex data) =
          (filePieces file).length
    · rw [if_pos full] at step
      apply Absorbed.finished large placed full
      · unfold absorb
        rw [step, path]
        rfl
      · unfold absorb
        rw [step]
    · rw [if_neg full] at step
      apply Absorbed.collected large placed
      · change AssocMap.size
          ((assembly.partsOf (fileKey file)).insert entry.partIndex data) < _
        omega
      · unfold absorb
        rw [step]
        exact List.append_nil _
      · unfold absorb
        rw [step]
        rfl

/-! ### What every part preserves -/

private theorem filter_snoc_of_mem (seen : List Part) {file : Path × Bytes} {part : Part}
    (ofFile : part ∈ fileParts file) :
    ((seen ++ [part]).filter (fun other => components other.path = fileKey file)).length =
      (seen.filter (fun other => components other.path = fileKey file)).length + 1 := by
  have same : components part.path = fileKey file :=
    congrArg components (fileParts_path file part ofFile)
  rw [List.filter_append, List.length_append,
    List.filter_cons_of_pos (by exact decide_eq_true same), List.filter_nil]
  rfl

private theorem filter_le_filter_snoc (seen : List Part) (part : Part) (key : List Component) :
    (seen.filter (fun other => components other.path = key)).length ≤
      ((seen ++ [part]).filter (fun other => components other.path = key)).length := by
  rw [List.filter_append, List.length_append]
  exact Nat.le_add_right _ _

structure FollowsAt (file : Path × Bytes) (seen : List Part) (assembly : Assembly) : Prop where
  totals : ∀ unfinished, assembly.partialFiles.lookup (fileKey file) = some unfinished →
    BLOCK_SIZE < file.2.length ∧ unfinished.totalParts = (filePieces file).length
  agrees : Agrees (assembly.partsOf (fileKey file)) (filePieces file)
  unfinished : BLOCK_SIZE < file.2.length →
    (assembly.partsOf (fileKey file)).size < (filePieces file).length
  kept : ∀ part, part ∈ fileParts file → part ∈ seen →
    file ∈ assembly.completed ∨
      ((assembly.partsOf (fileKey file)).lookup part.index).isSome = true
  counted : assembly.completed.count file * (fileParts file).length +
      (assembly.partsOf (fileKey file)).size ≤
    (seen.filter (fun part => components part.path = fileKey file)).length

section Step

variable {after : Assembly} {file : Path × Bytes} {part : Part}
  (follows : Follows files seen assembly) (distinct : (files.map fileKey).Nodup)
  (member : file ∈ files) (ofFile : part ∈ fileParts file)

include follows distinct member ofFile

/-- A part of a file leaves the other files alone, so the invariant is kept when
it is kept at that file. -/
theorem Follows.step
    (completed : after.completed = assembly.completed ∨
      after.completed = assembly.completed ++ [file])
    (others : ∀ key, key ≠ fileKey file →
      after.partialFiles.lookup key = assembly.partialFiles.lookup key)
    (atFile : FollowsAt file (seen ++ [part]) after) : Follows files (seen ++ [part]) after := by
  have sameFile : ∀ other, other ∈ files → fileKey other = fileKey file → other = file :=
    fun other inFiles same => List.inj_on_of_nodup_map distinct inFiles member same
  have parts : ∀ key, key ≠ fileKey file → after.partsOf key = assembly.partsOf key := by
    intro key different
    rw [partsOf, others key different, partsOf]
  have count : ∀ other, other ≠ file →
      after.completed.count other = assembly.completed.count other := by
    intro other different
    rcases completed with same | grown
    · rw [same]
    · have none : [file].count other = 0 :=
        List.count_eq_zero.mpr (fun isFile => different (List.mem_singleton.mp isFile))
      rw [grown, List.count_append, none, Nat.add_zero]
  refine ⟨?_, ?_, ?_, ?_, ?_, ?_⟩
  · intro other isCompleted
    by_cases same : other = file
    · rw [same]
      exact member
    · apply follows.exact other
      rw [← List.count_pos_iff, ← count other same]
      exact List.count_pos_iff.mpr isCompleted
  · intro key stored found
    by_cases same : key = fileKey file
    · rw [same] at found
      obtain ⟨large, total⟩ := atFile.totals stored found
      exact ⟨file, member, same.symm, large, total⟩
    · rw [others key same] at found
      exact follows.totals key stored found
  · intro other inFiles
    by_cases same : fileKey other = fileKey file
    · rw [sameFile other inFiles same]
      exact atFile.agrees
    · rw [parts _ same]
      exact follows.agrees other inFiles
  · intro other inFiles
    by_cases same : fileKey other = fileKey file
    · rw [sameFile other inFiles same]
      exact atFile.unfinished
    · rw [parts _ same]
      exact follows.unfinished other inFiles
  · intro other inFiles otherPart ofOther wasSeen
    by_cases same : fileKey other = fileKey file
    · rw [sameFile other inFiles same] at ofOther ⊢
      exact atFile.kept otherPart ofOther wasSeen
    · have different : other ≠ file := fun isFile => same (congrArg fileKey isFile)
      rw [parts _ same, ← List.count_pos_iff, count other different, List.count_pos_iff]
      rcases List.mem_append.mp wasSeen with earlier | last
      · exact follows.kept other inFiles otherPart ofOther earlier
      · rw [List.mem_singleton.mp last] at ofOther
        have samePath : other.1 = file.1 :=
          (fileParts_path other part ofOther).symm.trans (fileParts_path file part ofFile)
        exact absurd (congrArg components samePath) same
  · intro other inFiles
    by_cases same : fileKey other = fileKey file
    · rw [sameFile other inFiles same]
      exact atFile.counted
    · have different : other ≠ file := fun isFile => same (congrArg fileKey isFile)
      rw [parts _ same, count other different]
      exact Nat.le_trans (follows.counted other inFiles)
        (filter_le_filter_snoc seen part (fileKey other))

theorem Follows.whole (small : ¬ BLOCK_SIZE < file.2.length)
    (completed : after.completed = assembly.completed ++ [file])
    (partials : after.partialFiles = assembly.partialFiles) :
    Follows files (seen ++ [part]) after := by
  apply follows.step distinct member ofFile (.inr completed) (fun key _ => by rw [partials])
  have parts : after.partsOf (fileKey file) = assembly.partsOf (fileKey file) := by
    rw [partsOf, partials, partsOf]
  constructor
  case totals =>
    intro stored found
    rw [partials] at found
    obtain ⟨other, inFiles, sameKey, large, total⟩ := follows.totals _ stored found
    rw [List.inj_on_of_nodup_map distinct inFiles member sameKey] at large total
    exact ⟨large, total⟩
  case agrees =>
    rw [parts]
    exact follows.agrees file member
  case unfinished =>
    rw [parts]
    exact follows.unfinished file member
  case kept =>
    intro _ _ _
    rw [completed]
    exact .inl (List.mem_append_right _ List.mem_cons_self)
  case counted =>
    have before := follows.counted file member
    have single : (fileParts file).length = 1 := by
      rw [fileParts_length, if_neg small]
    rw [filter_snoc_of_mem seen ofFile, parts, completed, List.count_append,
      List.count_singleton_self, single]
    rw [single] at before
    omega

theorem Follows.collected (large : BLOCK_SIZE < file.2.length)
    (placed : (filePieces file)[part.index]? = some part.data)
    (unfinished : AssocMap.size
      ((assembly.partsOf (fileKey file)).insert part.index part.data) <
        (filePieces file).length)
    (completed : after.completed = assembly.completed)
    (partials : after.partialFiles = assembly.partialFiles.insert (fileKey file)
      { totalParts := (filePieces file).length
        parts := (assembly.partsOf (fileKey file)).insert part.index part.data }) :
    Follows files (seen ++ [part]) after := by
  apply follows.step distinct member ofFile (.inl completed)
    (fun key different => by rw [partials, AList.lookup_insert_ne different])
  have parts : after.partsOf (fileKey file) =
      (assembly.partsOf (fileKey file)).insert part.index part.data := by
    rw [partsOf, partials, AList.lookup_insert]
  constructor
  case totals =>
    intro stored found
    rw [partials, AList.lookup_insert] at found
    cases found
    exact ⟨large, rfl⟩
  case agrees =>
    rw [parts]
    exact (follows.agrees file member).insert placed
  case unfinished =>
    rw [parts]
    exact fun _ => unfinished
  case kept =>
    intro otherPart ofOther wasSeen
    rw [parts, completed]
    by_cases sameIndex : otherPart.index = part.index
    · rw [sameIndex, AList.lookup_insert]
      exact .inr rfl
    · rw [AList.lookup_insert_ne sameIndex]
      rcases List.mem_append.mp wasSeen with earlier | last
      · exact follows.kept file member otherPart ofOther earlier
      · exact absurd (congrArg Part.index (List.mem_singleton.mp last)) sameIndex
  case counted =>
    have before := follows.counted file member
    have oneMore := size_le_size_insert part.index part.data (assembly.partsOf (fileKey file))
    rw [filter_snoc_of_mem seen ofFile, parts, completed]
    omega

theorem Follows.finished (large : BLOCK_SIZE < file.2.length)
    (full : AssocMap.size ((assembly.partsOf (fileKey file)).insert part.index part.data) =
      (filePieces file).length)
    (completed : after.completed = assembly.completed ++ [file])
    (partials : after.partialFiles = assembly.partialFiles.erase (fileKey file)) :
    Follows files (seen ++ [part]) after := by
  apply follows.step distinct member ofFile (.inr completed)
    (fun key different => by rw [partials, AList.lookup_erase_ne different])
  have parts : after.partsOf (fileKey file) = ∅ := by
    rw [partsOf, partials, AList.lookup_erase]
  constructor
  case totals =>
    intro stored found
    rw [partials, AList.lookup_erase] at found
    cases found
  case agrees =>
    rw [parts]
    exact agrees_empty _
  case unfinished =>
    rw [parts]
    exact fun _ => Nat.lt_trans Nat.zero_lt_one (one_lt_length_filePieces file large)
  case kept =>
    intro _ _ _
    rw [completed]
    exact .inl (List.mem_append_right _ List.mem_cons_self)
  case counted =>
    have before := follows.counted file member
    have oneMore := size_le_size_insert part.index part.data (assembly.partsOf (fileKey file))
    have count : (fileParts file).length = (filePieces file).length := by
      rw [fileParts_length, if_pos large]
    rw [filter_snoc_of_mem seen ofFile, parts, completed, List.count_append,
      List.count_singleton_self, count, Nat.add_mul, Nat.one_mul]
    rw [count] at before
    change _ + 0 ≤ _
    omega

end Step

theorem Follows.absorb (follows : Follows files seen assembly)
    (distinct : (files.map fileKey).Nodup)
    (fewParts : ∀ file, file ∈ files → (filePieces file).length < 2 ^ 32)
    (received : FileEntry × Bytes)
    (ofFiles : receivedPart received ∈ files.flatMap fileParts) :
    Follows files (seen ++ [receivedPart received]) (assembly.absorb received) := by
  obtain ⟨file, member, ofFile⟩ := List.mem_flatMap.mp ofFiles
  cases follows.absorbed distinct file member (fewParts file member) received ofFile with
  | whole small completed partials =>
      exact follows.whole distinct member ofFile small completed partials
  | collected large placed unfinished completed partials =>
      exact follows.collected distinct member ofFile large placed unfinished completed partials
  | finished large placed full completed partials =>
      exact follows.finished distinct member ofFile large full completed partials

theorem follows_run (files : List (Path × Bytes)) (distinct : (files.map fileKey).Nodup)
    (fewParts : ∀ file, file ∈ files → (filePieces file).length < 2 ^ 32)
    (entries : List (FileEntry × Bytes))
    (ofFiles : ∀ received, received ∈ entries →
      receivedPart received ∈ files.flatMap fileParts) :
    Follows files (entries.map receivedPart) (run entries) := by
  induction entries using List.reverseRecOn with
  | nil => exact follows_empty files
  | append_singleton entries received ih =>
      have earlier := ih (fun other member => ofFiles other (List.mem_append_left _ member))
      rw [run_snoc, List.map_append]
      exact earlier.absorb distinct fewParts received
        (ofFiles received (List.mem_append_right _ List.mem_cons_self))

theorem mem_fileParts_of_piece (file : Path × Bytes) (large : BLOCK_SIZE < file.2.length)
    (fewParts : (filePieces file).length < 2 ^ 32) (index : Nat)
    (within : index < (filePieces file).length) :
    ∃ part, part ∈ fileParts file ∧ part.index = index := by
  have inPieces : ((filePieces file)[index], index) ∈ (filePieces file).zipIdx :=
    List.mem_zipIdx_iff_getElem?.mpr (List.getElem?_eq_getElem within)
  refine ⟨splitPart file.1 (totalParts file.2) ((filePieces file)[index], index), ?_, ?_⟩
  · unfold fileParts
    rw [if_pos large]
    exact List.mem_map.mpr ⟨_, inPieces, rfl⟩
  · exact Nat.mod_eq_of_lt (Nat.lt_trans within fewParts)

theorem Follows.mem_completed (follows : Follows files seen assembly)
    (distinct : (files.map fileKey).Nodup) (file : Path × Bytes) (member : file ∈ files)
    (fewParts : (filePieces file).length < 2 ^ 32)
    (allSeen : ∀ part, part ∈ fileParts file → part ∈ seen) :
    file ∈ assembly.completed := by
  apply Classical.byContradiction
  intro missing
  have waiting : ∀ part, part ∈ fileParts file →
      ((assembly.partsOf (fileKey file)).lookup part.index).isSome = true :=
    fun part ofFile => (follows.kept file member part ofFile (allSeen part ofFile)).resolve_left
      missing
  by_cases large : BLOCK_SIZE < file.2.length
  · have everyIndex : ∀ index, index < (filePieces file).length →
        ((assembly.partsOf (fileKey file)).lookup index).isSome = true := by
      intro index within
      obtain ⟨part, ofFile, same⟩ := mem_fileParts_of_piece file large fewParts index within
      rw [← same]
      exact waiting part ofFile
    have enough := le_size_of_isSome _ _ everyIndex
    have unfinished := follows.unfinished file member large
    omega
  · -- an unsplit file is never under way
    have nothing : assembly.partialFiles.lookup (fileKey file) = none := by
      cases found : assembly.partialFiles.lookup (fileKey file) with
      | none => rfl
      | some stored =>
          obtain ⟨other, otherMember, sameKey, otherLarge, _⟩ :=
            follows.totals (fileKey file) stored found
          have same : other = file :=
            List.inj_on_of_nodup_map distinct otherMember member sameKey
          rw [same] at otherLarge
          exact absurd otherLarge large
    have ofFile : { path := file.1, index := 0, total := 1, data := file.2 } ∈
        fileParts file := by
      unfold fileParts
      rw [if_neg large]
      exact List.mem_cons_self
    have present := waiting _ ofFile
    unfold partsOf at present
    rw [nothing] at present
    cases present

/-! ### Every part exactly once -/

private theorem filter_flatMap_fileParts (files : List (Path × Bytes))
    (distinct : (files.map fileKey).Nodup) (file : Path × Bytes) (member : file ∈ files) :
    ((files.flatMap fileParts).filter
      (fun part => components part.path = fileKey file)).length =
        (fileParts file).length := by
  have ofOther : ∀ other, fileKey other ≠ fileKey file →
      (fileParts other).filter (fun part => components part.path = fileKey file) = [] := by
    intro other differ
    apply List.filter_eq_nil_iff.mpr
    intro part ofFile same
    rw [fileParts_path other part ofFile, decide_eq_true_iff] at same
    exact differ same
  have ofSame : (fileParts file).filter (fun part => components part.path = fileKey file) =
      fileParts file := by
    apply List.filter_eq_self.mpr
    intro part ofFile
    rw [fileParts_path file part ofFile]
    exact decide_eq_true rfl
  induction files with
  | nil => cases member
  | cons head tail ih =>
      rw [List.map_cons, List.nodup_cons] at distinct
      rw [List.flatMap_cons, List.filter_append, List.length_append]
      rcases List.mem_cons.mp member with isHead | inTail
      · subst isHead
        have noneInTail : (tail.flatMap fileParts).filter
            (fun part => components part.path = fileKey file) = [] := by
          rw [List.filter_flatMap]
          apply List.flatMap_eq_nil_iff.mpr
          intro other inTail
          apply ofOther
          intro same
          exact distinct.1 (List.mem_map.mpr ⟨other, inTail, same⟩)
        rw [ofSame, noneInTail, List.length_nil, Nat.add_zero]
      · have headDiffers : fileKey head ≠ fileKey file := by
          intro same
          exact distinct.1 (List.mem_map.mpr ⟨file, inTail, same.symm⟩)
        rw [ofOther head headDiffers, List.length_nil, Nat.zero_add]
        exact ih distinct.2 inTail

/-- When every part was seen exactly once, every file is complete exactly
once. -/
theorem Follows.completed_perm (follows : Follows files seen assembly)
    (distinct : (files.map fileKey).Nodup)
    (fewParts : ∀ file, file ∈ files → (filePieces file).length < 2 ^ 32)
    (once : seen.Perm (files.flatMap fileParts)) : assembly.completed.Perm files := by
  have filesNodup : files.Nodup := List.Nodup.of_map fileKey distinct
  have allCompleted : ∀ file, file ∈ files → file ∈ assembly.completed := by
    intro file member
    apply follows.mem_completed distinct file member (fewParts file member)
    intro part ofFile
    exact once.symm.subset (List.mem_flatMap.mpr ⟨file, member, ofFile⟩)
  have completedNodup : assembly.completed.Nodup := by
    apply List.nodup_iff_count_le_one.mpr
    intro file
    by_cases member : file ∈ assembly.completed
    · have inFiles := follows.exact file member
      have counted := follows.counted file inFiles
      have perFile := (once.filter (fun part => components part.path = fileKey file)).length_eq
      rw [filter_flatMap_fileParts files distinct file inFiles] at perFile
      have positive : 0 < (fileParts file).length := by
        rw [fileParts_length]
        split
        · rename_i large
          exact Nat.lt_trans Nat.zero_lt_one (one_lt_length_filePieces file large)
        · exact Nat.zero_lt_one
      have atMost : assembly.completed.count file * (fileParts file).length ≤
          1 * (fileParts file).length := by omega
      exact Nat.le_of_mul_le_mul_right atMost positive
    · rw [List.count_eq_zero.mpr member]
      exact Nat.zero_le 1
  exact (List.perm_ext_iff_of_nodup completedNodup filesNodup).mpr
    (fun file => ⟨follows.exact file, allCompleted file⟩)

end Assembly

end Udpix.IoEngine

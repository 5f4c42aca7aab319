/-
What unpacking returns for a packed block.

Reading is described by what stands at a position of the buffer, so that the
lemma of each field hands the rest of the buffer to the next one.  The layout of
the blocks is compared with the parts of the files: a file that fits a block is
one part, a larger one is cut into parts of the block size.
-/

import Udpix.Library.Fallible
import Udpix.IoEngine.Packer
import Mathlib.Data.List.Induction

namespace Udpix.IoEngine

open Chunks Fallible LittleEndian UnixPath Protocol

namespace Packer

/-! ### Reading at a position -/

def At (buf : Bytes) (pos : Nat) (rest : Bytes) : Prop :=
  pos ≤ buf.length ∧ buf.drop pos = rest

variable {buf field rest : Bytes} {pos : Nat}

theorem at_append (before after : Bytes) : At (before ++ after) before.length after := by
  refine ⟨?_, List.drop_left⟩
  rw [List.length_append]
  exact Nat.le_add_right _ _

theorem At.length_eq (placed : At buf pos rest) : buf.length = pos + rest.length := by
  have lengths := congrArg List.length placed.2
  rw [List.length_drop] at lengths
  have within := placed.1
  omega

theorem At.skip (placed : At buf pos (field ++ rest)) : At buf (pos + field.length) rest := by
  have lengths := placed.length_eq
  rw [List.length_append] at lengths
  refine ⟨by omega, ?_⟩
  rw [← List.drop_drop, placed.2, List.drop_left]

theorem At.readBytes (placed : At buf pos (field ++ rest)) :
    readBytes buf pos field.length = .ok (field, pos + field.length) := by
  have lengths := placed.length_eq
  rw [List.length_append] at lengths
  unfold Packer.readBytes
  rw [if_neg (by omega), placed.2, List.take_left]

theorem At.readUint {width value : Nat} (placed : At buf pos (toLeBytes width value ++ rest))
    (fits : value < 256 ^ width) : readUint width buf pos = .ok (value, pos + width) := by
  have fieldRead := placed.readBytes
  rw [toLeBytes_length] at fieldRead
  unfold Packer.readUint
  rw [fieldRead]
  change Except.ok (fromLeBytes (toLeBytes width value), pos + width) = _
  rw [fromLeBytes_toLeBytes_of_lt width value fits]

theorem At.skipUint {width value : Nat} (placed : At buf pos (toLeBytes width value ++ rest)) :
    At buf (pos + width) rest := by
  have skipped := placed.skip
  rw [toLeBytes_length] at skipped
  exact skipped

/-! ### The manifest -/

/-- The values the manifest can hold; a path is stored as it is. -/
structure Encodable (entry : FileEntry) : Prop where
  pathValid : Utf8.firstError entry.path = none
  pathShort : entry.path.length < 256 ^ 2
  offsetFits : entry.offset < 256 ^ 8
  sizeFits : entry.size < 256 ^ 8
  partFits : entry.partIndex < 256 ^ 4
  totalFits : entry.totalParts < 256 ^ 4

theorem entryBytes_length (entry : FileEntry) :
    (entryBytes entry).length = 26 + (Utf8.toStringLossy entry.path).length := by
  unfold entryBytes
  dsimp only
  repeat rw [List.length_append]
  repeat rw [toLeBytes_length]
  omega

theorem At.readEntry {entry : FileEntry} (placed : At buf pos (entryBytes entry ++ rest))
    (encodable : Encodable entry) :
    readEntry buf pos = .ok (entry, pos + (entryBytes entry).length) := by
  rw [entryBytes_length]
  unfold entryBytes at placed
  rw [Utf8.toStringLossy_of_valid entry.path encodable.pathValid] at placed ⊢
  dsimp only at placed
  simp only [List.append_assoc] at placed
  have atPath := placed.skipUint
  have atOffset := atPath.skip
  have atSize := atOffset.skipUint
  have atPart := atSize.skipUint
  have atTotal := atPart.skipUint
  have pathRead : readPath entry.path = .ok entry.path := by
    unfold readPath
    rw [encodable.pathValid]
  unfold Packer.readEntry readU16 readU32 readU64
  rw [placed.readUint encodable.pathShort]
  simp only [bind, Except.bind]
  rw [atPath.readBytes]
  dsimp only
  rw [pathRead]
  dsimp only
  rw [atOffset.readUint encodable.offsetFits]
  dsimp only
  rw [atSize.readUint encodable.sizeFits]
  dsimp only
  rw [atPart.readUint encodable.partFits]
  dsimp only
  rw [atTotal.readUint encodable.totalFits]
  change Except.ok (entry, _) = _
  congr 2
  omega

theorem At.readEntries {entries : List FileEntry}
    (placed : At buf pos (entries.flatMap entryBytes ++ rest))
    (encodable : ∀ entry, entry ∈ entries → Encodable entry) :
    readEntries buf entries.length pos =
      .ok (entries, pos + (entries.flatMap entryBytes).length) := by
  induction entries generalizing pos with
  | nil => rfl
  | cons entry entries ih =>
      rw [List.flatMap_cons, List.append_assoc] at placed
      have first := placed.readEntry (encodable entry List.mem_cons_self)
      have others := ih placed.skip
        (fun other member => encodable other (List.mem_cons_of_mem _ member))
      rw [List.length_cons]
      unfold Packer.readEntries
      rw [first]
      simp only [bind, Except.bind]
      rw [others]
      change Except.ok (entry :: entries, _) = _
      rw [List.flatMap_cons, List.length_append, Nat.add_assoc]

theorem headerBytes_length (blockId entryCount : Nat) :
    (headerBytes blockId entryCount).length = 18 := by
  unfold headerBytes
  repeat rw [List.length_append]
  repeat rw [toLeBytes_length]

theorem readManifest_header (blockId : Nat) (entryCount : Nat) (after : Bytes)
    (fewEntries : entryCount < 256 ^ 4) :
    readManifest (headerBytes blockId entryCount ++ after) =
      readEntries (headerBytes blockId entryCount ++ after) entryCount 18 := by
  have start : At (headerBytes blockId entryCount ++ after) 0
      (toLeBytes 4 MAGIC ++ (toLeBytes 2 VERSION ++ (toLeBytes 8 blockId ++
        (toLeBytes 4 entryCount ++ after)))) := by
    refine ⟨Nat.zero_le _, ?_⟩
    unfold headerBytes
    simp only [List.append_assoc, List.drop_zero]
  have atVersion := start.skipUint
  have atId := atVersion.skipUint
  have atCount := atId.skipUint
  have idRead : ∃ value, readUint 8 (headerBytes blockId entryCount ++ after) (0 + 4 + 2) =
      .ok (value, 0 + 4 + 2 + 8) := by
    have fieldRead := atId.readBytes
    rw [toLeBytes_length] at fieldRead
    refine ⟨fromLeBytes (toLeBytes 8 blockId), ?_⟩
    unfold Packer.readUint
    rw [fieldRead]
    rfl
  obtain ⟨_, idRead⟩ := idRead
  unfold readManifest readU32 readU16 readU64
  rw [start.readUint (by decide)]
  simp only [bind, Except.bind]
  rw [atVersion.readUint (by decide)]
  dsimp only
  rw [idRead]
  dsimp only
  rw [atCount.readUint fewEntries]
  dsimp only
  rw [if_neg (fun differ => differ rfl)]

def payloadStart (entries : List FileEntry) : Nat :=
  18 + (entries.flatMap entryBytes).length

theorem readManifest_serialise (blockId : Nat) (entries : List FileEntry) (payload : Bytes)
    (fewEntries : entries.length < 2 ^ 32)
    (encodable : ∀ entry, entry ∈ entries → Encodable entry) :
    readManifest (serialise blockId entries payload) = .ok (entries, payloadStart entries) := by
  have placed : At (serialise blockId entries payload) 18
      (entries.flatMap entryBytes ++ payload) := by
    unfold serialise
    rw [List.append_assoc, ← headerBytes_length blockId entries.length]
    exact at_append _ _
  have entriesRead := placed.readEntries encodable
  unfold serialise at entriesRead ⊢
  rw [List.append_assoc] at entriesRead ⊢
  rw [readManifest_header blockId entries.length _ fewEntries]
  exact entriesRead

/-! ### Slicing the payload -/

def entryData (payload : Bytes) (entry : FileEntry) : Bytes :=
  (payload.drop entry.offset).take entry.size

theorem addUsize_of_lt (overflowChecks : Bool) (left right : Nat)
    (fits : left + right < 2 ^ 64) :
    addUsize overflowChecks left right = some (left + right) := by
  unfold addUsize
  rw [if_pos fits]

theorem sliceEntry_append (overflowChecks : Bool) (manifest payload : Bytes)
    (entry : FileEntry) (within : entry.offset + entry.size ≤ payload.length)
    (fits : manifest.length + payload.length < 2 ^ 64) :
    sliceEntry overflowChecks (manifest ++ payload) manifest.length entry =
      .ok (entry, entryData payload entry) := by
  have starts := addUsize_of_lt overflowChecks manifest.length entry.offset (by omega)
  have ends := addUsize_of_lt overflowChecks (manifest.length + entry.offset) entry.size
    (by omega)
  have inBounds : ¬ (manifest ++ payload).length <
      manifest.length + entry.offset + entry.size := by
    rw [List.length_append]
    omega
  have sliced : slice (manifest ++ payload) (manifest.length + entry.offset)
      (manifest.length + entry.offset + entry.size) = some (entryData payload entry) := by
    unfold slice
    rw [if_pos ⟨Nat.le_add_right _ _, Nat.le_of_not_lt inBounds⟩, List.drop_append,
      List.drop_of_length_le (Nat.le_add_right _ _), List.nil_append, Nat.add_sub_cancel_left,
      Nat.add_sub_cancel_left]
    rfl
  unfold sliceEntry
  rw [starts]
  dsimp only
  rw [ends]
  dsimp only
  rw [if_neg inBounds, sliced]

/-- What packing promises of every block it lays out. -/
structure Layout.WellFormed (layout : Layout) : Prop where
  bounded : layout.payload.length ≤ BLOCK_SIZE
  within : ∀ entry, entry ∈ layout.entries →
    entry.offset + entry.size ≤ layout.payload.length
  filled : ∃ entry, entry ∈ layout.entries ∧
    entry.offset + entry.size = layout.payload.length
  covered : layout.entries.flatMap (entryData layout.payload) = layout.payload
  numbered : ∀ entry, entry ∈ layout.entries →
    entry.partIndex < 2 ^ 32 ∧ entry.totalParts < 2 ^ 32

def Storable (path : Path) : Prop := Utf8.firstError path = none ∧ path.length ≤ 65535

instance (path : Path) : Decidable (Storable path) := inferInstanceAs (Decidable (_ ∧ _))

theorem Layout.WellFormed.encodable {layout : Layout} (wellFormed : layout.WellFormed)
    (storable : ∀ entry, entry ∈ layout.entries → Storable entry.path)
    (entry : FileEntry) (member : entry ∈ layout.entries) : Encodable entry := by
  have bounded := wellFormed.bounded
  have within := wellFormed.within entry member
  have numbered := wellFormed.numbered entry member
  obtain ⟨valid, short⟩ := storable entry member
  unfold BLOCK_SIZE at bounded
  exact ⟨valid, by omega, by omega, by omega, by omega, by omega⟩

theorem manifest_length_le (entries : List FileEntry)
    (storable : ∀ entry, entry ∈ entries → Storable entry.path) :
    (entries.flatMap entryBytes).length ≤ entries.length * 65561 := by
  induction entries with
  | nil => exact Nat.le_refl 0
  | cons entry entries ih =>
      have path := storable entry List.mem_cons_self
      have others := ih (fun other member => storable other (List.mem_cons_of_mem _ member))
      rw [List.flatMap_cons, List.length_append, entryBytes_length,
        Utf8.toStringLossy_of_valid _ path.1, List.length_cons]
      have short := path.2
      omega

theorem unpackEntries_renumber (overflowChecks : Bool) (block : PackBlock) (id : Nat) :
    unpackEntries overflowChecks { id := id, data := block.data } =
      unpackEntries overflowChecks block := rfl

theorem unpackEntries_block (overflowChecks : Bool) (layout : Layout)
    (wellFormed : layout.WellFormed) (fewEntries : layout.entries.length < 2 ^ 32)
    (storable : ∀ entry, entry ∈ layout.entries → Storable entry.path) :
    unpackEntries overflowChecks layout.block =
      .ok (layout.entries.map (fun entry => (entry, entryData layout.payload entry))) := by
  have manifest := readManifest_serialise layout.id layout.entries layout.payload fewEntries
    (wellFormed.encodable storable)
  have startEq : (headerBytes layout.id layout.entries.length ++
      layout.entries.flatMap entryBytes).length = payloadStart layout.entries := by
    rw [List.length_append, headerBytes_length]
    rfl
  have manifestShort := manifest_length_le layout.entries storable
  have bounded := wellFormed.bounded
  unfold BLOCK_SIZE at bounded
  unfold unpackEntries Layout.block
  dsimp only
  rw [manifest]
  apply mapM_eq_ok
  intro entry member
  rw [← startEq]
  unfold serialise
  apply sliceEntry_append
  · exact wellFormed.within entry member
  · rw [startEq]
    unfold payloadStart
    omega

/-! ### Parts of files -/

structure Part where
  path : Path
  index : Nat
  total : Nat
  data : Bytes
deriving DecidableEq

def splitPart (path : Path) (total : Nat) (part : Bytes × Nat) : Part :=
  { path := path, index := part.2 % 2 ^ 32, total := total, data := part.1 }

def fileParts (file : Path × Bytes) : List Part :=
  if BLOCK_SIZE < file.2.length then
    (chunks BLOCK_SIZE file.2).zipIdx.map (splitPart file.1 (totalParts file.2))
  else [{ path := file.1, index := 0, total := 1, data := file.2 }]

def entryPart (payload : Bytes) (entry : FileEntry) : Part :=
  { path := entry.path
    index := entry.partIndex
    total := entry.totalParts
    data := entryData payload entry }

def Layout.parts (layout : Layout) : List Part :=
  layout.entries.map (entryPart layout.payload)

def PackState.current (state : PackState) : Layout :=
  { id := state.blockId, entries := state.entries, payload := state.payload }

/-- What holds after packing some of the files: finished blocks and the block in
progress together carry exactly their parts, in order. -/
structure Packed (files : List (Path × Bytes)) (state : PackState) : Prop where
  parts : state.blocks.flatMap Layout.parts ++ state.current.parts =
    files.flatMap fileParts
  finished : ∀ layout, layout ∈ state.blocks → layout.WellFormed
  progress : (state.entries = [] ∧ state.payload = []) ∨ state.current.WellFormed

variable {files : List (Path × Bytes)} {state : PackState}

theorem packed_start : Packed [] PackState.start where
  parts := rfl
  finished := by
    intro layout member
    cases member
  progress := Or.inl ⟨rfl, rfl⟩

theorem flush_idle (packed : Packed files state) :
    (flush state).entries = [] ∧ (flush state).payload = [] := by
  unfold flush
  split
  · rename_i empty
    have noEntries := List.isEmpty_iff.mp empty
    rcases packed.progress with idle | wellFormed
    · exact idle
    · obtain ⟨entry, member, _⟩ := wellFormed.filled
      change entry ∈ state.entries at member
      rw [noEntries] at member
      cases member
  · exact ⟨rfl, rfl⟩

theorem Packed.flush (packed : Packed files state) : Packed files (flush state) := by
  unfold Packer.flush
  split
  · exact packed
  · rename_i occupied
    refine ⟨?_, ?_, Or.inl ⟨rfl, rfl⟩⟩
    · change (state.blocks ++ [state.current]).flatMap Layout.parts ++ [] = _
      rw [List.append_nil, List.flatMap_append, List.flatMap_singleton]
      exact packed.parts
    · intro layout member
      rcases List.mem_append.mp member with earlier | last
      · exact packed.finished layout earlier
      · rw [List.mem_singleton.mp last]
        rcases packed.progress with idle | wellFormed
        · rw [idle.1] at occupied
          exact absurd rfl occupied
        · exact wellFormed

theorem entryData_append (payload bytes : Bytes) (entry : FileEntry)
    (within : entry.offset + entry.size ≤ payload.length) :
    entryData (payload ++ bytes) entry = entryData payload entry := by
  unfold entryData
  rw [List.drop_append_of_le_length (by omega),
    List.take_append_of_le_length (by rw [List.length_drop]; omega)]

theorem Packed.openBlock (packed : Packed files state) :
    (∀ entry, entry ∈ state.entries → entry.offset + entry.size ≤ state.payload.length) ∧
      (∀ entry, entry ∈ state.entries → entry.partIndex < 2 ^ 32 ∧ entry.totalParts < 2 ^ 32) ∧
      state.entries.flatMap (entryData state.payload) = state.payload := by
  rcases packed.progress with ⟨noEntry, noPayload⟩ | wellFormed
  · rw [noEntry, noPayload]
    refine ⟨?_, ?_, rfl⟩
    · intro entry member
      cases member
    · intro entry member
      cases member
  · exact ⟨wellFormed.within, wellFormed.numbered, wellFormed.covered⟩

theorem Packed.appendFile (packed : Packed files state) (path : Path) (bytes : Bytes)
    (small : ¬ BLOCK_SIZE < bytes.length)
    (room : state.payload.length + bytes.length ≤ BLOCK_SIZE) :
    Packed (files ++ [(path, bytes)]) (appendFile state path bytes) := by
  obtain ⟨within, numbered, covered⟩ := packed.openBlock
  have newData : entryData (state.payload ++ bytes)
      { path := path, offset := state.payload.length, size := bytes.length,
        partIndex := 0, totalParts := 1 } = bytes := by
    unfold entryData
    rw [List.drop_left, List.take_length]
  refine ⟨?_, packed.finished, Or.inr ⟨?_, ?_, ?_, ?_, ?_⟩⟩
  · have kept : state.entries.map (entryPart (state.payload ++ bytes)) =
        state.entries.map (entryPart state.payload) := by
      apply List.map_congr_left
      intro entry member
      unfold entryPart
      rw [entryData_append _ _ entry (within entry member)]
    have single : fileParts (path, bytes) =
        [{ path := path, index := 0, total := 1, data := bytes }] := by
      unfold fileParts
      rw [if_neg small]
    change state.blocks.flatMap Layout.parts ++ List.map (entryPart (state.payload ++ bytes))
      (state.entries ++ [_]) = _
    rw [List.map_append, kept, List.flatMap_append, List.flatMap_singleton, single,
      ← packed.parts, ← List.append_assoc, List.map_singleton]
    unfold entryPart
    rw [newData]
    rfl
  · change (state.payload ++ bytes).length ≤ BLOCK_SIZE
    rw [List.length_append]
    exact room
  · intro entry member
    change _ ≤ (state.payload ++ bytes).length
    rw [List.length_append]
    rcases List.mem_append.mp member with earlier | last
    · exact Nat.le_trans (within entry earlier) (Nat.le_add_right _ _)
    · rw [List.mem_singleton.mp last]
  · refine ⟨_, List.mem_append_right _ List.mem_cons_self, ?_⟩
    change _ = (state.payload ++ bytes).length
    rw [List.length_append]
  · have kept : state.entries.flatMap (entryData (state.payload ++ bytes)) =
        state.entries.flatMap (entryData state.payload) := by
      apply List.flatMap_congr
      intro entry member
      exact entryData_append _ _ entry (within entry member)
    change (state.entries ++ [_]).flatMap (entryData (state.payload ++ bytes)) = _
    rw [List.flatMap_append, List.flatMap_singleton, kept, covered, newData]
    rfl
  · intro entry member
    rcases List.mem_append.mp member with earlier | last
    · exact numbered entry earlier
    · rw [List.mem_singleton.mp last]
      exact ⟨Nat.two_pow_pos 32, Nat.one_lt_two_pow (Nat.succ_ne_zero 31)⟩

theorem Packed.packSmall (packed : Packed files state) (path : Path) (bytes : Bytes)
    (small : ¬ BLOCK_SIZE < bytes.length) :
    Packed (files ++ [(path, bytes)]) (packSmall state path bytes) := by
  unfold Packer.packSmall
  split
  · apply packed.flush.appendFile path bytes small
    rw [(flush_idle packed).2]
    exact Nat.le_trans (Nat.le_of_eq (Nat.zero_add _)) (Nat.le_of_not_lt small)
  · rename_i fits
    exact packed.appendFile path bytes small (Nat.le_of_not_lt fits)

theorem packPart_idle (path : Path) (total : Nat) (part : Bytes × Nat)
    (idle : state.entries = [] ∧ state.payload = []) :
    (packPart path total state part).entries = [] ∧
      (packPart path total state part).payload = [] := idle

theorem foldl_packPart (path : Path) (total : Nat) (totalFits : total < 2 ^ 32)
    (parts : List (Bytes × Nat)) (state : PackState)
    (idle : state.entries = [] ∧ state.payload = [])
    (finished : ∀ layout, layout ∈ state.blocks → layout.WellFormed)
    (short : ∀ part, part ∈ parts → part.1.length ≤ BLOCK_SIZE) :
    let packed := parts.foldl (packPart path total) state
    (packed.entries = [] ∧ packed.payload = []) ∧
      packed.blocks.flatMap Layout.parts =
        state.blocks.flatMap Layout.parts ++ parts.map (splitPart path total) ∧
      ∀ layout, layout ∈ packed.blocks → layout.WellFormed := by
  induction parts generalizing state with
  | nil => exact ⟨idle, (List.append_nil _).symm, finished⟩
  | cons part parts ih =>
      have partShort := short part List.mem_cons_self
      have restShort : ∀ other, other ∈ parts → other.1.length ≤ BLOCK_SIZE :=
        fun other member => short other (List.mem_cons_of_mem _ member)
      have newFinished : ∀ layout, layout ∈ (packPart path total state part).blocks →
          layout.WellFormed := by
        intro layout member
        rcases List.mem_append.mp member with earlier | last
        · exact finished layout earlier
        · rw [List.mem_singleton.mp last]
          refine ⟨partShort, ?_, ?_, ?_, ?_⟩
          · intro entry inEntries
            rw [List.mem_singleton.mp inEntries]
            exact Nat.le_of_eq (Nat.zero_add _)
          · exact ⟨_, List.mem_cons_self, Nat.zero_add _⟩
          · rw [List.flatMap_singleton]
            unfold entryData
            rw [List.drop_zero, List.take_length]
          · intro entry inEntries
            rw [List.mem_singleton.mp inEntries]
            exact ⟨Nat.mod_lt _ (by decide), totalFits⟩
      obtain ⟨stillIdle, allParts, allFinished⟩ :=
        ih (packPart path total state part) (packPart_idle path total part idle) newFinished
          restShort
      refine ⟨stillIdle, ?_, allFinished⟩
      rw [List.foldl_cons, allParts]
      change (state.blocks ++ [_]).flatMap Layout.parts ++ _ = _
      rw [List.flatMap_append, List.flatMap_singleton, List.append_assoc, List.map_cons]
      unfold Layout.parts entryPart entryData splitPart
      rw [List.map_singleton, List.drop_zero, List.take_length]
      rfl

theorem Packed.packLarge (packed : Packed files state) (path : Path) (bytes : Bytes)
    (large : BLOCK_SIZE < bytes.length) :
    Packed (files ++ [(path, bytes)]) (packLarge state path bytes) := by
  have idle := flush_idle packed
  have flushed := packed.flush
  have short : ∀ part, part ∈ (chunks BLOCK_SIZE bytes).zipIdx →
      part.1.length ≤ BLOCK_SIZE := by
    intro part member
    exact (length_of_mem_chunks BLOCK_SIZE BLOCK_SIZE_pos bytes part.1
      (List.fst_mem_of_mem_zipIdx member)).2
  obtain ⟨stillIdle, allParts, allFinished⟩ := foldl_packPart path (totalParts bytes)
    (Nat.mod_lt _ (by decide)) _ (Packer.flush state) idle flushed.finished short
  have noParts : (Packer.flush state).current.parts = [] := by
    unfold Layout.parts PackState.current
    rw [idle.1]
    rfl
  have split : fileParts (path, bytes) =
      (chunks BLOCK_SIZE bytes).zipIdx.map (splitPart path (totalParts bytes)) := by
    unfold fileParts
    rw [if_pos large]
  have before := flushed.parts
  rw [noParts, List.append_nil] at before
  refine ⟨?_, allFinished, Or.inl stillIdle⟩
  have noProgress : (Packer.packLarge state path bytes).current.parts = [] := by
    unfold Layout.parts PackState.current Packer.packLarge
    rw [stillIdle.1]
    rfl
  rw [noProgress, List.append_nil, List.flatMap_append, List.flatMap_singleton, split,
    ← before]
  exact allParts

theorem packed_foldl (files : List (Path × Bytes)) :
    Packed files (files.foldl packFile PackState.start) := by
  induction files using List.reverseRecOn with
  | nil => exact packed_start
  | append_singleton files file ih =>
      rw [List.foldl_append]
      change Packed _ (packFile (files.foldl packFile PackState.start) file)
      unfold packFile
      split
      · rename_i large
        exact ih.packLarge file.1 file.2 large
      · rename_i small
        exact ih.packSmall file.1 file.2 small

theorem packLayouts_wellFormed (files : List (Path × Bytes)) (layout : Layout)
    (member : layout ∈ packLayouts files) : layout.WellFormed :=
  (packed_foldl files).flush.finished layout member

/-- The blocks carry the parts of the files, each once and in order. -/
theorem packLayouts_parts (files : List (Path × Bytes)) :
    (packLayouts files).flatMap Layout.parts = files.flatMap fileParts := by
  have packed := (packed_foldl files).flush
  have idle := flush_idle (packed_foldl files)
  have noParts : (flush (files.foldl packFile PackState.start)).current.parts = [] := by
    unfold Layout.parts PackState.current
    rw [idle.1]
    rfl
  have parts := packed.parts
  rw [noParts, List.append_nil] at parts
  exact parts

end Packer

end Udpix.IoEngine

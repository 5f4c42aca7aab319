/-
The shape of the blocks that packing produces.

Blocks are numbered from zero.  None is empty or larger than it may be, and its
entries lie one behind the other with no gap.  A block is closed only when the
next file does not fit in it or when a file that needs blocks of its own begins
or ends.
-/

import Udpix.IoEngine.PackRoundTrip
import Mathlib.Data.List.Chain

namespace Udpix.IoEngine

open UnixPath Protocol Chunks

namespace Packer

/-- The entries cover the payload from `start` to `stop`, one behind the other. -/
def Tiles : Nat → List FileEntry → Nat → Prop
  | start, [], stop => start = stop
  | start, entry :: rest, stop => entry.offset = start ∧ Tiles (start + entry.size) rest stop

/-- The block has one entry, a part of a file that was split.  Only a file whose
parts overflow their field can announce one part. -/
def HoldsPart (files : List (Path × Bytes)) (layout : Layout) : Prop :=
  ∃ file, file ∈ files ∧ BLOCK_SIZE < file.2.length ∧
    ∃ entry, layout.entries = [entry] ∧ entryPart layout.payload entry ∈ fileParts file ∧
      (file.2.length ≤ 2 ^ 32 * BLOCK_SIZE → entry.totalParts ≠ 1)

def NoRoom (layout : Layout) (entries : List FileEntry) : Prop :=
  ∃ first, entries.head? = some first ∧ BLOCK_SIZE < layout.payload.length + first.size

/-- Why a block was closed before the next one. -/
def ClosedFor (files : List (Path × Bytes)) (layout next : Layout) : Prop :=
  HoldsPart files layout ∨ HoldsPart files next ∨ NoRoom layout next.entries

structure Layout.Shaped (files : List (Path × Bytes)) (layout : Layout) : Prop where
  filled : layout.entries ≠ []
  bounded : layout.payload.length ≤ BLOCK_SIZE
  tiled : Tiles 0 layout.entries layout.payload.length
  few : layout.entries.length ≤ files.length

structure Shape (files : List (Path × Bytes)) (layouts : List Layout) : Prop where
  numbered : layouts.map Layout.id = List.range layouts.length
  shaped : ∀ layout, layout ∈ layouts → layout.Shaped files
  closed : layouts.IsChain (ClosedFor files)

variable {files : List (Path × Bytes)} {layouts : List Layout}

theorem Tiles.snoc {start stop : Nat} {entries : List FileEntry} (tiles : Tiles start entries stop)
    {entry : FileEntry} (behind : entry.offset = stop) :
    Tiles start (entries ++ [entry]) (stop + entry.size) := by
  induction entries generalizing start with
  | nil =>
      have same : start = stop := tiles
      subst same
      exact ⟨behind, rfl⟩
  | cons first rest ih => exact ⟨tiles.1, ih tiles.2⟩

/-! ### More files -/

theorem HoldsPart.mono {more : List (Path × Bytes)} {layout : Layout}
    (holds : HoldsPart files layout) : HoldsPart (files ++ more) layout := by
  obtain ⟨file, member, rest⟩ := holds
  exact ⟨file, List.mem_append_left _ member, rest⟩

theorem ClosedFor.mono {more : List (Path × Bytes)} {layout next : Layout}
    (closed : ClosedFor files layout next) : ClosedFor (files ++ more) layout next :=
  closed.imp HoldsPart.mono (Or.imp HoldsPart.mono id)

theorem Layout.Shaped.mono {more : List (Path × Bytes)} {layout : Layout}
    (shaped : layout.Shaped files) : layout.Shaped (files ++ more) where
  filled := shaped.filled
  bounded := shaped.bounded
  tiled := shaped.tiled
  few := by
    rw [List.length_append]
    exact Nat.le_add_right_of_le shaped.few

theorem Shape.mono {more : List (Path × Bytes)} (shape : Shape files layouts) :
    Shape (files ++ more) layouts where
  numbered := shape.numbered
  shaped := fun layout member => (shape.shaped layout member).mono
  closed := shape.closed.imp (fun _ _ closed => closed.mono)

theorem Shape.snoc (shape : Shape files layouts) {layout : Layout}
    (next : layout.id = layouts.length) (shaped : layout.Shaped files)
    (closed : ∀ last, last ∈ layouts.getLast? → ClosedFor files last layout) :
    Shape files (layouts ++ [layout]) where
  numbered := by
    rw [List.map_append, shape.numbered, List.length_append, List.length_singleton,
      List.range_succ, List.map_singleton, next]
  shaped := by
    intro other member
    rcases List.mem_append.mp member with earlier | last
    · exact shape.shaped other earlier
    · rw [List.mem_singleton.mp last]
      exact shaped
  closed := by
    refine List.isChain_append.mpr ⟨shape.closed, List.isChain_singleton _, ?_⟩
    intro last atEnd other same
    cases same
    exact closed last atEnd

/-! ### The block in progress -/

structure InShape (files : List (Path × Bytes)) (state : PackState) : Prop where
  blocks : Shape files state.blocks
  counted : state.blockId = state.blocks.length
  bounded : state.payload.length ≤ BLOCK_SIZE
  tiled : Tiles 0 state.entries state.payload.length
  few : state.entries.length ≤ files.length
  begun : state.entries ≠ [] → ∀ last, last ∈ state.blocks.getLast? →
    HoldsPart files last ∨ NoRoom last state.entries
  idle : state.entries = [] → ∀ last, last ∈ state.blocks.getLast? → HoldsPart files last

variable {state : PackState}

theorem inShape_start : InShape [] PackState.start where
  blocks :=
    { numbered := rfl
      shaped := fun layout member => absurd member List.not_mem_nil
      closed := List.isChain_nil }
  counted := rfl
  bounded := Nat.zero_le _
  tiled := rfl
  few := Nat.le_refl 0
  begun := fun nonempty => absurd rfl nonempty
  idle := by
    intro _ last member
    cases member

theorem InShape.payload_eq_nil (inShape : InShape files state) (idle : state.entries = []) :
    state.payload = [] := by
  have tiled := inShape.tiled
  rw [idle] at tiled
  exact List.eq_nil_of_length_eq_zero (Eq.symm tiled)

structure Flushed (files : List (Path × Bytes)) (state : PackState) : Prop where
  blocks : Shape files state.blocks
  counted : state.blockId = state.blocks.length
  noEntries : state.entries = []
  noPayload : state.payload = []

theorem InShape.flush (inShape : InShape files state) : Flushed files (flush state) := by
  rw [Packer.flush]
  by_cases empty : state.entries = []
  · rw [if_pos (List.isEmpty_iff.mpr empty)]
    exact ⟨inShape.blocks, inShape.counted, empty, inShape.payload_eq_nil empty⟩
  · rw [if_neg (fun isEmpty => empty (List.isEmpty_iff.mp isEmpty))]
    have shaped : state.current.Shaped files :=
      ⟨empty, inShape.bounded, inShape.tiled, inShape.few⟩
    refine ⟨inShape.blocks.snoc inShape.counted shaped ?_, ?_, rfl, rfl⟩
    · intro last member
      exact (inShape.begun empty last member).imp_right Or.inr
    · dsimp only
      rw [List.length_append, List.length_singleton, inShape.counted]

/-- The block that a flush closed was as full as it had to be. -/
theorem InShape.flushed_last (inShape : InShape files state) {last : Layout}
    (member : last ∈ (Packer.flush state).blocks.getLast?) :
    HoldsPart files last ∨ last.payload = state.payload := by
  rw [Packer.flush] at member
  by_cases empty : state.entries = []
  · rw [if_pos (List.isEmpty_iff.mpr empty)] at member
    exact .inl (inShape.idle empty last member)
  · rw [if_neg (fun isEmpty => empty (List.isEmpty_iff.mp isEmpty))] at member
    dsimp only at member
    rw [List.getLast?_concat] at member
    cases member
    exact .inr rfl

theorem inShape_appendFile (blocks : Shape files state.blocks)
    (counted : state.blockId = state.blocks.length)
    (tiled : Tiles 0 state.entries state.payload.length)
    (few : state.entries.length ≤ files.length) (path : Path) (bytes : Bytes)
    (room : state.payload.length + bytes.length ≤ BLOCK_SIZE)
    (begun : ∀ last, last ∈ state.blocks.getLast? → HoldsPart files last ∨
      (state.entries ≠ [] ∧ NoRoom last state.entries) ∨
      (state.entries = [] ∧ BLOCK_SIZE < last.payload.length + bytes.length)) :
    InShape (files ++ [(path, bytes)]) (appendFile state path bytes) where
  blocks := blocks.mono
  counted := counted
  bounded := by
    rw [appendFile, List.length_append]
    exact room
  tiled := by
    rw [appendFile, List.length_append]
    exact tiled.snoc rfl
  few := by
    rw [appendFile, List.length_append, List.length_append, List.length_singleton,
      List.length_singleton]
    exact Nat.succ_le_succ few
  begun := by
    intro _ last member
    rcases begun last member with holds | ⟨busy, first, atFront, full⟩ | ⟨empty, full⟩
    · exact .inl holds.mono
    · refine .inr ⟨first, ?_, full⟩
      rw [appendFile, List.head?_append_of_ne_nil _ busy]
      exact atFront
    · have atFront : (appendFile state path bytes).entries.head? = some
          { path := path
            offset := state.payload.length
            size := bytes.length
            partIndex := 0
            totalParts := 1 } := by
        rw [appendFile, empty, List.nil_append, List.head?_cons]
      exact .inr ⟨_, atFront, full⟩
  idle := by
    intro empty
    exact absurd empty (List.append_ne_nil_of_right_ne_nil _ (List.cons_ne_nil _ _))

theorem InShape.packSmall (inShape : InShape files state) (path : Path) (bytes : Bytes)
    (small : ¬ BLOCK_SIZE < bytes.length) :
    InShape (files ++ [(path, bytes)]) (packSmall state path bytes) := by
  rw [Packer.packSmall]
  split
  · rename_i full
    have flushed := inShape.flush
    apply inShape_appendFile flushed.blocks flushed.counted
    · rw [flushed.noEntries, flushed.noPayload]
      rfl
    · rw [flushed.noEntries]
      exact Nat.zero_le _
    · rw [flushed.noPayload, List.length_nil, Nat.zero_add]
      exact Nat.not_lt.mp small
    · intro last member
      rcases inShape.flushed_last member with holds | same
      · exact .inl holds
      · refine .inr (.inr ⟨flushed.noEntries, ?_⟩)
        rw [same]
        exact full
  · rename_i room
    apply inShape_appendFile inShape.blocks inShape.counted inShape.tiled inShape.few
    · exact Nat.not_lt.mp room
    · intro last member
      by_cases empty : state.entries = []
      · exact .inl (inShape.idle empty last member)
      · exact (inShape.begun empty last member).imp_right (fun noRoom => .inl ⟨empty, noRoom⟩)

/-! ### Large files -/

theorem totalParts_ne_one {bytes : Bytes} (large : BLOCK_SIZE < bytes.length)
    (fits : bytes.length ≤ 2 ^ 32 * BLOCK_SIZE) : totalParts bytes ≠ 1 := by
  unfold totalParts
  unfold BLOCK_SIZE at large fits ⊢
  omega

theorem Flushed.packPart (flushed : Flushed files state) {path : Path} {bytes : Bytes}
    (listed : (path, bytes) ∈ files) (large : BLOCK_SIZE < bytes.length) {part : Bytes × Nat}
    (isPart : part ∈ (chunks BLOCK_SIZE bytes).zipIdx) :
    Flushed files (packPart path (totalParts bytes) state part) ∧
      ∀ last, last ∈ (packPart path (totalParts bytes) state part).blocks.getLast? →
        HoldsPart files last := by
  have short : part.1.length ≤ BLOCK_SIZE :=
    (length_of_mem_chunks BLOCK_SIZE BLOCK_SIZE_pos bytes part.1
      (List.fst_mem_of_mem_zipIdx isPart)).2
  have holds : HoldsPart files
      { id := state.blockId
        entries := [{ path := path, offset := 0, size := part.1.length,
                      partIndex := part.2 % 2 ^ 32, totalParts := totalParts bytes }]
        payload := part.1 } := by
    refine ⟨_, listed, large, _, rfl, ?_, totalParts_ne_one large⟩
    rw [fileParts, if_pos large]
    refine List.mem_map.mpr ⟨part, isPart, ?_⟩
    rw [splitPart, entryPart, entryData, List.drop_zero, List.take_length]
  refine ⟨⟨?_, ?_, flushed.noEntries, flushed.noPayload⟩, ?_⟩
  · refine flushed.blocks.snoc flushed.counted ⟨List.cons_ne_nil _ _, short, ?_, ?_⟩ ?_
    · exact ⟨rfl, Nat.zero_add _⟩
    · exact List.length_pos_of_mem listed
    · exact fun last _ => .inr (.inl holds)
  · rw [Packer.packPart]
    dsimp only
    rw [List.length_append, List.length_singleton, flushed.counted]
  · intro last member
    rw [Packer.packPart] at member
    dsimp only at member
    rw [List.getLast?_concat] at member
    cases member
    exact holds

theorem Flushed.foldl_packPart (flushed : Flushed files state) {path : Path} {bytes : Bytes}
    (listed : (path, bytes) ∈ files) (large : BLOCK_SIZE < bytes.length)
    (parts : List (Bytes × Nat))
    (areParts : ∀ part, part ∈ parts → part ∈ (chunks BLOCK_SIZE bytes).zipIdx) :
    Flushed files (parts.foldl (Packer.packPart path (totalParts bytes)) state) ∧
      (parts ≠ [] → ∀ last,
        last ∈ (parts.foldl (Packer.packPart path (totalParts bytes)) state).blocks.getLast? →
          HoldsPart files last) := by
  -- the last part decides about the last block
  induction parts using List.reverseRecOn with
  | nil => exact ⟨flushed, fun impossible => absurd rfl impossible⟩
  | append_singleton parts last ih =>
      obtain ⟨before, _⟩ := ih (fun part member => areParts part (List.mem_append_left _ member))
      obtain ⟨after, holds⟩ := before.packPart listed large
        (areParts last (List.mem_append_right _ (List.mem_singleton.mpr rfl)))
      rw [List.foldl_append]
      exact ⟨after, fun _ => holds⟩

theorem Flushed.mono {more : List (Path × Bytes)} (flushed : Flushed files state) :
    Flushed (files ++ more) state :=
  ⟨flushed.blocks.mono, flushed.counted, flushed.noEntries, flushed.noPayload⟩

theorem InShape.packLarge (inShape : InShape files state) (path : Path) (bytes : Bytes)
    (large : BLOCK_SIZE < bytes.length) :
    InShape (files ++ [(path, bytes)]) (packLarge state path bytes) := by
  have listed : (path, bytes) ∈ files ++ [(path, bytes)] :=
    List.mem_append_right _ (List.mem_singleton.mpr rfl)
  obtain ⟨after, holds⟩ :=
    inShape.flush.mono.foldl_packPart listed large _ (fun part member => member)
  have parted : (chunks BLOCK_SIZE bytes).zipIdx ≠ [] := by
    intro none
    have joined := flatten_chunks BLOCK_SIZE BLOCK_SIZE_pos bytes
    rw [List.zipIdx_eq_nil_iff.mp none, List.flatten_nil] at joined
    rw [← joined] at large
    exact absurd large (Nat.not_lt_zero _)
  refine ⟨after.blocks, after.counted, ?_, ?_, ?_, ?_, fun _ => holds parted⟩
  · rw [Packer.packLarge, after.noPayload]
    exact Nat.zero_le _
  · rw [Packer.packLarge, after.noPayload, after.noEntries]
    rfl
  · rw [Packer.packLarge, after.noEntries]
    exact Nat.zero_le _
  · intro busy
    exact absurd after.noEntries busy

theorem InShape.packFile (inShape : InShape files state) (file : Path × Bytes) :
    InShape (files ++ [file]) (packFile state file) := by
  rw [Packer.packFile]
  split
  · rename_i large
    exact inShape.packLarge file.1 file.2 large
  · rename_i small
    exact inShape.packSmall file.1 file.2 small

theorem inShape_foldl (files : List (Path × Bytes)) :
    InShape files (files.foldl packFile PackState.start) := by
  induction files using List.reverseRecOn with
  | nil => exact inShape_start
  | append_singleton files file ih =>
      rw [List.foldl_append]
      exact ih.packFile file

theorem packLayouts_shape (files : List (Path × Bytes)) : Shape files (packLayouts files) :=
  (inShape_foldl files).flush.blocks

/-- The blocks of any files are numbered from zero.  Each has an entry, no more
entries than there are files and at most 16 MB, which its entries tile without
gaps or overlaps.  None was closed early: the first entry of the next block did
not fit, unless one of the two holds a part of a file of more than 16 MB. -/
theorem packFiles_shape (files : List (Path × Bytes)) :
    ∃ layouts, packFiles files = layouts.map Layout.block ∧ Shape files layouts :=
  ⟨packLayouts files, rfl, packLayouts_shape files⟩

end Packer

end Udpix.IoEngine

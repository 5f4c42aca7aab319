/-
What is left when the channel closes.

The unfinished files live in a map of the call and are dropped with it; the end
of the stream does not look at them.  So Ok means that everything received was
written exactly when the parts of each split path come in rounds: in a round the
different indices reach the number that its first part announces with its last
part, and none is open at the end.
-/

import Mathlib.Data.List.Dedup
import Udpix.IoEngine.SplitFiles
import Udpix.Library.Chunks

namespace Udpix.IoEngine

open UnixPath Protocol Packer Assembly AsyncWriter
open Chunks (InRounds leftOver)

/-- No file is left unfinished, and each path received is submitted by that entry
or a later one. -/
structure EverythingWritten (outputDir : Path) (entries : List (FileEntry × Bytes))
    (state : WriterState) : Prop where
  finished : ∀ key, state.partialFiles.lookup key = none
  written : ∀ done received rest, entries = done ++ received :: rest →
    ∃ completion : Completion, completion ∈ completions entries ∧ done <+: completion.done ∧
      components completion.received.1.path = components received.1.path ∧
      completion.request outputDir ∈ state.submitted

/-- A part of the split file under a key. -/
def PartOf (key : List Component) (received : FileEntry × Bytes) : Prop :=
  received.1.totalParts ≠ 1 ∧ components received.1.path = key

instance (key : List Component) : DecidablePred (PartOf key) :=
  fun received => inferInstanceAs (Decidable (received.1.totalParts ≠ 1 ∧ _))

/-- The index and the announced total of each part received under a key. -/
def announcedParts (key : List Component) (entries : List (FileEntry × Bytes)) :
    List (Nat × Nat) :=
  (entries.filter (PartOf key)).map
    (fun received => (received.1.partIndex, received.1.totalParts))

def AllIndices (parts : List (Nat × Nat)) : Prop :=
  parts.head?.map Prod.snd = some (parts.map Prod.fst).dedup.length

instance : DecidablePred AllIndices :=
  fun parts => inferInstanceAs (Decidable (parts.head?.map Prod.snd = some _))

/-- The parts of each split path come in rounds, and the last round is complete. -/
def PartsInRounds (entries : List (FileEntry × Bytes)) : Prop :=
  ∀ key, InRounds AllIndices (announcedParts key entries)

/-- The last part received for each split path completes its file. -/
def LastPartsComplete (entries : List (FileEntry × Bytes)) : Prop :=
  ∀ key done received rest, entries = done ++ received :: rest → PartOf key received →
    (∀ later, later ∈ rest → ¬ PartOf key later) → Completes done received

/-! ### Unfinished files -/

def Unfinished (entries : List (FileEntry × Bytes)) (key : List Component) : Prop :=
  ∃ done received rest, entries = done ++ received :: rest ∧ PartOf key received ∧
    (∀ later, later ∈ rest → ¬ PartOf key later) ∧ ¬ Completes done received

theorem unfinished_snoc_of_part (entries : List (FileEntry × Bytes)) (key : List Component)
    (last : FileEntry × Bytes) (part : PartOf key last) :
    Unfinished (entries ++ [last]) key ↔ ¬ Completes entries last := by
  constructor
  · rintro ⟨done, received, rest, split, _, noLater, incomplete⟩
    cases rest using List.reverseRecOn with
    | nil =>
        obtain ⟨rfl, sameLast⟩ := List.append_inj' split rfl
        cases sameLast
        exact incomplete
    | append_singleton rest final =>
        rw [← List.cons_append, ← List.append_assoc] at split
        obtain ⟨_, sameLast⟩ := List.append_inj' split rfl
        cases sameLast
        exact absurd part (noLater last (List.mem_append_right _ List.mem_cons_self))
  · intro incomplete
    exact ⟨entries, last, [], rfl, part, (fun _ member => nomatch member), incomplete⟩

theorem unfinished_snoc_of_other (entries : List (FileEntry × Bytes)) (key : List Component)
    (last : FileEntry × Bytes) (other : ¬ PartOf key last) :
    Unfinished (entries ++ [last]) key ↔ Unfinished entries key := by
  constructor
  · rintro ⟨done, received, rest, split, part, noLater, incomplete⟩
    cases rest using List.reverseRecOn with
    | nil =>
        obtain ⟨_, sameLast⟩ := List.append_inj' split rfl
        cases sameLast
        exact absurd part other
    | append_singleton rest final =>
        rw [← List.cons_append, ← List.append_assoc] at split
        obtain ⟨rfl, _⟩ := List.append_inj' split rfl
        exact ⟨done, received, rest, rfl, part,
          (fun later member => noLater later (List.mem_append_left _ member)), incomplete⟩
  · rintro ⟨done, received, rest, rfl, part, noLater, incomplete⟩
    refine ⟨done, received, rest ++ [last], by rw [List.append_assoc]; rfl, part, ?_, incomplete⟩
    intro later member
    rcases List.mem_append.mp member with earlier | isLast
    · exact noLater later earlier
    · rw [List.mem_singleton.mp isLast]
      exact other

theorem lookup_absorb_of_other (entries : List (FileEntry × Bytes)) (key : List Component)
    (last : FileEntry × Bytes) (other : ¬ PartOf key last) :
    (run (entries ++ [last])).partialFiles.lookup key =
      (run entries).partialFiles.lookup key := by
  rw [run_snoc]
  change (acceptEntry (run entries).partialFiles last.1 last.2).1.lookup key = _
  by_cases whole : last.1.totalParts = 1
  · rw [acceptEntry_unsplit _ _ whole]
  · have differ : key ≠ components last.1.path := fun same => other ⟨whole, same.symm⟩
    rw [acceptEntry_split entries last whole]
    split
    · exact AList.lookup_erase_ne differ
    · exact AList.lookup_insert_ne differ

theorem lookup_absorb_of_part (entries : List (FileEntry × Bytes)) (key : List Component)
    (last : FileEntry × Bytes) (part : PartOf key last) :
    (run (entries ++ [last])).partialFiles.lookup key = none ↔ Completes entries last := by
  obtain ⟨split, rfl⟩ := part
  rw [run_snoc, Completes, acceptEntry_split entries last split]
  change (acceptEntry (run entries).partialFiles last.1 last.2).1.lookup _ = none ↔ _
  rw [acceptEntry_split entries last split]
  split
  · exact iff_of_true (AList.lookup_erase _ _) rfl
  · refine iff_of_false ?_ Bool.false_ne_true
    rw [AList.lookup_insert]
    exact Option.some_ne_none _

theorem lookup_run_eq_none_iff (entries : List (FileEntry × Bytes)) (key : List Component) :
    (run entries).partialFiles.lookup key = none ↔ ¬ Unfinished entries key := by
  induction entries using List.reverseRecOn with
  | nil =>
      refine iff_of_true (AList.lookup_empty key) ?_
      rintro ⟨done, received, rest, split, _⟩
      exact List.append_ne_nil_of_right_ne_nil done (List.cons_ne_nil _ rest) split.symm
  | append_singleton entries last ih =>
      by_cases part : PartOf key last
      · rw [lookup_absorb_of_part entries key last part,
          unfinished_snoc_of_part entries key last part, not_not]
      · rw [lookup_absorb_of_other entries key last part,
          unfinished_snoc_of_other entries key last part, ih]

theorem lastPartsComplete_iff (entries : List (FileEntry × Bytes)) :
    LastPartsComplete entries ↔ ∀ key, (run entries).partialFiles.lookup key = none := by
  constructor
  · intro complete key
    rw [lookup_run_eq_none_iff]
    rintro ⟨done, received, rest, split, part, noLater, incomplete⟩
    exact incomplete (complete key done received rest split part noLater)
  · intro finished key done received rest split part noLater
    by_contra incomplete
    exact (lookup_run_eq_none_iff entries key).mp (finished key)
      ⟨done, received, rest, split, part, noLater, incomplete⟩

/-! ### Rounds of parts -/

theorem announcedParts_snoc_of_other (entries : List (FileEntry × Bytes)) (key : List Component)
    (last : FileEntry × Bytes) (other : ¬ PartOf key last) :
    announcedParts key (entries ++ [last]) = announcedParts key entries := by
  unfold announcedParts
  rw [List.filter_append, List.filter_cons,
    if_neg (fun holds => other (decide_eq_true_iff.mp holds)), List.filter_nil, List.append_nil]

theorem announcedParts_snoc_of_part (entries : List (FileEntry × Bytes)) (key : List Component)
    (last : FileEntry × Bytes) (part : PartOf key last) :
    announcedParts key (entries ++ [last]) =
      announcedParts key entries ++ [(last.1.partIndex, last.1.totalParts)] := by
  unfold announcedParts
  rw [List.filter_append, List.filter_cons, if_pos (decide_eq_true part), List.filter_nil,
    List.map_append, List.map_singleton]

/-- The file holds the parts of an open round. -/
structure Collects (file : PartialFile) (round : List (Nat × Nat)) : Prop where
  total : round.head?.map Prod.snd = some file.totalParts
  indices : ∀ index, index ∈ file.parts.keys ↔ index ∈ round.map Prod.fst

theorem Collects.isComplete_iff {file : PartialFile} {round : List (Nat × Nat)}
    (collects : Collects file round) : file.isComplete = true ↔ AllIndices round := by
  have sameIndices : file.parts.keys.Perm (round.map Prod.fst).dedup := by
    apply (List.perm_ext_iff_of_nodup file.parts.nodupKeys (List.nodup_dedup _)).mpr
    intro index
    rw [List.mem_dedup]
    exact collects.indices index
  unfold PartialFile.isComplete AllIndices
  rw [decide_eq_true_iff, collects.total, AssocMap.size, sameIndices.length_eq, Option.some_inj]
  exact eq_comm

/-- The round under a key, and the file that collects it. -/
def Tracks (file : Option PartialFile) (round : List (Nat × Nat)) : Prop :=
  (file = none ∧ round = []) ∨ ∃ held, file = some held ∧ Collects held round

theorem Tracks.eq_none_iff {file : Option PartialFile} {round : List (Nat × Nat)}
    (tracks : Tracks file round) : file = none ↔ round = [] := by
  rcases tracks with ⟨noFile, empty⟩ | ⟨held, isHeld, collects⟩
  · exact iff_of_true noFile empty
  · refine iff_of_false (by rw [isHeld]; exact Option.some_ne_none held) ?_
    intro empty
    have announced := collects.total
    rw [empty] at announced
    cases announced

theorem Tracks.heldFile {entries : List (FileEntry × Bytes)} {last : FileEntry × Bytes}
    {round : List (Nat × Nat)}
    (tracks : Tracks ((run entries).partialFiles.lookup (components last.1.path)) round) :
    Collects (heldFile entries last) (round ++ [(last.1.partIndex, last.1.totalParts)]) := by
  unfold IoEngine.heldFile
  rcases tracks with ⟨noFile, rfl⟩ | ⟨held, isHeld, collects⟩
  · rw [noFile]
    refine ⟨rfl, ?_⟩
    intro index
    change index ∈ (AList.insert _ _ _).keys ↔ _
    rw [AList.keys_insert]
    exact Iff.rfl
  · rw [isHeld]
    refine ⟨?_, ?_⟩
    · have announced := collects.total
      cases round with
      | nil => cases announced
      | cons first round => exact announced
    · intro index
      change index ∈ (AList.insert _ _ _) ↔ _
      rw [AList.mem_insert, List.map_append, List.mem_append, ← collects.indices, or_comm]
      exact or_congr Iff.rfl List.mem_singleton.symm

theorem tracks_run (entries : List (FileEntry × Bytes)) (key : List Component) :
    Tracks ((run entries).partialFiles.lookup key)
      (leftOver AllIndices (announcedParts key entries)) := by
  induction entries using List.reverseRecOn with
  | nil => exact Or.inl ⟨AList.lookup_empty key, rfl⟩
  | append_singleton entries last ih =>
      by_cases part : PartOf key last
      · rw [announcedParts_snoc_of_part entries key last part, Chunks.leftOver_snoc,
          Chunks.collect]
        obtain ⟨split, rfl⟩ := part
        have collects := ih.heldFile
        rw [run_snoc]
        change Tracks ((acceptEntry (run entries).partialFiles last.1 last.2).1.lookup _) _
        rw [acceptEntry_split entries last split]
        by_cases complete : (heldFile entries last).isComplete = true
        · rw [if_pos complete, if_pos (collects.isComplete_iff.mp complete)]
          exact Or.inl ⟨AList.lookup_erase _ _, rfl⟩
        · rw [if_neg complete, if_neg (fun all => complete (collects.isComplete_iff.mpr all))]
          exact Or.inr ⟨heldFile entries last, AList.lookup_insert _, collects⟩
      · rw [announcedParts_snoc_of_other entries key last part,
          lookup_absorb_of_other entries key last part]
        exact ih

theorem partsInRounds_iff (entries : List (FileEntry × Bytes)) :
    PartsInRounds entries ↔ ∀ key, (run entries).partialFiles.lookup key = none := by
  apply forall_congr'
  intro key
  rw [(tracks_run entries key).eq_none_iff]
  symm
  exact Chunks.leftOver_eq_nil_iff AllIndices (Option.some_ne_none _).symm _

/-! ### Every path is submitted -/

theorem exists_last_of_exists {α : Type} (Holds : α → Prop) (items : List α)
    (present : ∃ item, item ∈ items ∧ Holds item) :
    ∃ front last back, items = front ++ last :: back ∧ Holds last ∧
      ∀ later, later ∈ back → ¬ Holds later := by
  induction items using List.reverseRecOn with
  | nil =>
      obtain ⟨_, member, _⟩ := present
      cases member
  | append_singleton items final ih =>
      by_cases holds : Holds final
      · exact ⟨items, final, [], rfl, holds, fun _ member => nomatch member⟩
      · obtain ⟨item, member, itemHolds⟩ := present
        have earlier : item ∈ items := by
          rcases List.mem_append.mp member with inItems | isFinal
          · exact inItems
          · rw [List.mem_singleton.mp isFinal] at itemHolds
            exact absurd itemHolds holds
        obtain ⟨front, last, back, rfl, lastHolds, noLater⟩ := ih ⟨item, earlier, itemHolds⟩
        refine ⟨front, last, back ++ [final], by rw [List.append_assoc]; rfl, lastHolds, ?_⟩
        intro later inBack
        rcases List.mem_append.mp inBack with before | isFinal
        · exact noLater later before
        · rw [List.mem_singleton.mp isFinal]
          exact holds

theorem exists_completion {entries done : List (FileEntry × Bytes)}
    {received : FileEntry × Bytes} {rest : List (FileEntry × Bytes)}
    (split : entries = done ++ received :: rest) (completes : Completes done received) :
    ∃ completion, completion ∈ completions entries ∧ completion.done = done ∧
      completion.received = received := by
  obtain ⟨bytes, accepted⟩ := Option.isSome_iff_exists.mp completes
  refine ⟨⟨done, received, bytes⟩, ?_, rfl, rfl⟩
  exact (mem_completions entries _).mpr ⟨⟨rest, split⟩, accepted⟩

/-- From each entry on, its path is completed once more. -/
theorem LastPartsComplete.exists_later {entries : List (FileEntry × Bytes)}
    (complete : LastPartsComplete entries) {done : List (FileEntry × Bytes)}
    {received : FileEntry × Bytes} {rest : List (FileEntry × Bytes)}
    (split : entries = done ++ received :: rest) :
    ∃ completion : Completion, completion ∈ completions entries ∧ done <+: completion.done ∧
      components completion.received.1.path = components received.1.path := by
  by_cases whole : received.1.totalParts = 1
  · have completes : Completes done received := by
      rw [Completes, acceptEntry_unsplit _ _ whole]
      rfl
    obtain ⟨completion, member, rfl, rfl⟩ := exists_completion split completes
    exact ⟨completion, member, List.prefix_refl _, rfl⟩
  · obtain ⟨front, last, back, cut, part, noLater⟩ :=
      exists_last_of_exists (PartOf (components received.1.path)) (received :: rest)
        ⟨received, List.mem_cons_self, whole, rfl⟩
    have lastSplit : entries = (done ++ front) ++ last :: back := by
      rw [split, cut, List.append_assoc]
    obtain ⟨completion, member, sameDone, rfl⟩ := exists_completion lastSplit
      (complete _ _ _ _ lastSplit part noLater)
    exact ⟨completion, member, sameDone ▸ List.prefix_append done front, part.2⟩

theorem everythingWritten_of_ok {overflowChecks : Bool} {disk : Disk} {outputDir : Path}
    {chunks : List Bytes} {total : Nat}
    (returned : (receiveAndWrite overflowChecks disk outputDir chunks).outcome = .ok total)
    (inRounds : PartsInRounds (decodedEntries overflowChecks chunks)) :
    EverythingWritten outputDir (decodedEntries overflowChecks chunks)
      (consume overflowChecks disk outputDir start chunks).1 := by
  have consumed := consumed_of_ok overflowChecks disk outputDir chunks total returned
  have alive := consume_failure overflowChecks disk outputDir chunks start rfl consumed
  obtain ⟨samePartials, sameSubmitted, _⟩ :=
    ((mirrors_start outputDir).consume overflowChecks disk chunks).live alive
  rw [List.nil_append] at samePartials sameSubmitted
  rw [completed_run, List.map_map] at sameSubmitted
  have finished := (partsInRounds_iff _).mp inRounds
  refine ⟨?_, ?_⟩
  · rw [samePartials]
    exact finished
  · intro done received rest split
    obtain ⟨completion, member, after, samePath⟩ :=
      ((lastPartsComplete_iff _).mpr finished).exists_later split
    refine ⟨completion, member, after, samePath, ?_⟩
    rw [sameSubmitted]
    exact List.mem_map_of_mem member

/-- Ok means that everything received was written, for every directory and every
behaviour of the disk, exactly when a chunk does not unpack or the parts of each
split path come in complete rounds. -/
theorem ok_everythingWritten_iff (overflowChecks : Bool) (chunks : List Bytes) :
    (∀ (disk : Disk) (outputDir : Path) (total : Nat),
        (receiveAndWrite overflowChecks disk outputDir chunks).outcome = .ok total →
        EverythingWritten outputDir (decodedEntries overflowChecks chunks)
          (consume overflowChecks disk outputDir start chunks).1) ↔
      (∃ chunk, chunk ∈ chunks ∧
        ∃ fault, unpackEntries overflowChecks { id := 0, data := chunk } = .error fault) ∨
      PartsInRounds (decodedEntries overflowChecks chunks) := by
  constructor
  · intro always
    rcases unreadable_or_decodable overflowChecks chunks with unreadable | decodable
    · exact Or.inl unreadable
    · obtain ⟨total, returned⟩ :=
        receiveAndWrite_healthy workingDisk_healthy overflowChecks [] chunks decodable
      have everything := always workingDisk [] total returned
      have calm := calm_start.consume workingDisk_healthy overflowChecks [] chunks
      obtain ⟨samePartials, _, _⟩ :=
        ((mirrors_start []).consume overflowChecks workingDisk chunks).live calm.1
      refine Or.inr ((partsInRounds_iff _).mpr ?_)
      rw [List.nil_append] at samePartials
      rw [← samePartials]
      exact everything.finished
  · intro condition disk outputDir total returned
    rcases condition with ⟨chunk, member, fault, unpacked⟩ | inRounds
    · obtain ⟨entries, decoded⟩ := decodable_of_ok overflowChecks disk outputDir chunks total
        returned chunk member
      rw [unpacked] at decoded
      cases decoded
    · exact everythingWritten_of_ok returned inRounds

example : InRounds AllIndices [(0, 2), (0, 2), (1, 2)] :=
  (Chunks.leftOver_eq_nil_iff AllIndices (by decide) _).mp (by decide)

/-- A block with part 0 of a file of two parts. -/
def firstPartBlock : Bytes :=
  serialise 0 [{ path := [0x61], offset := 0, size := 1, partIndex := 0, totalParts := 2 }] [1]

/-- The stream ends after part 0: the call returns zero bytes and no error. -/
theorem everythingWritten_fails_without_second_part :
    ¬ ∀ (overflowChecks : Bool) (disk : Disk) (outputDir : Path) (chunks : List Bytes)
        (total : Nat),
      (receiveAndWrite overflowChecks disk outputDir chunks).outcome = .ok total →
      EverythingWritten outputDir (decodedEntries overflowChecks chunks)
        (consume overflowChecks disk outputDir start chunks).1 := by
  intro always
  have everything := always true workingDisk [0x6F] [firstPartBlock] 0 (by decide +kernel)
  have nothing := everything.finished (components [0x61])
  exact absurd nothing (by decide +kernel)

end Udpix.IoEngine

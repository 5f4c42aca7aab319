/-
Where the submitted files lie.

The writer joins each received path to the output directory and submits it as it
is.  So a run stays inside every output directory exactly when the paths of the
entries that complete a file do, and a path does exactly when it is relative and
never climbs above its start.
-/

import Udpix.IoEngine.Delivery

namespace Udpix.IoEngine

open UnixPath Protocol Packer Assembly AsyncWriter

/-- An entry completes its file when nothing is missing after it. -/
def Completes (done : List (FileEntry × Bytes)) (received : FileEntry × Bytes) : Prop :=
  (acceptEntry (run done).partialFiles received.1 received.2).2.isSome = true

theorem mem_paths_completed_run (entries : List (FileEntry × Bytes)) (path : Path) :
    path ∈ (run entries).completed.map Prod.fst ↔
      ∃ done received rest, entries = done ++ received :: rest ∧
        Completes done received ∧ received.1.path = path := by
  induction entries using List.reverseRecOn with
  | nil =>
      constructor
      · intro member
        cases member
      · intro found
        obtain ⟨done, received, rest, split, _⟩ := found
        exact absurd split (List.append_ne_nil_of_right_ne_nil _ (List.cons_ne_nil _ _)).symm
  | append_singleton entries last ih =>
      have completedEq : (run (entries ++ [last])).completed.map Prod.fst =
          (run entries).completed.map Prod.fst ++
            ((acceptEntry (run entries).partialFiles last.1 last.2).2.toList.map
              (fun _ => last.1.path)) := by
        rw [run_snoc]
        unfold absorb
        dsimp only
        rw [List.map_append, List.map_map]
        rfl
      rw [completedEq, List.mem_append, ih]
      constructor
      · intro either
        rcases either with ⟨done, received, rest, split, completes, same⟩ | fresh
        · refine ⟨done, received, rest ++ [last], ?_, completes, same⟩
          rw [split, List.append_assoc]
          rfl
        · obtain ⟨bytes, isComplete, same⟩ := List.mem_map.mp fresh
          refine ⟨entries, last, [], rfl, ?_, same⟩
          unfold Completes
          rw [Option.mem_toList.mp isComplete]
          rfl
      · intro found
        obtain ⟨done, received, rest, split, completes, same⟩ := found
        cases rest using List.reverseRecOn with
        | nil =>
            obtain ⟨rfl, sameLast⟩ := List.append_inj' split rfl
            cases sameLast
            obtain ⟨bytes, isComplete⟩ := Option.isSome_iff_exists.mp completes
            refine Or.inr (List.mem_map.mpr ⟨bytes, ?_, same⟩)
            rw [isComplete]
            exact List.mem_cons_self
        | append_singleton rest final =>
            rw [← List.cons_append, ← List.append_assoc] at split
            obtain ⟨rfl, _⟩ := List.append_inj' split rfl
            exact Or.inl ⟨done, received, rest, rfl, completes, same⟩

/-- Everything a run submits lies inside the output directory, for every
directory and every behaviour of the disk, exactly when each entry that
completes a file has a relative path that never climbs above its start. -/
theorem receiveAndWrite_inside_iff (overflowChecks : Bool) (chunks : List Bytes) :
    (∀ disk outputDir request,
        request ∈ (receiveAndWrite overflowChecks disk outputDir chunks).submitted →
          Inside outputDir request.absPath) ↔
      ∀ done received rest,
        decodedEntries overflowChecks chunks = done ++ received :: rest →
          Completes done received → StaysBelow received.1.path := by
  constructor
  · intro always done received rest split completes
    have completed : received.1.path ∈
        (run (decodedEntries overflowChecks chunks)).completed.map Prod.fst :=
      (mem_paths_completed_run _ _).mpr ⟨done, received, rest, split, completes, rfl⟩
    obtain ⟨file, isCompleted, samePath⟩ := List.mem_map.mp completed
    apply (inside_join_iff_staysBelow received.1.path).mp
    intro outputDir
    have submitted : requestOf outputDir file ∈
        (receiveAndWrite overflowChecks workingDisk outputDir chunks).submitted := by
      rw [receiveAndWrite_submitted_healthy workingDisk_healthy]
      exact List.mem_map_of_mem isCompleted
    have inside := always workingDisk outputDir _ submitted
    rw [← samePath]
    exact inside
  · intro stays disk outputDir request member
    have started := receiveAndWrite_submitted_prefix overflowChecks disk outputDir chunks
    obtain ⟨file, completed, built⟩ := List.mem_map.mp (started.subset member)
    obtain ⟨done, received, rest, split, completes, samePath⟩ :=
      (mem_paths_completed_run _ file.1).mp (List.mem_map_of_mem completed)
    rw [← built]
    apply inside_join_of_staysBelow
    rw [← samePath]
    exact stays done received rest split completes

/-- A block with one unsplit file of one byte under the path `../x`. -/
def climbingBlock : Bytes :=
  serialise 0
    [{ path := [0x2E, 0x2E, 0x2F, 0x78], offset := 0, size := 1, partIndex := 0,
       totalParts := 1 }] [7]

theorem climbingBlock_escapes :
    ¬ ∀ request, request ∈ (receiveAndWrite true workingDisk [0x2F, 0x6F]
      [climbingBlock]).submitted → Inside [0x2F, 0x6F] request.absPath := by
  intro always
  have outside : ¬ Inside [0x2F, 0x6F] [0x2F, 0x6F, 0x2F, 0x2E, 0x2E, 0x2F, 0x78] := by
    decide
  apply outside
  apply always { absPath := [0x2F, 0x6F, 0x2F, 0x2E, 0x2E, 0x2F, 0x78], data := [7] }
  decide +kernel

end Udpix.IoEngine

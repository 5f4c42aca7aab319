/-
The directory walk that finds the files to send.

What `read_dir` and `metadata` answer is a listing: the entries of one directory
in the order in which they come, each directory with its own listing.  A link is
neither a directory nor a file, because `DirEntry::metadata` does not follow it.
An entry that cannot be read ends the walk, so nothing stands behind it.
-/

import Udpix.IoEngine.Packer
import Udpix.Library.PathWalk
import Mathlib.Data.List.Nodup

namespace Udpix.IoEngine

open UnixPath Protocol

inductive Listing where
  | done
  | broken (reason : Bytes)
  | noMetadata (reason : Bytes)
  | file (name : EntryName) (rest : Listing)
  | directory (name : EntryName) (opens : Bool) (inner rest : Listing)
  | other (name : EntryName) (rest : Listing)
deriving DecidableEq

inductive WalkError where
  | readDir (dir : Path)
  | entry (reason : Bytes)
  | metadata (reason : Bytes)
deriving DecidableEq

/-- The loop over the entries of `dir`, which was opened before. -/
def collectRecursive (dir : Path) : Listing → List Path → Except WalkError (List Path)
  | .done, out => .ok out
  | .broken reason, _ => .error (.entry reason)
  | .noMetadata reason, _ => .error (.metadata reason)
  | .file name rest, out => collectRecursive dir rest (out ++ [join dir name.bytes])
  | .directory name opens inner rest, out =>
      if opens then
        match collectRecursive (join dir name.bytes) inner out with
        | .error reason => .error reason
        | .ok found => collectRecursive dir rest found
      else .error (.readDir (join dir name.bytes))
  | .other _ rest, out => collectRecursive dir rest out

def collectFiles (root : Path) (opens : Bool) (listing : Listing) : Except WalkError (List Path) :=
  if opens then collectRecursive root listing [] else .error (.readDir root)

/-! ### What the walk is for -/

namespace Listing

def regularFiles : Listing → List (List EntryName)
  | .done => []
  | .broken _ => []
  | .noMetadata _ => []
  | .file name rest => [name] :: rest.regularFiles
  | .directory name _ inner rest =>
      inner.regularFiles.map (name :: ·) ++ rest.regularFiles
  | .other _ rest => rest.regularFiles

/-- The first thing in the way of a walk that starts at `dir`. -/
def fault (dir : Path) : Listing → Option WalkError
  | .done => none
  | .broken reason => some (.entry reason)
  | .noMetadata reason => some (.metadata reason)
  | .file _ rest => rest.fault dir
  | .directory name opens inner rest =>
      if opens then (inner.fault (join dir name.bytes)).or (rest.fault dir)
      else some (.readDir (join dir name.bytes))
  | .other _ rest => rest.fault dir

/-- The same for a root that may not open itself. -/
def faultAt (root : Path) (opens : Bool) (listing : Listing) : Option WalkError :=
  if opens then listing.fault root else some (.readDir root)

def entryNames : Listing → List EntryName
  | .done => []
  | .broken _ => []
  | .noMetadata _ => []
  | .file name rest => name :: rest.entryNames
  | .directory name _ _ rest => name :: rest.entryNames
  | .other name rest => name :: rest.entryNames

def Distinct : Listing → Prop
  | .done => True
  | .broken _ => True
  | .noMetadata _ => True
  | .file name rest => name ∉ rest.entryNames ∧ rest.Distinct
  | .directory name _ inner rest =>
      name ∉ rest.entryNames ∧ inner.Distinct ∧ rest.Distinct
  | .other name rest => name ∉ rest.entryNames ∧ rest.Distinct

theorem exists_cons_of_mem_regularFiles {listing : Listing} {names : List EntryName}
    (member : names ∈ listing.regularFiles) :
    ∃ first rest, names = first :: rest ∧ first ∈ listing.entryNames := by
  induction listing generalizing names with
  | done => cases member
  | broken reason => cases member
  | noMetadata reason => cases member
  | file name rest ih =>
      rcases List.mem_cons.mp member with rfl | later
      · exact ⟨name, [], rfl, List.mem_cons_self⟩
      · obtain ⟨first, more, split, listed⟩ := ih later
        exact ⟨first, more, split, List.mem_cons_of_mem _ listed⟩
  | directory name opens inner rest _ ihRest =>
      rcases List.mem_append.mp member with inside | later
      · obtain ⟨below, _, rfl⟩ := List.mem_map.mp inside
        exact ⟨name, below, rfl, List.mem_cons_self⟩
      · obtain ⟨first, more, split, listed⟩ := ihRest later
        exact ⟨first, more, split, List.mem_cons_of_mem _ listed⟩
  | other name rest ih =>
      obtain ⟨first, more, split, listed⟩ := ih member
      exact ⟨first, more, split, List.mem_cons_of_mem _ listed⟩

theorem ne_nil_of_mem_regularFiles {listing : Listing} {names : List EntryName}
    (member : names ∈ listing.regularFiles) : names ≠ [] := by
  obtain ⟨first, rest, rfl, _⟩ := exists_cons_of_mem_regularFiles member
  exact List.cons_ne_nil _ _

theorem Distinct.nodup_regularFiles {listing : Listing} (distinct : listing.Distinct) :
    listing.regularFiles.Nodup := by
  induction listing with
  | done => exact List.nodup_nil
  | broken reason => exact List.nodup_nil
  | noMetadata reason => exact List.nodup_nil
  | file name rest ih =>
      refine List.nodup_cons.mpr ⟨?_, ih distinct.2⟩
      intro member
      obtain ⟨first, more, split, listed⟩ := exists_cons_of_mem_regularFiles member
      cases split
      exact distinct.1 listed
  | directory name opens inner rest ihInner ihRest =>
      obtain ⟨fresh, distinctInner, distinctRest⟩ := distinct
      rw [regularFiles, List.nodup_append']
      refine ⟨(ihInner distinctInner).map (List.cons_injective), ihRest distinctRest, ?_⟩
      intro names inside later
      obtain ⟨below, _, rfl⟩ := List.mem_map.mp inside
      obtain ⟨first, more, split, listed⟩ := exists_cons_of_mem_regularFiles later
      cases split
      exact fresh listed
  | other name rest ih => exact ih distinct.2

end Listing

/-! ### What the walk does -/

theorem collectRecursive_eq (dir : Path) (listing : Listing) (out : List Path) :
    collectRecursive dir listing out =
      match listing.fault dir with
      | some reason => .error reason
      | none => .ok (out ++ listing.regularFiles.map (walk dir)) := by
  induction listing generalizing dir out with
  | done =>
      rw [collectRecursive, Listing.fault, Listing.regularFiles, List.map_nil, List.append_nil]
  | broken reason => rfl
  | noMetadata reason => rfl
  | file name rest ih =>
      rw [collectRecursive, ih, Listing.fault]
      cases rest.fault dir with
      | some reason => rfl
      | none =>
          dsimp only
          rw [Listing.regularFiles, List.map_cons, List.append_assoc, List.singleton_append]
          rfl
  | directory name opens inner rest ihInner ihRest =>
      cases opens with
      | false => rfl
      | true =>
          rw [collectRecursive, if_pos rfl, ihInner, Listing.fault, if_pos rfl]
          cases inner.fault (join dir name.bytes) with
          | some reason => rfl
          | none =>
              dsimp only
              rw [ihRest, Option.none_or]
              cases rest.fault dir with
              | some reason => rfl
              | none =>
                  dsimp only
                  rw [Listing.regularFiles, List.map_append, List.map_map, List.append_assoc]
                  rfl
  | other name rest ih =>
      rw [collectRecursive, ih]
      rfl

theorem collectFiles_eq (root : Path) (opens : Bool) (listing : Listing) :
    collectFiles root opens listing =
      match listing.faultAt root opens with
      | some reason => .error reason
      | none => .ok (listing.regularFiles.map (walk root)) := by
  rw [collectFiles, Listing.faultAt]
  cases opens with
  | false => rfl
  | true => exact collectRecursive_eq root listing []

/-- The walk ends at the first thing that is in its way, be it a root that does not
open or an entry, with the error of that thing.  Without one it finds the regular
files and no others, each once, at any depth and in the order of the listing, and
stripping the root gives back the names that lead to the file, however the root is
written. -/
theorem collectFiles_exact (root : Path) (opens : Bool) (listing : Listing)
    (distinct : listing.Distinct) :
    (∀ reason, collectFiles root opens listing = .error reason ↔
      listing.faultAt root opens = some reason) ∧
    (listing.faultAt root opens = none → ∃ paths, collectFiles root opens listing = .ok paths ∧
      paths = listing.regularFiles.map (walk root) ∧
      (paths.map components).Nodup ∧
      paths.map (fun path => stripPrefix path root) =
        listing.regularFiles.map (fun names => some (below names))) := by
  rw [collectFiles_eq]
  cases blocked : listing.faultAt root opens with
  | some reason =>
      refine ⟨?_, fun impossible => nomatch impossible⟩
      intro other
      dsimp only
      rw [Except.error.injEq, Option.some_inj]
  | none =>
      refine ⟨fun reason => ⟨?_, ?_⟩, fun _ => ⟨_, rfl, rfl, ?_, ?_⟩⟩
      · intro impossible
        cases impossible
      · intro impossible
        cases impossible
      · rw [List.map_map]
        refine distinct.nodup_regularFiles.map_on ?_
        intro first _ second _ same
        rw [Function.comp_apply, Function.comp_apply, components_walk, components_walk] at same
        exact List.map_injective_iff.mpr component_injective (List.append_cancel_left same)
      · rw [List.map_map]
        apply List.map_congr_left
        intro names member
        exact stripPrefix_walk root (Listing.ne_nil_of_mem_regularFiles member)

def nameA : EntryName :=
  { bytes := [0x61], nonempty := by decide, plain := by decide
    notDot := by decide, notDots := by decide }

def nameS : EntryName :=
  { bytes := [0x73], nonempty := by decide, plain := by decide
    notDot := by decide, notDots := by decide }

/-- A file `a`, and a directory `s` with a link `a` and a file `s`. -/
def smallTree : Listing :=
  .file nameA (.directory nameS true (.other nameA (.file nameS .done)) .done)

theorem smallTree_distinct : smallTree.Distinct := by
  refine ⟨by decide, ⟨by decide, ⟨by decide, by decide, trivial⟩, trivial⟩⟩

/-- Below `r/`. -/
theorem collectFiles_exact_smallTree :
    ∃ paths, collectFiles [0x72, 0x2F] true smallTree = .ok paths ∧
      paths = [[0x72, 0x2F, 0x61], [0x72, 0x2F, 0x73, 0x2F, 0x73]] ∧
      (paths.map components).Nodup ∧
      paths.map (fun path => stripPrefix path [0x72, 0x2F]) =
        [some [0x61], some [0x73, 0x2F, 0x73]] :=
  (collectFiles_exact [0x72, 0x2F] true smallTree smallTree_distinct).2 rfl

end Udpix.IoEngine

/-
Unpacking arbitrary bytes.

Every addition and every slice of the decoder is written with its check here,
also those of the manifest.  The positions inside a manifest stay far below
`2 ^ 64`, so these checks never fire; the offset and the size of an entry are
free 64-bit numbers, and their sum with the start of the payload can overflow.
-/

import Udpix.IoEngine.Truncation

namespace Udpix.IoEngine

open Fallible LittleEndian UnixPath Protocol

namespace Packer

/-! ### The decoder with all its checks -/

def readBytesChecked (buf : Bytes) (pos count : Nat) :
    Except (Fault PackError) (Bytes × Nat) :=
  match addUsize true pos count with
  | none => .error .panicked
  | some last =>
      if buf.length < last then .error (.error (.truncatedManifest pos))
      else
        match slice buf pos last with
        | none => .error .panicked
        | some bytes => .ok (bytes, last)

def readUintChecked (width : Nat) (buf : Bytes) (pos : Nat) :
    Except (Fault PackError) (Nat × Nat) := do
  let (bytes, next) ← readBytesChecked buf pos width
  return (fromLeBytes bytes, next)

def readEntryChecked (buf : Bytes) (pos : Nat) : Except (Fault PackError) (FileEntry × Nat) := do
  let (pathLen, pos) ← readUintChecked 2 buf pos
  let (pathBytes, pos) ← readBytesChecked buf pos pathLen
  let path ← (readPath pathBytes).mapError Fault.error
  let (offset, pos) ← readUintChecked 8 buf pos
  let (size, pos) ← readUintChecked 8 buf pos
  let (partIndex, pos) ← readUintChecked 4 buf pos
  let (totalParts, pos) ← readUintChecked 4 buf pos
  return ({ path, offset, size, partIndex, totalParts }, pos)

def readEntriesChecked (buf : Bytes) :
    Nat → Nat → Except (Fault PackError) (List FileEntry × Nat)
  | 0, pos => return ([], pos)
  | count + 1, pos => do
      let (entry, pos) ← readEntryChecked buf pos
      let (entries, pos) ← readEntriesChecked buf count pos
      return (entry :: entries, pos)

def readManifestChecked (buf : Bytes) : Except (Fault PackError) (List FileEntry × Nat) := do
  let (magic, pos) ← readUintChecked 4 buf 0
  let (_, pos) ← readUintChecked 2 buf pos
  let (_, pos) ← readUintChecked 8 buf pos
  let (entryCount, pos) ← readUintChecked 4 buf pos
  if magic ≠ MAGIC then .error (.error (.badMagic magic))
  else readEntriesChecked buf entryCount pos

def unpackEntriesChecked (block : PackBlock) :
    Except (Fault PackError) (List (FileEntry × Bytes)) := do
  let (entries, payloadStart) ← readManifestChecked block.data
  entries.mapM (sliceEntry true block.data payloadStart)

/-- The received bytes are the part of the payload section that the entry names. -/
structure InPayload (data : Bytes) (payloadStart : Nat) (item : FileEntry × Bytes) : Prop where
  last : payloadStart + item.1.offset + item.1.size ≤ data.length
  bytes : item.2 = (data.drop (payloadStart + item.1.offset)).take item.1.size
  size : item.2.length = item.1.size

/-- Unpacking ends in a result or an error, and a result lies in the payload
section entry by entry. -/
def SafeUnpack (data : Bytes) : Prop :=
  match unpackEntriesChecked { id := 0, data := data } with
  | .error .panicked => False
  | .error (.error _) => True
  | .ok received =>
      ∃ payloadStart, readManifest data = .ok (received.map Prod.fst, payloadStart) ∧
        payloadStart ≤ data.length ∧ ∀ item, item ∈ received → InPayload data payloadStart item

/-- No entry of the manifest that is looked at ends at `2 ^ 64` or beyond: an
entry is looked at when all entries before it end inside the block. -/
def OffsetsFit (data : Bytes) : Prop :=
  ∀ before entry after payloadStart,
    readManifest data = .ok (before ++ entry :: after, payloadStart) →
    (∀ earlier, earlier ∈ before →
      payloadStart + earlier.offset + earlier.size ≤ data.length) →
    payloadStart + entry.offset + entry.size < 2 ^ 64

/-! ### The manifest -/

theorem readUint_lt {width : Nat} {buf : Bytes} {pos : Nat} {read : Nat × Nat}
    (succeeds : readUint width buf pos = .ok read) : read.1 < 256 ^ width := by
  unfold readUint readBytes at succeeds
  obtain ⟨⟨bytes, next⟩, fieldRead, rest⟩ := bind_eq_ok succeeds
  cases rest
  split at fieldRead
  · cases fieldRead
  · cases fieldRead
    refine Nat.lt_of_lt_of_le (fromLeBytes_lt _) (Nat.pow_le_pow_right (by decide) ?_)
    exact List.length_take_le _ _

section Manifest

variable {buf : Bytes} {pos : Nat} (held : buf.length < 2 ^ 63)
include held

theorem readBytesChecked_eq {count : Nat} (within : pos ≤ buf.length) (small : count < 2 ^ 16) :
    readBytesChecked buf pos count = (readBytes buf pos count).mapError Fault.error := by
  have fits : pos + count < 2 ^ 64 := by omega
  unfold readBytesChecked addUsize readBytes
  rw [if_pos fits]
  dsimp only
  split
  · rfl
  · rename_i enough
    have inside : pos ≤ pos + count ∧ pos + count ≤ buf.length := by omega
    rw [slice, if_pos inside, Nat.add_sub_cancel_left]
    rfl

theorem readUintChecked_eq {width : Nat} (within : pos ≤ buf.length) (small : width < 2 ^ 16) :
    readUintChecked width buf pos = (readUint width buf pos).mapError Fault.error :=
  mapError_bind (readBytesChecked_eq held within small) (fun _ _ => rfl)

theorem readEntryChecked_eq (within : pos ≤ buf.length) :
    readEntryChecked buf pos = (readEntry buf pos).mapError Fault.error := by
  refine mapError_bind (readUintChecked_eq held within (by decide)) ?_
  rintro ⟨pathLen, afterLen⟩ lenRead
  refine mapError_bind
    (readBytesChecked_eq held (readUint_next lenRead) (readUint_lt lenRead)) ?_
  rintro ⟨pathBytes, afterPath⟩ pathRead
  refine mapError_bind rfl ?_
  intro path _
  refine mapError_bind (readUintChecked_eq held (readBytes_next pathRead) (by decide)) ?_
  rintro ⟨offset, afterOffset⟩ offsetRead
  refine mapError_bind (readUintChecked_eq held (readUint_next offsetRead) (by decide)) ?_
  rintro ⟨size, afterSize⟩ sizeRead
  refine mapError_bind (readUintChecked_eq held (readUint_next sizeRead) (by decide)) ?_
  rintro ⟨partIndex, afterPart⟩ partRead
  exact mapError_bind (readUintChecked_eq held (readUint_next partRead) (by decide))
    (fun _ _ => rfl)

theorem readEntriesChecked_eq (entryCount : Nat) (within : pos ≤ buf.length) :
    readEntriesChecked buf entryCount pos =
      (readEntries buf entryCount pos).mapError Fault.error := by
  induction entryCount generalizing pos with
  | zero => rfl
  | succ entryCount ih =>
      refine mapError_bind (readEntryChecked_eq held within) ?_
      rintro ⟨entry, afterEntry⟩ entryRead
      exact mapError_bind (ih (readEntry_append [] entryRead).2) (fun _ _ => rfl)

theorem readManifestChecked_eq :
    readManifestChecked buf = (readManifest buf).mapError Fault.error := by
  refine mapError_bind (readUintChecked_eq held (Nat.zero_le _) (by decide)) ?_
  rintro ⟨magic, afterMagic⟩ magicRead
  refine mapError_bind (readUintChecked_eq held (readUint_next magicRead) (by decide)) ?_
  rintro ⟨version, afterVersion⟩ versionRead
  refine mapError_bind (readUintChecked_eq held (readUint_next versionRead) (by decide)) ?_
  rintro ⟨blockId, afterId⟩ idRead
  refine mapError_bind (readUintChecked_eq held (readUint_next idRead) (by decide)) ?_
  rintro ⟨entryCount, afterCount⟩ countRead
  dsimp only
  split
  · rfl
  · exact readEntriesChecked_eq held entryCount (readUint_next countRead)

end Manifest

/-! ### The entries -/

theorem sliceEntry_checked (buf : Bytes) (payloadStart : Nat) (entry : FileEntry) :
    sliceEntry true buf payloadStart entry =
      if 2 ^ 64 ≤ payloadStart + entry.offset + entry.size then .error .panicked
      else if buf.length < payloadStart + entry.offset + entry.size then
        .error (.error (.payloadOutOfBounds entry.path
          (payloadStart + entry.offset + entry.size) buf.length))
      else .ok (entry, (buf.drop (payloadStart + entry.offset)).take entry.size) := by
  unfold sliceEntry addUsize
  by_cases first : payloadStart + entry.offset < 2 ^ 64
  · rw [if_pos first]
    dsimp only
    by_cases second : payloadStart + entry.offset + entry.size < 2 ^ 64
    · rw [if_pos second, if_neg (Nat.not_le.mpr second)]
      dsimp only
      split
      · rfl
      · rename_i inside
        rw [slice, if_pos ⟨Nat.le_add_right _ _, Nat.le_of_not_lt inside⟩,
          Nat.add_sub_cancel_left]
    · rw [if_neg second, if_pos (Nat.le_of_not_lt second)]
      rfl
  · have wide : 2 ^ 64 ≤ payloadStart + entry.offset + entry.size := by omega
    rw [if_neg first, if_pos wide]
    rfl

theorem sliceEntry_panics_iff (buf : Bytes) (payloadStart : Nat) (entry : FileEntry) :
    sliceEntry true buf payloadStart entry = .error .panicked ↔
      2 ^ 64 ≤ payloadStart + entry.offset + entry.size := by
  rw [sliceEntry_checked]
  split
  · rename_i wide
    exact iff_of_true rfl wide
  · rename_i fits
    refine iff_of_false ?_ fits
    split
    · exact fun impossible => nomatch impossible
    · exact fun impossible => nomatch impossible

theorem sliceEntry_ok_iff {buf : Bytes} (held : buf.length < 2 ^ 63) (payloadStart : Nat)
    (entry : FileEntry) :
    (∃ item, sliceEntry true buf payloadStart entry = .ok item) ↔
      payloadStart + entry.offset + entry.size ≤ buf.length := by
  rw [sliceEntry_checked]
  constructor
  · rintro ⟨item, sliced⟩
    split at sliced
    · cases sliced
    · split at sliced
      · cases sliced
      · rename_i inside
        exact Nat.le_of_not_lt inside
  · intro inside
    rw [if_neg (by omega), if_neg (Nat.not_lt.mpr inside)]
    exact ⟨_, rfl⟩

/-- What a run over the entries returns: each with its part of the payload. -/
theorem received_of_mapM {buf : Bytes} (held : buf.length < 2 ^ 63) {payloadStart : Nat}
    {entries : List FileEntry} {received : List (FileEntry × Bytes)}
    (sliced : entries.mapM (sliceEntry true buf payloadStart) = .ok received) :
    received.map Prod.fst = entries ∧
      ∀ item, item ∈ received → InPayload buf payloadStart item := by
  have inside : ∀ entry, entry ∈ entries →
      payloadStart + entry.offset + entry.size ≤ buf.length := by
    intro entry member
    exact (sliceEntry_ok_iff held payloadStart entry).mp (mapM_ok_mem sliced entry member)
  have each := mapM_eq_ok (sliceEntry true buf payloadStart)
    (fun entry => (entry, (buf.drop (payloadStart + entry.offset)).take entry.size)) entries
    (by
      intro entry member
      have within := inside entry member
      rw [sliceEntry_checked, if_neg (by omega), if_neg (Nat.not_lt.mpr within)])
  cases sliced.symm.trans each
  refine ⟨?_, ?_⟩
  · rw [List.map_map]
    exact List.map_id entries
  · intro item member
    obtain ⟨entry, inEntries, rfl⟩ := List.mem_map.mp member
    have within := inside entry inEntries
    refine ⟨within, rfl, ?_⟩
    dsimp only
    rw [List.length_take, List.length_drop]
    omega

/-- Unpacking is safe exactly on the blocks whose entries do not wrap around. -/
theorem safeUnpack_iff_offsetsFit (data : Bytes) (held : data.length < 2 ^ 63) :
    SafeUnpack data ↔ OffsetsFit data := by
  unfold SafeUnpack unpackEntriesChecked OffsetsFit
  rw [readManifestChecked_eq held]
  cases manifest : readManifest data with
  | error reason =>
      refine iff_of_true trivial ?_
      intro before entry after payloadStart impossible
      cases impossible
  | ok read =>
      obtain ⟨entries, payloadStart⟩ := read
      have within : payloadStart ≤ data.length := (readManifest_append [] manifest).2
      change (match entries.mapM (sliceEntry true data payloadStart) with
        | .error .panicked => False
        | .error (.error _) => True
        | .ok received => _) ↔ _
      constructor
      · intro safe before entry after start same earlier
        cases same
        by_contra wide
        have panics : (before ++ entry :: after).mapM (sliceEntry true data payloadStart) =
            .error .panicked :=
          mapM_eq_error_iff.mpr ⟨before, entry, after, rfl,
            (fun other member => (sliceEntry_ok_iff held _ other).mpr (earlier other member)),
            (sliceEntry_panics_iff _ _ _).mpr (Nat.le_of_not_lt wide)⟩
        rw [panics] at safe
        exact safe
      · intro fits
        cases sliced : entries.mapM (sliceEntry true data payloadStart) with
        | ok received =>
            obtain ⟨same, inPayload⟩ := received_of_mapM held sliced
            exact ⟨payloadStart, by rw [same], within, inPayload⟩
        | error fault =>
            cases fault with
            | error reason => trivial
            | panicked =>
                obtain ⟨before, entry, after, rfl, succeeded, failed⟩ :=
                  mapM_eq_error_iff.mp sliced
                have wide := (sliceEntry_panics_iff _ _ _).mp failed
                have low := fits before entry after payloadStart rfl
                  (fun other member => (sliceEntry_ok_iff held _ other).mp
                    (succeeded other member))
                exact absurd wide (Nat.not_le.mpr low)

/-- A block of one small file. -/
theorem safeUnpack_small_file :
    SafeUnpack (serialise 0
      [{ path := [0x61], offset := 0, size := 2, partIndex := 0, totalParts := 1 }] [1, 2]) := by
  refine (safeUnpack_iff_offsetsFit _ (by decide)).mpr ?_
  intro before entry after payloadStart manifest _
  have single : readManifest (serialise 0
      [{ path := [0x61], offset := 0, size := 2, partIndex := 0, totalParts := 1 }] [1, 2]) =
      .ok ([{ path := [0x61], offset := 0, size := 2, partIndex := 0, totalParts := 1 }], 45) := by
    decide +kernel
  have read := Except.ok.inj (single.symm.trans manifest)
  cases before with
  | nil =>
      cases read
      decide
  | cons head rest =>
      have counted := congrArg (fun result => result.1.length) read
      simp at counted

/-- An entry whose offset is the largest 64-bit number. -/
theorem safeUnpack_fails_at_max_offset :
    ¬ ∀ data : Bytes, data.length < 2 ^ 63 → SafeUnpack data := by
  intro safe
  have result := safe (serialise 0
    [{ path := [0x61], offset := 2 ^ 64 - 1, size := 1, partIndex := 0, totalParts := 1 }] [])
    (by decide)
  have panics : unpackEntriesChecked (PackBlock.mk 0 (serialise 0
      [{ path := [0x61], offset := 2 ^ 64 - 1, size := 1, partIndex := 0, totalParts := 1 }] [])) =
      .error .panicked := by
    decide +kernel
  rw [SafeUnpack, panics] at result
  exact result

/-! ### The two kinds of build -/

theorem unpackEntriesChecked_eq_unpackEntries (block : PackBlock)
    (held : block.data.length < 2 ^ 63) :
    unpackEntriesChecked block = unpackEntries true block := by
  rw [unpackEntriesChecked, readManifestChecked_eq held, unpackEntries]
  cases readManifest block.data <;> rfl

theorem sliceEntry_of_fits (overflowChecks : Bool) (buf : Bytes) (payloadStart : Nat)
    (entry : FileEntry) (fits : payloadStart + entry.offset + entry.size < 2 ^ 64) :
    sliceEntry overflowChecks buf payloadStart entry =
      sliceEntry true buf payloadStart entry := by
  have first : payloadStart + entry.offset < 2 ^ 64 := by omega
  simp only [sliceEntry, addUsize, first, fits, if_true]

/-- Where no entry wraps around, a build without overflow checks does the same. -/
theorem unpackEntries_of_offsetsFit (overflowChecks : Bool) (data : Bytes)
    (held : data.length < 2 ^ 63) (fits : OffsetsFit data) :
    unpackEntries overflowChecks { id := 0, data := data } =
      unpackEntriesChecked { id := 0, data := data } := by
  rw [unpackEntriesChecked_eq_unpackEntries _ held, unpackEntries, unpackEntries]
  cases manifest : readManifest data with
  | error reason => rfl
  | ok read =>
      obtain ⟨entries, payloadStart⟩ := read
      refine mapM_congr_until ?_
      rintro before entry after rfl succeeded
      refine sliceEntry_of_fits overflowChecks data payloadStart entry ?_
      exact fits before entry after payloadStart manifest (fun other member =>
        (sliceEntry_ok_iff held payloadStart other).mp (succeeded other member))

end Packer

end Udpix.IoEngine

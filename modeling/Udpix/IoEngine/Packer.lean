/-
The bulk packer: files are grouped into blocks, a block is a manifest followed
by the concatenated file bytes.

A block is laid out first and serialised when the list of blocks is complete;
serialising is pure, so the order makes no difference.  Offsets and sizes are
64-bit on the wire and are added as `usize` when a block is read back, where a
build with overflow checks panics and any other build wraps around.
-/

import Udpix.Library.Chunks
import Udpix.Library.UnixPath
import Udpix.Library.Utf8
import Udpix.Protocol.Packet

namespace Udpix.IoEngine

open Chunks LittleEndian UnixPath Protocol

def BLOCK_SIZE : Nat := 16 * 1024 * 1024

theorem BLOCK_SIZE_pos : 0 < BLOCK_SIZE := Nat.succ_pos _

def MAGIC : Nat := 0x55445058

def VERSION : Nat := 1

/-- A call that does not return a value ends in an error or in a panic. -/
inductive Fault (ε : Type) where
  | error (reason : ε)
  | panicked
deriving DecidableEq

structure PackBlock where
  id : Nat
  data : Bytes
deriving DecidableEq

structure FileEntry where
  path : Path
  offset : Nat
  size : Nat
  partIndex : Nat
  totalParts : Nat
deriving DecidableEq

inductive PackError where
  | badMagic (magic : Nat)
  | truncatedManifest (offset : Nat)
  | badPathUtf8 (error : Utf8.Utf8Error)
  | payloadOutOfBounds (path : Path) (last length : Nat)
deriving DecidableEq

def text (message : String) : Bytes := message.toUTF8.toList

namespace Packer

/-! ### Packing -/

structure Layout where
  id : Nat
  entries : List FileEntry
  payload : Bytes
deriving DecidableEq

structure PackState where
  blocks : List Layout
  blockId : Nat
  entries : List FileEntry
  payload : Bytes

def PackState.start : PackState :=
  { blocks := [], blockId := 0, entries := [], payload := [] }

def flush (state : PackState) : PackState :=
  if state.entries.isEmpty then state
  else
    { blocks := state.blocks ++
        [{ id := state.blockId, entries := state.entries, payload := state.payload }]
      blockId := state.blockId + 1
      entries := []
      payload := [] }

def packPart (path : Path) (totalParts : Nat) (state : PackState) (part : Bytes × Nat) :
    PackState :=
  { state with
    blocks := state.blocks ++
      [{ id := state.blockId
         entries :=
          [{ path := path
             offset := 0
             size := part.1.length
             partIndex := part.2 % 2 ^ 32
             totalParts := totalParts }]
         payload := part.1 }]
    blockId := state.blockId + 1 }

/-- Number of parts of a large file, as the 32-bit field holds it. -/
def totalParts (bytes : Bytes) : Nat :=
  (bytes.length + BLOCK_SIZE - 1) / BLOCK_SIZE % 2 ^ 32

def packLarge (state : PackState) (path : Path) (bytes : Bytes) : PackState :=
  (chunks BLOCK_SIZE bytes).zipIdx.foldl (packPart path (totalParts bytes)) (flush state)

def appendFile (state : PackState) (path : Path) (bytes : Bytes) : PackState :=
  { state with
    entries := state.entries ++
      [{ path := path
         offset := state.payload.length
         size := bytes.length
         partIndex := 0
         totalParts := 1 }]
    payload := state.payload ++ bytes }

def packSmall (state : PackState) (path : Path) (bytes : Bytes) : PackState :=
  if BLOCK_SIZE < state.payload.length + bytes.length then
    appendFile (flush state) path bytes
  else appendFile state path bytes

def packFile (state : PackState) (file : Path × Bytes) : PackState :=
  if BLOCK_SIZE < file.2.length then packLarge state file.1 file.2
  else packSmall state file.1 file.2

def packLayouts (files : List (Path × Bytes)) : List Layout :=
  (flush (files.foldl packFile PackState.start)).blocks

/-! ### Serialising -/

def entryBytes (entry : FileEntry) : Bytes :=
  let pathBytes := Utf8.toStringLossy entry.path
  toLeBytes 2 pathBytes.length ++ pathBytes ++ toLeBytes 8 entry.offset ++
    toLeBytes 8 entry.size ++ toLeBytes 4 entry.partIndex ++ toLeBytes 4 entry.totalParts

def headerBytes (blockId entryCount : Nat) : Bytes :=
  toLeBytes 4 MAGIC ++ toLeBytes 2 VERSION ++ toLeBytes 8 blockId ++ toLeBytes 4 entryCount

def serialise (blockId : Nat) (entries : List FileEntry) (payload : Bytes) : Bytes :=
  headerBytes blockId entries.length ++ entries.flatMap entryBytes ++ payload

def Layout.block (layout : Layout) : PackBlock :=
  { id := layout.id, data := serialise layout.id layout.entries layout.payload }

def packFiles (files : List (Path × Bytes)) : List PackBlock :=
  (packLayouts files).map Layout.block

/-! ### Unpacking -/

def readBytes (buf : Bytes) (pos count : Nat) : Except PackError (Bytes × Nat) :=
  if buf.length < pos + count then .error (.truncatedManifest pos)
  else .ok ((buf.drop pos).take count, pos + count)

def readUint (width : Nat) (buf : Bytes) (pos : Nat) : Except PackError (Nat × Nat) := do
  let (bytes, next) ← readBytes buf pos width
  return (fromLeBytes bytes, next)

def readU16 (buf : Bytes) (pos : Nat) : Except PackError (Nat × Nat) := readUint 2 buf pos

def readU32 (buf : Bytes) (pos : Nat) : Except PackError (Nat × Nat) := readUint 4 buf pos

def readU64 (buf : Bytes) (pos : Nat) : Except PackError (Nat × Nat) := readUint 8 buf pos

def readPath (pathBytes : Bytes) : Except PackError Path :=
  match Utf8.firstError pathBytes with
  | some error => .error (.badPathUtf8 error)
  | none => .ok pathBytes

def readEntry (buf : Bytes) (pos : Nat) : Except PackError (FileEntry × Nat) := do
  let (pathLen, pos) ← readU16 buf pos
  let (pathBytes, pos) ← readBytes buf pos pathLen
  let path ← readPath pathBytes
  let (offset, pos) ← readU64 buf pos
  let (size, pos) ← readU64 buf pos
  let (partIndex, pos) ← readU32 buf pos
  let (totalParts, pos) ← readU32 buf pos
  return ({ path, offset, size, partIndex, totalParts }, pos)

def readEntries (buf : Bytes) : Nat → Nat → Except PackError (List FileEntry × Nat)
  | 0, pos => return ([], pos)
  | count + 1, pos => do
      let (entry, pos) ← readEntry buf pos
      let (entries, pos) ← readEntries buf count pos
      return (entry :: entries, pos)

/-- The entries of the manifest and where the payload section starts. -/
def readManifest (buf : Bytes) : Except PackError (List FileEntry × Nat) := do
  let (magic, pos) ← readU32 buf 0
  let (_, pos) ← readU16 buf pos
  let (_, pos) ← readU64 buf pos
  let (entryCount, pos) ← readU32 buf pos
  if magic ≠ MAGIC then .error (.badMagic magic)
  else readEntries buf entryCount pos

/-- Addition of two `usize`; `none` is the panic of a build that checks. -/
def addUsize (overflowChecks : Bool) (left right : Nat) : Option Nat :=
  if left + right < 2 ^ 64 then some (left + right)
  else if overflowChecks then none
  else some ((left + right) % 2 ^ 64)

/-- Slicing a buffer panics when the range is not inside it. -/
def slice (buf : Bytes) (start last : Nat) : Option Bytes :=
  if start ≤ last ∧ last ≤ buf.length then some ((buf.drop start).take (last - start))
  else none

def sliceEntry (overflowChecks : Bool) (buf : Bytes) (payloadStart : Nat)
    (entry : FileEntry) : Except (Fault PackError) (FileEntry × Bytes) :=
  match addUsize overflowChecks payloadStart entry.offset with
  | none => .error .panicked
  | some start =>
      match addUsize overflowChecks start entry.size with
      | none => .error .panicked
      | some last =>
          if buf.length < last then
            .error (.error (.payloadOutOfBounds entry.path last buf.length))
          else
            match slice buf start last with
            | none => .error .panicked
            | some data => .ok (entry, data)

def unpackEntries (overflowChecks : Bool) (block : PackBlock) :
    Except (Fault PackError) (List (FileEntry × Bytes)) :=
  match readManifest block.data with
  | .error reason => .error (.error reason)
  | .ok (entries, payloadStart) =>
      entries.mapM (sliceEntry overflowChecks block.data payloadStart)

end Packer

end Udpix.IoEngine

/-
The receiving side of the engine: blocks are unpacked, split files put together
and complete files handed to the disk thread.

The map of unfinished files is keyed by the components of a path, which is what
equality of paths compares.  Everything the disk and its thread decide is an
argument: directory creation, the state of the two channels and the results of
the writes.  Requests are kept in the order in which they were submitted.
-/

import Udpix.IoEngine.Packer
import Udpix.Library.AssocMap

namespace Udpix.IoEngine

open UnixPath Protocol

structure WriteRequest where
  absPath : Path
  data : Bytes
deriving DecidableEq

structure WriteResult where
  absPath : Path
  succeeded : Bool
deriving DecidableEq

structure PartialFile where
  totalParts : Nat
  parts : AssocMap Nat Bytes
deriving DecidableEq

namespace PartialFile

def isComplete (file : PartialFile) : Bool := file.parts.size = file.totalParts

/-- The parts in order; a missing one contributes nothing. -/
def assemble (file : PartialFile) : Bytes :=
  (List.range file.totalParts).flatMap (fun index => (file.parts.lookup index).getD [])

end PartialFile

inductive WriterError where
  | unpack (reason : PackError)
  | createDirAll (parent : List Component)
  | threadClosed
  | writeFailed (absPath : Path)
  | threadDied
  | recvFailed
deriving DecidableEq

/-- The answers of the file system and of the disk thread.  `ready` lists the
completions that arrive before the reaping after an entry, and whether the
channel is found closed behind them. -/
structure Disk where
  createDirAll : Nat → List Component → Bool
  threadOpen : Nat → Bool
  ready : Nat → List WriteResult × Bool
  recv : Nat → Option WriteResult

structure Disk.Healthy (disk : Disk) : Prop where
  directories : ∀ count dir, disk.createDirAll count dir = true
  opened : ∀ count, disk.threadOpen count = true
  connected : ∀ count, (disk.ready count).2 = false
  written : ∀ count result, result ∈ (disk.ready count).1 → result.succeeded = true
  answered : ∀ count, ∃ result, disk.recv count = some result ∧ result.succeeded = true

structure WriterState where
  partialFiles : AssocMap (List Component) PartialFile
  inFlight : Nat
  totalBytes : Nat
  submitted : List WriteRequest
  results : List WriteResult
  entriesSeen : Nat
  failure : Option WriterError

namespace AsyncWriter

def start : WriterState :=
  { partialFiles := ∅
    inFlight := 0
    totalBytes := 0
    submitted := []
    results := []
    entriesSeen := 0
    failure := none }

/-- The effect of one entry on the unfinished files, and the bytes of the file
it completes. -/
def acceptEntry (partialFiles : AssocMap (List Component) PartialFile)
    (entry : FileEntry) (data : Bytes) :
    AssocMap (List Component) PartialFile × Option Bytes :=
  if entry.totalParts = 1 then (partialFiles, some data)
  else
    let key := components entry.path
    let file := (partialFiles.lookup key).getD
      { totalParts := entry.totalParts, parts := ∅ }
    let updated := { file with parts := file.parts.insert entry.partIndex data }
    if updated.isComplete then (partialFiles.erase key, some updated.assemble)
    else (partialFiles.insert key updated, none)

def send (disk : Disk) (state : WriterState) (request : WriteRequest) : WriterState :=
  if disk.threadOpen state.submitted.length then
    { state with
      submitted := state.submitted ++ [request]
      inFlight := state.inFlight + 1 }
  else { state with failure := some .threadClosed }

def submitWrite (disk : Disk) (state : WriterState) (absPath : Path) (data : Bytes) :
    WriterState :=
  match parent absPath with
  | some dir =>
      if disk.createDirAll state.submitted.length dir then
        send disk state { absPath := absPath, data := data }
      else { state with failure := some (.createDirAll dir) }
  | none => send disk state { absPath := absPath, data := data }

/-- Take completions while writes are in flight and the channel is not empty. -/
def reap (disconnected : Bool) : List WriteResult → WriterState → WriterState
  | [], state =>
      if 0 < state.inFlight ∧ disconnected = true then
        { state with results := [], failure := some .threadDied }
      else { state with results := [] }
  | result :: rest, state =>
      if state.inFlight = 0 then { state with results := result :: rest }
      else if result.succeeded then
        reap disconnected rest { state with inFlight := state.inFlight - 1 }
      else
        { state with results := rest, failure := some (.writeFailed result.absPath) }

def reapReady (disk : Disk) (state : WriterState) : WriterState :=
  if state.failure.isSome then state
  else
    reap (disk.ready state.entriesSeen).2
      (state.results ++ (disk.ready state.entriesSeen).1)
      { state with entriesSeen := state.entriesSeen + 1 }

def processEntry (disk : Disk) (outputDir : Path) (state : WriterState)
    (received : FileEntry × Bytes) : WriterState :=
  if state.failure.isSome then state
  else
    let absPath := join outputDir received.1.path
    let (partialFiles, complete) := acceptEntry state.partialFiles received.1 received.2
    let accepted := { state with partialFiles := partialFiles }
    match complete with
    | some bytes =>
        reapReady disk (submitWrite disk
          { accepted with totalBytes := accepted.totalBytes + bytes.length } absPath bytes)
    | none => reapReady disk accepted

/-- The receiving loop up to the end of the channel or the first failure. -/
def consume (overflowChecks : Bool) (disk : Disk) (outputDir : Path) :
    WriterState → List Bytes → WriterState × Option (Fault WriterError)
  | state, [] => (state, none)
  | state, chunk :: rest =>
      match Packer.unpackEntries overflowChecks { id := 0, data := chunk } with
      | .error (.error reason) => (state, some (.error (.unpack reason)))
      | .error .panicked => (state, some .panicked)
      | .ok entries =>
          let next := entries.foldl (processEntry disk outputDir) state
          match next.failure with
          | some reason => (next, some (.error reason))
          | none => consume overflowChecks disk outputDir next rest

/-- Wait for the writes still in flight. -/
def drain (disk : Disk) : Nat → Nat → List WriteResult → Option WriterError
  | 0, _, _ => none
  | inFlight + 1, received, result :: rest =>
      if result.succeeded then drain disk inFlight received rest
      else some (.writeFailed result.absPath)
  | inFlight + 1, received, [] =>
      match disk.recv received with
      | none => some .recvFailed
      | some result =>
          if result.succeeded then drain disk inFlight (received + 1) []
          else some (.writeFailed result.absPath)

structure WriterRun where
  submitted : List WriteRequest
  outcome : Except (Fault WriterError) Nat

def receiveAndWrite (overflowChecks : Bool) (disk : Disk) (outputDir : Path)
    (chunks : List Bytes) : WriterRun :=
  let (state, failure) := consume overflowChecks disk outputDir start chunks
  { submitted := state.submitted
    outcome :=
      match failure with
      | some reason => .error reason
      | none =>
          match drain disk state.inFlight 0 state.results with
          | some reason => .error (.error reason)
          | none => .ok state.totalBytes }

end AsyncWriter

end Udpix.IoEngine

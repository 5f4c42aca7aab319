/-
The three tasks of a direct-mode receiver.

The receive task hands payloads to the reassembly task over a channel of 512,
and that task hands blocks to the writer over a channel of 16.  Each waits for
room and for input, ends when its source does, and stops when nobody listens any
more; only the receive task ignores that.  Datagrams and heartbeats come from
outside at any time.  Payloads and blocks are kept as logs beside the channels.
-/

import Udpix.Cli.DirectTransfer
import Udpix.Cli.HostileStream
import Udpix.Library.BoundedChannel
import Udpix.Library.Unwinding
import Udpix.Protocol.ReceiveBatches

namespace Udpix.Cli

open Protocol IoEngine AsyncWriter StreamDecoder UnixPath

def RAW_CAPACITY : Nat := 512

def BLOCK_CAPACITY : Nat := 16

/-- Where the receive task is: at its `select!`, inside a batch, waiting to hand
over a payload, or gone after a FIN. -/
inductive ReceiveTask where
  | selecting
  | handling (batch : List (UInt64 × Bytes))
  | sending (payload : Bytes) (batch : List (UInt64 × Bytes))
  | exited

def ReceiveTask.hasExited : ReceiveTask → Bool
  | .exited => true
  | _ => false

/-- Where the reassembly task is.  It ends by returning or by a panic, and both
close its channels. -/
inductive BlockPhase where
  | receiving
  | passing
  | sending (block : Bytes)
  | ended

def BlockPhase.hasEnded : BlockPhase → Bool
  | .ended => true
  | _ => false

inductive WriterPhase where
  | receiving
  | returned (outcome : Except (Fault WriterError) Nat)

def WriterPhase.hasReturned : WriterPhase → Bool
  | .receiving => false
  | .returned _ => true

structure ReceivePipeline where
  arrived : List (UInt64 × Bytes)
  receiver : Receiver
  receiveTask : ReceiveTask
  raw : BoundedChannel RAW_CAPACITY Bytes
  taken : List Bytes
  accum : Bytes
  blockPhase : BlockPhase
  sent : List Bytes
  blocks : BoundedChannel BLOCK_CAPACITY Bytes
  consumed : List Bytes
  writer : WriterState
  writing : WriterPhase

namespace ReceivePipeline

def start : ReceivePipeline :=
  { arrived := []
    receiver := Receiver.new 1 0
    receiveTask := .selecting
    raw := .empty
    taken := []
    accum := []
    blockPhase := .receiving
    sent := []
    blocks := .empty
    consumed := []
    writer := AsyncWriter.start
    writing := .receiving }

/-- The receive task after a datagram: it waits for the channel if there is a
payload, and leaves after a FIN. -/
def afterDatagram (payloads : List Bytes) (answer : Option Bool)
    (batch : List (UInt64 × Bytes)) : ReceiveTask :=
  match payloads with
  | payload :: _ => .sending payload batch
  | [] => if answer = some true then .exited else .handling batch

def receiveStep (state : ReceivePipeline) : Option ReceivePipeline :=
  match state.receiveTask with
  | .selecting => none
  | .exited => none
  | .handling [] => some { state with receiveTask := .selecting }
  | .handling ((nowUs, buf) :: batch) =>
      let (next, answer) := state.receiver.processDatagram nowUs buf
      some
        { state with
          arrived := state.arrived ++ [(nowUs, buf)]
          receiver := next
          receiveTask :=
            afterDatagram (next.dataTx.drop state.receiver.dataTx.length) answer batch }
  | .sending payload batch =>
      if state.blockPhase.hasEnded then some { state with receiveTask := .handling batch }
      else
        (state.raw.send payload).map fun raw =>
          { state with raw := raw, receiveTask := .handling batch }

def blockStep (state : ReceivePipeline) : Option ReceivePipeline :=
  match state.blockPhase with
  | .ended => none
  | .receiving =>
      match state.raw.recv with
      | some (chunk, raw) =>
          some
            { state with
              raw := raw
              taken := state.taken ++ [chunk]
              accum := state.accum ++ chunk
              blockPhase := .passing }
      | none =>
          if state.receiveTask.hasExited then some { state with blockPhase := .ended } else none
  | .passing =>
      match passChecked state.accum with
      | .error _ => some { state with blockPhase := .ended }
      | .ok none => some { state with blockPhase := .receiving }
      | .ok (some (block, rest)) =>
          some { state with accum := rest, blockPhase := .sending block }
  | .sending block =>
      if state.writing.hasReturned then some { state with blockPhase := .ended }
      else
        (state.blocks.send block).map fun blocks =>
          { state with blocks := blocks, sent := state.sent ++ [block], blockPhase := .passing }

def finish (disk : Disk) (writer : WriterState) : Except (Fault WriterError) Nat :=
  match drain disk writer.inFlight 0 writer.results with
  | some reason => .error (.error reason)
  | none => .ok writer.totalBytes

def writeStep (overflowChecks : Bool) (disk : Disk) (outputDir : Path)
    (state : ReceivePipeline) : Option ReceivePipeline :=
  match state.writing with
  | .returned _ => none
  | .receiving =>
      match state.blocks.recv with
      | some (chunk, blocks) =>
          let (next, failure) := consume overflowChecks disk outputDir state.writer [chunk]
          some
            { state with
              blocks := blocks
              consumed := state.consumed ++ [chunk]
              writer := next
              writing := match failure with
                | some reason => .returned (.error reason)
                | none => .receiving }
      | none =>
          if state.blockPhase.hasEnded then
            some { state with writing := .returned (finish disk state.writer) }
          else none

inductive TaskStep (overflowChecks : Bool) (disk : Disk) (outputDir : Path)
    (state : ReceivePipeline) : ReceivePipeline → Prop where
  | receive {next : ReceivePipeline} (taken : state.receiveStep = some next) :
      TaskStep overflowChecks disk outputDir state next
  | block {next : ReceivePipeline} (taken : state.blockStep = some next) :
      TaskStep overflowChecks disk outputDir state next
  | write {next : ReceivePipeline}
      (taken : state.writeStep overflowChecks disk outputDir = some next) :
      TaskStep overflowChecks disk outputDir state next

/-- A step of a task, or what its `select!` gives the receive task. -/
inductive Step (overflowChecks : Bool) (disk : Disk) (outputDir : Path)
    (state : ReceivePipeline) : ReceivePipeline → Prop where
  | task {next : ReceivePipeline} (step : TaskStep overflowChecks disk outputDir state next) :
      Step overflowChecks disk outputDir state next
  | readable (waits : state.receiveTask = .selecting) (batch : List (UInt64 × Bytes)) :
      Step overflowChecks disk outputDir state { state with receiveTask := .handling batch }
  | heartbeat (waits : state.receiveTask = .selecting) (nowUs : UInt64) :
      Step overflowChecks disk outputDir state
        { state with receiver := (state.receiver.sendHeartbeatSack nowUs).1 }

def Reachable (overflowChecks : Bool) (disk : Disk) (outputDir : Path)
    (state : ReceivePipeline) : Prop :=
  Relation.ReflTransGen (Step overflowChecks disk outputDir) start state

/-! ### What one step can do -/

inductive Move (overflowChecks : Bool) (disk : Disk) (outputDir : Path)
    (state : ReceivePipeline) : ReceivePipeline → Prop where
  | batchDone (place : state.receiveTask = .handling []) :
      Move overflowChecks disk outputDir state { state with receiveTask := .selecting }
  | datagram {nowUs : UInt64} {buf : Bytes} {batch : List (UInt64 × Bytes)}
      (place : state.receiveTask = .handling ((nowUs, buf) :: batch)) :
      Move overflowChecks disk outputDir state
        { state with
          arrived := state.arrived ++ [(nowUs, buf)]
          receiver := (state.receiver.processDatagram nowUs buf).1
          receiveTask := afterDatagram
            ((state.receiver.processDatagram nowUs buf).1.dataTx.drop state.receiver.dataTx.length)
            (state.receiver.processDatagram nowUs buf).2 batch }
  | unheardPayload {payload : Bytes} {batch : List (UInt64 × Bytes)}
      (place : state.receiveTask = .sending payload batch)
      (ended : state.blockPhase.hasEnded = true) :
      Move overflowChecks disk outputDir state { state with receiveTask := .handling batch }
  | sendsPayload {payload : Bytes} {batch : List (UInt64 × Bytes)}
      {raw : BoundedChannel RAW_CAPACITY Bytes}
      (place : state.receiveTask = .sending payload batch)
      (listening : state.blockPhase.hasEnded = false) (sent : state.raw.send payload = some raw) :
      Move overflowChecks disk outputDir state
        { state with raw := raw, receiveTask := .handling batch }
  | takes {chunk : Bytes} {raw : BoundedChannel RAW_CAPACITY Bytes}
      (place : state.blockPhase = .receiving) (received : state.raw.recv = some (chunk, raw)) :
      Move overflowChecks disk outputDir state
        { state with
          raw := raw
          taken := state.taken ++ [chunk]
          accum := state.accum ++ chunk
          blockPhase := .passing }
  | sourceGone (place : state.blockPhase = .receiving) (empty : state.raw.recv = none)
      (exited : state.receiveTask.hasExited = true) :
      Move overflowChecks disk outputDir state { state with blockPhase := .ended }
  | panics {fault : ReassemblyFault} (place : state.blockPhase = .passing)
      (failed : passChecked state.accum = .error fault) :
      Move overflowChecks disk outputDir state { state with blockPhase := .ended }
  | incomplete (place : state.blockPhase = .passing)
      (checked : passChecked state.accum = .ok none) :
      Move overflowChecks disk outputDir state { state with blockPhase := .receiving }
  | finds {block rest : Bytes} (place : state.blockPhase = .passing)
      (checked : passChecked state.accum = .ok (some (block, rest))) :
      Move overflowChecks disk outputDir state
        { state with accum := rest, blockPhase := .sending block }
  | unheardBlock {block : Bytes} (place : state.blockPhase = .sending block)
      (returned : state.writing.hasReturned = true) :
      Move overflowChecks disk outputDir state { state with blockPhase := .ended }
  | sendsBlock {block : Bytes} {blocks : BoundedChannel BLOCK_CAPACITY Bytes}
      (place : state.blockPhase = .sending block) (listening : state.writing.hasReturned = false)
      (sent : state.blocks.send block = some blocks) :
      Move overflowChecks disk outputDir state
        { state with blocks := blocks, sent := state.sent ++ [block], blockPhase := .passing }
  | consumes {chunk : Bytes} {blocks : BoundedChannel BLOCK_CAPACITY Bytes}
      (place : state.writing = .receiving)
      (received : state.blocks.recv = some (chunk, blocks))
      (passed : (consume overflowChecks disk outputDir state.writer [chunk]).2 = none) :
      Move overflowChecks disk outputDir state
        { state with
          blocks := blocks
          consumed := state.consumed ++ [chunk]
          writer := (consume overflowChecks disk outputDir state.writer [chunk]).1 }
  | fails {chunk : Bytes} {blocks : BoundedChannel BLOCK_CAPACITY Bytes}
      {reason : Fault WriterError} (place : state.writing = .receiving)
      (received : state.blocks.recv = some (chunk, blocks))
      (failed : (consume overflowChecks disk outputDir state.writer [chunk]).2 = some reason) :
      Move overflowChecks disk outputDir state
        { state with
          blocks := blocks
          consumed := state.consumed ++ [chunk]
          writer := (consume overflowChecks disk outputDir state.writer [chunk]).1
          writing := .returned (.error reason) }
  | finishes (place : state.writing = .receiving) (empty : state.blocks.recv = none)
      (ended : state.blockPhase.hasEnded = true) :
      Move overflowChecks disk outputDir state
        { state with writing := .returned (finish disk state.writer) }

section Moves

variable {overflowChecks : Bool} {disk : Disk} {outputDir : Path} {state next : ReceivePipeline}

theorem move_of_receiveStep (taken : state.receiveStep = some next) :
    Move overflowChecks disk outputDir state next := by
  rw [receiveStep] at taken
  split at taken
  · cases taken
  · cases taken
  · rename_i place
    cases taken
    exact .batchDone place
  · rename_i place
    cases taken
    exact .datagram place
  · rename_i place
    split at taken
    · rename_i ended
      cases taken
      exact .unheardPayload place ended
    · rename_i listening
      cases sent : state.raw.send _ with
      | none =>
          rw [sent] at taken
          cases taken
      | some raw =>
          rw [sent] at taken
          cases taken
          exact .sendsPayload place (Bool.eq_false_iff.mpr listening) sent

theorem move_of_blockStep (taken : state.blockStep = some next) :
    Move overflowChecks disk outputDir state next := by
  rw [blockStep] at taken
  split at taken
  · cases taken
  · rename_i place
    split at taken
    · rename_i received
      cases taken
      exact .takes place received
    · rename_i empty
      split at taken
      · rename_i exited
        cases taken
        exact .sourceGone place empty exited
      · cases taken
  · rename_i place
    split at taken
    · rename_i failed
      cases taken
      exact .panics place failed
    · rename_i checked
      cases taken
      exact .incomplete place checked
    · rename_i checked
      cases taken
      exact .finds place checked
  · rename_i place
    split at taken
    · rename_i returned
      cases taken
      exact .unheardBlock place returned
    · rename_i listening
      cases sent : state.blocks.send _ with
      | none =>
          rw [sent] at taken
          cases taken
      | some blocks =>
          rw [sent] at taken
          cases taken
          exact .sendsBlock place (Bool.eq_false_iff.mpr listening) sent

theorem move_of_writeStep (taken : state.writeStep overflowChecks disk outputDir = some next) :
    Move overflowChecks disk outputDir state next := by
  rw [writeStep] at taken
  split at taken
  · cases taken
  · rename_i place
    split at taken
    · rename_i chunk blocks received
      cases outcome : consume overflowChecks disk outputDir state.writer [chunk] with
      | mk writer failure =>
          rw [outcome] at taken
          cases failure with
          | none =>
              cases taken
              have moved := Move.consumes place received (congrArg Prod.snd outcome)
              rw [outcome] at moved
              rw [← place]
              exact moved
          | some reason =>
              cases taken
              have moved := Move.fails place received (congrArg Prod.snd outcome)
              rw [outcome] at moved
              exact moved
    · rename_i empty
      split at taken
      · rename_i ended
        cases taken
        exact .finishes place empty ended
      · cases taken

theorem move_of_taskStep (step : TaskStep overflowChecks disk outputDir state next) :
    Move overflowChecks disk outputDir state next := by
  cases step with
  | receive taken => exact move_of_receiveStep taken
  | block taken => exact move_of_blockStep taken
  | write taken => exact move_of_writeStep taken

end Moves

end ReceivePipeline

/-! ### The tasks come to rest

A datagram pays for its payload, a payload for its way through the first channel
and then byte by byte for the blocks it completes: a block takes at least eight
bytes out of the accumulator and three more steps. -/

def batchWork (batch : List (UInt64 × Bytes)) : Nat :=
  (batch.map fun item => item.2.length + 4).sum

def ReceiveTask.work : ReceiveTask → Nat
  | .selecting => 0
  | .exited => 0
  | .handling batch => batchWork batch + 1
  | .sending payload batch => payload.length + 3 + (batchWork batch + 1)

def BlockPhase.work : BlockPhase → Nat
  | .ended => 0
  | .receiving => 1
  | .passing => 2
  | .sending _ => 4

def WriterPhase.work : WriterPhase → Nat
  | .receiving => 1
  | .returned _ => 0

theorem length_delivers_le {sessionId : UInt32} {buf payload : Bytes}
    (delivered : delivers sessionId buf = some payload) : payload.length ≤ buf.length := by
  rw [delivers] at delivered
  split at delivered
  · cases delivered
  · split at delivered
    · cases delivered
      rw [Receiver.declaredPayload, List.length_take, List.length_drop]
      omega
    · cases delivered

theorem nextBlock_shrinks {accum block rest : Bytes}
    (found : nextBlock accum = some (block, rest)) : rest.length + 8 ≤ accum.length := by
  rw [nextBlock] at found
  split at found
  · cases found
  · split at found
    · cases found
    · split at found
      · cases found
      · cases found
        rw [List.length_drop]
        omega

theorem nextBlock_of_passChecked {accum : Bytes} {found : Option (Bytes × Bytes)}
    (checked : passChecked accum = .ok found) : nextBlock accum = found := by
  rw [passChecked_eq] at checked
  split at checked
  · cases checked
  · exact Except.ok.inj checked

namespace ReceivePipeline

theorem dataTx_processDatagram_drop (receiver : Receiver) (nowUs : UInt64) (buf : Bytes) :
    (receiver.processDatagram nowUs buf).1.dataTx.drop receiver.dataTx.length =
      (delivers receiver.sessionId buf).toList := by
  rw [(receiver.processDatagram_handled nowUs buf).dataTx, List.drop_left]

/-- The task after a datagram has less to do than the datagram was counted for. -/
theorem work_afterDatagram_lt (sessionId : UInt32) (nowUs : UInt64) (buf : Bytes)
    (answer : Option Bool) (batch : List (UInt64 × Bytes)) :
    (afterDatagram (delivers sessionId buf).toList answer batch).work <
      (ReceiveTask.handling ((nowUs, buf) :: batch)).work := by
  have whole : (ReceiveTask.handling ((nowUs, buf) :: batch)).work =
      buf.length + 4 + batchWork batch + 1 := by
    rw [ReceiveTask.work, batchWork, List.map_cons, List.sum_cons, batchWork]
  rw [whole]
  cases delivered : delivers sessionId buf with
  | none =>
      rw [Option.toList_none, afterDatagram]
      split
      · exact Nat.succ_pos _
      · rw [ReceiveTask.work]
        omega
  | some payload =>
      have short := length_delivers_le delivered
      rw [Option.toList_some, afterDatagram, ReceiveTask.work]
      omega

def rawWork (items : List Bytes) : Nat := (items.map fun item => item.length + 2).sum

def work (state : ReceivePipeline) : Nat :=
  state.receiveTask.work + rawWork state.raw.items + state.accum.length +
    state.blockPhase.work + state.blocks.items.length + state.writing.work

section Termination

variable {overflowChecks : Bool} {disk : Disk} {outputDir : Path} {state next : ReceivePipeline}

theorem Move.work_lt (move : Move overflowChecks disk outputDir state next) :
    next.work < state.work := by
  rw [work, work]
  cases move with
  | batchDone place =>
      rw [place]
      dsimp only [ReceiveTask.work]
      omega
  | @datagram nowUs buf batch place =>
      have less := work_afterDatagram_lt state.receiver.sessionId nowUs buf
        (state.receiver.processDatagram nowUs buf).2 batch
      rw [place]
      dsimp only
      rw [dataTx_processDatagram_drop]
      omega
  | unheardPayload place ended =>
      rw [place]
      dsimp only [ReceiveTask.work]
      omega
  | sendsPayload place listening sent =>
      rw [place, BoundedChannel.items_of_send sent, rawWork, rawWork, List.map_append,
        List.sum_append, List.map_singleton, List.sum_singleton]
      dsimp only [ReceiveTask.work]
      omega
  | takes place received =>
      rw [place, BoundedChannel.items_of_recv received, rawWork, rawWork, List.map_cons,
        List.sum_cons, List.length_append]
      dsimp only [BlockPhase.work]
      omega
  | sourceGone place empty exited =>
      rw [place]
      dsimp only [BlockPhase.work]
      omega
  | panics place failed =>
      rw [place]
      dsimp only [BlockPhase.work]
      omega
  | incomplete place checked =>
      rw [place]
      dsimp only [BlockPhase.work]
      omega
  | finds place checked =>
      have less := nextBlock_shrinks (nextBlock_of_passChecked checked)
      rw [place]
      dsimp only [BlockPhase.work]
      omega
  | unheardBlock place returned =>
      rw [place]
      dsimp only [BlockPhase.work]
      omega
  | sendsBlock place listening sent =>
      rw [place, BoundedChannel.items_of_send sent, List.length_append, List.length_singleton]
      dsimp only [BlockPhase.work]
      omega
  | consumes place received passed =>
      rw [BoundedChannel.items_of_recv received, List.length_cons]
      dsimp only
      omega
  | fails place received failed =>
      rw [place, BoundedChannel.items_of_recv received, List.length_cons]
      dsimp only [WriterPhase.work]
      omega
  | finishes place empty ended =>
      rw [place]
      dsimp only [WriterPhase.work]
      omega

theorem wellFounded_taskStep (overflowChecks : Bool) (disk : Disk) (outputDir : Path) :
    WellFounded (fun next state => TaskStep overflowChecks disk outputDir state next) :=
  Subrelation.wf (fun step => (move_of_taskStep step).work_lt) (measure work).wf

end Termination

end ReceivePipeline

end Udpix.Cli

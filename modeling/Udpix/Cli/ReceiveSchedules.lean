/-
The receiving side of direct mode under every schedule.

What went through a channel is what its reader has taken and what is still
inside.  So the reassembly task is partway through the payloads it took, and the
writer has consumed a beginning of the blocks.  Whatever the order of the steps,
the writer ends as it does on the blocks of all payloads at once.
-/

import Udpix.Cli.ReceivePipeline

namespace Udpix.Cli

open Protocol IoEngine AsyncWriter StreamDecoder UnixPath

def blocksOf (payloads : List Bytes) : List Bytes := (extract nextBlock payloads.flatten).1

theorem blocksOf_isPrefix {some more : List Bytes} (begins : some <+: more) :
    blocksOf some <+: blocksOf more := by
  obtain ⟨rest, rfl⟩ := begins
  rw [blocksOf, blocksOf, List.flatten_append]
  exact steady_nextBlock.extract_prefix (List.prefix_append _ _)

/-- All blocks are found, and no later payload adds one: the receive task is gone,
or a length has stopped the reassembly. -/
structure Settled (exited : Bool) (payloads blocks : List Bytes) : Prop where
  found : blocksOf payloads = blocks
  final : exited = true ∨ ∀ more, (extract nextBlock (payloads.flatten ++ more)).1 = blocks

theorem Settled.grow {payloads blocks : List Bytes} (settled : Settled false payloads blocks)
    (more : List Bytes) (exited : Bool) : Settled exited (payloads ++ more) blocks := by
  rcases settled.final with gone | fixed
  · cases gone
  · refine ⟨?_, .inr ?_⟩
    · rw [blocksOf, List.flatten_append]
      exact fixed more.flatten
    · intro later
      rw [List.flatten_append, List.append_assoc]
      exact fixed (more.flatten ++ later)

/-! ### The receive task -/

theorem receivePackets_eq (receiver : Receiver) (arrived : List (UInt64 × Bytes)) :
    receivePackets receiver arrived = (receiver.recvBatch arrived).1 := by
  induction arrived generalizing receiver with
  | nil => rfl
  | cons item rest ih =>
      obtain ⟨nowUs, buf⟩ := item
      cases stepped : receiver.processDatagram nowUs buf with
      | mk next answer =>
          by_cases fin : answer = some true
          · subst fin
            rw [Receiver.recvBatch_of_fin stepped, receivePackets, stepped]
          · rw [Receiver.recvBatch_of_not_fin stepped fin, ← ih, receivePackets, stepped]
            cases answer with
            | none => rfl
            | some ended =>
                cases ended with
                | false => rfl
                | true => exact absurd rfl fin

/-- What one more datagram adds, while none before it was a FIN. -/
theorem receivePackets_snoc (receiver : Receiver) {arrived : List (UInt64 × Bytes)}
    (openSoFar : ∀ item, item ∈ arrived → endsSession receiver.sessionId item.2 = false)
    (item : UInt64 × Bytes) :
    (receivePackets receiver (arrived ++ [item])).dataTx =
      (receivePackets receiver arrived).dataTx ++ (delivers receiver.sessionId item.2).toList := by
  rw [receivePackets_eq, receivePackets_eq]
  induction arrived generalizing receiver with
  | nil =>
      have alone : (receiver.recvBatch [item]).1 = (receiver.processDatagram item.1 item.2).1 := by
        rw [Receiver.recvBatch]
        split
        · rename_i stepped
          rw [stepped]
        · rename_i stepped
          rw [stepped]
          rfl
      rw [List.nil_append, alone]
      exact (receiver.processDatagram_handled item.1 item.2).dataTx
  | cons first rest ih =>
      obtain ⟨firstOpen, restOpen⟩ := List.forall_mem_cons.mp openSoFar
      have handled := receiver.processDatagram_handled first.1 first.2
      cases stepped : receiver.processDatagram first.1 first.2 with
      | mk next answer =>
          rw [stepped] at handled
          have goesOn : answer ≠ some true := fun fin =>
            Bool.false_ne_true (firstOpen.symm.trans (handled.ends.mp fin))
          have same : next.sessionId = receiver.sessionId := handled.session
          rw [← same] at restOpen
          rw [List.cons_append, Receiver.recvBatch_of_not_fin stepped goesOn,
            Receiver.recvBatch_of_not_fin stepped goesOn, ← same]
          exact ih next restOpen

/-! ### The writer -/

section Writer

variable {overflowChecks : Bool} {disk : Disk} {outputDir : Path}

theorem consume_append_of_none {state next : WriterState} {first : List Bytes}
    (passed : consume overflowChecks disk outputDir state first = (next, none))
    (second : List Bytes) :
    consume overflowChecks disk outputDir state (first ++ second) =
      consume overflowChecks disk outputDir next second := by
  induction first generalizing state with
  | nil =>
      cases passed
      rfl
  | cons chunk rest ih =>
      rw [consume] at passed
      rw [List.cons_append, consume]
      split at passed
      · cases passed
      · cases passed
      · dsimp only at passed ⊢
        split at passed
        · cases passed
        · exact ih passed

theorem consume_append_of_some {state next : WriterState} {first : List Bytes}
    {reason : Fault WriterError}
    (failed : consume overflowChecks disk outputDir state first = (next, some reason))
    (second : List Bytes) :
    consume overflowChecks disk outputDir state (first ++ second) = (next, some reason) := by
  induction first generalizing state with
  | nil => cases failed
  | cons chunk rest ih =>
      rw [consume] at failed
      rw [List.cons_append, consume]
      split at failed
      · exact failed
      · exact failed
      · dsimp only at failed ⊢
        split at failed
        · exact failed
        · exact ih failed

variable {writer : WriterState} {chunks : List Bytes}

theorem receiveAndWrite_of_failed {reason : Fault WriterError}
    (failed : consume overflowChecks disk outputDir AsyncWriter.start chunks =
      (writer, some reason)) {whole : List Bytes} (begins : chunks <+: whole) :
    AsyncWriter.receiveAndWrite overflowChecks disk outputDir whole =
      { submitted := writer.submitted, outcome := .error reason } := by
  obtain ⟨more, rfl⟩ := begins
  rw [AsyncWriter.receiveAndWrite, consume_append_of_some failed more]

theorem receiveAndWrite_of_finished
    (consumed : consume overflowChecks disk outputDir AsyncWriter.start chunks = (writer, none)) :
    AsyncWriter.receiveAndWrite overflowChecks disk outputDir chunks =
      { submitted := writer.submitted, outcome := ReceivePipeline.finish disk writer } := by
  rw [AsyncWriter.receiveAndWrite, consumed]
  rfl

end Writer

/-! ### The invariant -/

def ReceiveTask.inHand : ReceiveTask → List Bytes
  | .sending payload _ => [payload]
  | _ => []

namespace ReceivePipeline

def Reassembles (state : ReceivePipeline) : Prop :=
  match state.blockPhase with
  | .receiving =>
      Partway nextBlock state.taken.flatten state.sent state.accum ∧ nextBlock state.accum = none
  | .passing => Partway nextBlock state.taken.flatten state.sent state.accum
  | .sending block => Partway nextBlock state.taken.flatten (state.sent ++ [block]) state.accum
  | .ended => state.writing.hasReturned = true ∨
      Settled state.receiveTask.hasExited state.receiver.dataTx state.sent

/-- The writer has failed inside the blocks that are certain, or has come to the
end of all of them. -/
def Writes (overflowChecks : Bool) (disk : Disk) (outputDir : Path) (state : ReceivePipeline) :
    Prop :=
  match state.writing with
  | .receiving =>
      consume overflowChecks disk outputDir AsyncWriter.start state.consumed =
        (state.writer, none)
  | .returned outcome =>
      (∃ reason, outcome = .error reason ∧
        consume overflowChecks disk outputDir AsyncWriter.start state.consumed =
          (state.writer, some reason) ∧
        state.consumed <+: blocksOf state.receiver.dataTx) ∨
      (outcome = finish disk state.writer ∧
        consume overflowChecks disk outputDir AsyncWriter.start state.consumed =
          (state.writer, none) ∧
        Settled state.receiveTask.hasExited state.receiver.dataTx state.consumed)

structure Sound (overflowChecks : Bool) (disk : Disk) (outputDir : Path)
    (state : ReceivePipeline) : Prop where
  session : state.receiver.sessionId = 1
  arrived : state.receiver.dataTx = (receivePackets (Receiver.new 1 0) state.arrived).dataTx
  openSoFar : state.receiveTask.hasExited = false →
    ∀ item, item ∈ state.arrived → endsSession 1 item.2 = false
  raw : state.blockPhase.hasEnded = false →
    state.receiver.dataTx = state.taken ++ (state.raw.items ++ state.receiveTask.inHand)
  reassembles : state.Reassembles
  blocks : state.writing.hasReturned = false → state.sent = state.consumed ++ state.blocks.items
  writes : state.Writes overflowChecks disk outputDir

section Steps

variable {overflowChecks : Bool} {disk : Disk} {outputDir : Path} {state next : ReceivePipeline}

theorem sound_start : Sound overflowChecks disk outputDir start where
  session := rfl
  arrived := rfl
  openSoFar := fun _ _ impossible => nomatch impossible
  raw := fun _ => rfl
  reassembles := ⟨partway_nil rfl, rfl⟩
  blocks := fun _ => rfl
  writes := rfl

theorem Sound.receiveTask (sound : Sound overflowChecks disk outputDir state)
    {task : ReceiveTask} {raw : BoundedChannel RAW_CAPACITY Bytes}
    (running : state.receiveTask.hasExited = false) (still : task.hasExited = false)
    (carried : state.blockPhase.hasEnded = false →
      raw.items ++ task.inHand = state.raw.items ++ state.receiveTask.inHand) :
    Sound overflowChecks disk outputDir { state with raw := raw, receiveTask := task } where
  session := sound.session
  arrived := sound.arrived
  openSoFar := fun _ => sound.openSoFar running
  raw := fun listening => by
    rw [sound.raw listening]
    exact congrArg _ (carried listening).symm
  reassembles := by
    have reassembles := sound.reassembles
    rw [Reassembles] at reassembles ⊢
    dsimp only
    rw [still]
    rw [running] at reassembles
    exact reassembles
  blocks := sound.blocks
  writes := by
    have writes := sound.writes
    rw [Writes] at writes ⊢
    dsimp only
    rw [still]
    rw [running] at writes
    exact writes

theorem Sound.grows (sound : Sound overflowChecks disk outputDir state)
    (running : state.receiveTask.hasExited = false) {arrived : List (UInt64 × Bytes)}
    {receiver : Receiver} {task : ReceiveTask} {payloads : List Bytes}
    (session : receiver.sessionId = 1)
    (dataTx : receiver.dataTx = state.receiver.dataTx ++ payloads)
    (handled : receiver.dataTx = (receivePackets (Receiver.new 1 0) arrived).dataTx)
    (openSoFar : task.hasExited = false →
      ∀ item, item ∈ arrived → endsSession 1 item.2 = false)
    (empty : state.receiveTask.inHand = []) (inHand : task.inHand = payloads) :
    Sound overflowChecks disk outputDir
      { state with arrived := arrived, receiver := receiver, receiveTask := task } where
  session := session
  arrived := handled
  openSoFar := openSoFar
  raw := fun listening => by
    have carried := sound.raw listening
    rw [empty, List.append_nil] at carried
    dsimp only
    rw [dataTx, carried, inHand, List.append_assoc]
  reassembles := by
    have reassembles := sound.reassembles
    rw [Reassembles] at reassembles ⊢
    dsimp only
    split
    · rename_i place
      rw [place] at reassembles
      exact reassembles
    · rename_i place
      rw [place] at reassembles
      exact reassembles
    · rename_i place
      rw [place] at reassembles
      exact reassembles
    · rename_i place
      rw [place, running] at reassembles
      rw [dataTx]
      exact reassembles.imp_right fun settled => settled.grow payloads _
  blocks := sound.blocks
  writes := by
    have writes := sound.writes
    rw [Writes] at writes ⊢
    dsimp only
    split
    · rename_i place
      rw [place] at writes
      exact writes
    · rename_i outcome place
      rw [place, running] at writes
      rw [dataTx]
      rcases writes with ⟨reason, isError, failed, begins⟩ | ⟨isFinish, consumed, settled⟩
      · exact .inl ⟨reason, isError, failed,
          begins.trans (blocksOf_isPrefix (List.prefix_append _ _))⟩
      · exact .inr ⟨isFinish, consumed, settled.grow payloads _⟩

theorem delivers_of_endsSession {sessionId : UInt32} {buf : Bytes}
    (ends : endsSession sessionId buf = true) : delivers sessionId buf = none := by
  rw [endsSession] at ends
  rw [delivers]
  split at ends
  · cases ends
  · refine if_neg fun accepted => ?_
    rw [accepted.2.1, Bool.not_true, Bool.and_false, Bool.false_and, Bool.false_and,
      Bool.false_and] at ends
    cases ends

theorem inHand_afterDatagram (payload : Option Bytes) (answer : Option Bool)
    (batch : List (UInt64 × Bytes)) :
    (afterDatagram payload.toList answer batch).inHand = payload.toList := by
  cases payload with
  | none =>
      rw [Option.toList_none, afterDatagram]
      split
      · rfl
      · rfl
  | some payload => rfl

theorem Sound.datagram (sound : Sound overflowChecks disk outputDir state) {nowUs : UInt64}
    {buf : Bytes} {batch : List (UInt64 × Bytes)}
    (place : state.receiveTask = .handling ((nowUs, buf) :: batch)) :
    Sound overflowChecks disk outputDir
      { state with
        arrived := state.arrived ++ [(nowUs, buf)]
        receiver := (state.receiver.processDatagram nowUs buf).1
        receiveTask := afterDatagram
          ((state.receiver.processDatagram nowUs buf).1.dataTx.drop state.receiver.dataTx.length)
          (state.receiver.processDatagram nowUs buf).2 batch } := by
  have running : state.receiveTask.hasExited = false := by
    rw [place]
    rfl
  have handled := state.receiver.processDatagram_handled nowUs buf
  have openSoFar := sound.openSoFar running
  rw [dataTx_processDatagram_drop]
  refine sound.grows running (handled.session.trans sound.session) handled.dataTx ?_ ?_ ?_
    (inHand_afterDatagram _ _ _)
  · rw [handled.dataTx, receivePackets_snoc _ openSoFar, sound.arrived, sound.session]
    rfl
  · intro still item member
    rcases List.mem_append.mp member with earlier | latest
    · exact openSoFar item earlier
    · cases List.mem_singleton.mp latest
      refine Bool.eq_false_iff.mpr fun ends => ?_
      have isFin : (state.receiver.processDatagram nowUs buf).2 = some true := by
        rw [handled.ends, sound.session]
        exact ends
      rw [sound.session, delivers_of_endsSession ends, Option.toList_none, afterDatagram,
        if_pos isFin] at still
      cases still
  · rw [place]
    rfl

theorem Sound.heartbeat (sound : Sound overflowChecks disk outputDir state) (nowUs : UInt64) :
    Sound overflowChecks disk outputDir
      { state with receiver := (state.receiver.sendHeartbeatSack nowUs).1 } :=
  ⟨sound.session, sound.arrived, sound.openSoFar, sound.raw, sound.reassembles, sound.blocks,
    sound.writes⟩

theorem Sound.blockPhase (sound : Sound overflowChecks disk outputDir state)
    {raw : BoundedChannel RAW_CAPACITY Bytes} {taken : List Bytes} {accum : Bytes}
    {phase : BlockPhase} {blocks : BoundedChannel BLOCK_CAPACITY Bytes} {sent : List Bytes}
    (running : state.blockPhase.hasEnded = false)
    (carried : taken ++ raw.items = state.taken ++ state.raw.items)
    (reassembles : Reassembles
      { state with
        raw := raw
        taken := taken
        accum := accum
        blockPhase := phase
        sent := sent
        blocks := blocks })
    (queued : state.writing.hasReturned = false → sent = state.consumed ++ blocks.items) :
    Sound overflowChecks disk outputDir
      { state with
        raw := raw
        taken := taken
        accum := accum
        blockPhase := phase
        sent := sent
        blocks := blocks } where
  session := sound.session
  arrived := sound.arrived
  openSoFar := sound.openSoFar
  raw := fun _ => by
    dsimp only
    rw [sound.raw running, ← List.append_assoc, ← List.append_assoc, carried]
  reassembles := reassembles
  blocks := queued
  writes := sound.writes

theorem Sound.takes (sound : Sound overflowChecks disk outputDir state) {chunk : Bytes}
    {raw : BoundedChannel RAW_CAPACITY Bytes} (place : state.blockPhase = .receiving)
    (received : state.raw.recv = some (chunk, raw)) :
    Sound overflowChecks disk outputDir
      { state with
        raw := raw
        taken := state.taken ++ [chunk]
        accum := state.accum ++ chunk
        blockPhase := .passing } := by
  have partway := sound.reassembles
  rw [Reassembles, place] at partway
  refine sound.blockPhase (by rw [place]; rfl) ?_ ?_ sound.blocks
  · rw [BoundedChannel.items_of_recv received, List.append_assoc, List.singleton_append]
  · rw [Reassembles]
    dsimp only
    rw [List.flatten_append, List.flatten_singleton]
    exact partway.1.more steady_nextBlock partway.2 chunk

/-- Where the reassembly waits, the blocks of the payloads it took are sent. -/
theorem Sound.sourceGone (sound : Sound overflowChecks disk outputDir state)
    (place : state.blockPhase = .receiving) (empty : state.raw.recv = none)
    (exited : state.receiveTask.hasExited = true) :
    Sound overflowChecks disk outputDir { state with blockPhase := .ended } := by
  have partway := sound.reassembles
  have carried := sound.raw (by rw [place]; rfl)
  rw [Reassembles, place] at partway
  have nothing : state.receiveTask.inHand = [] := by
    cases task : state.receiveTask with
    | exited => rfl
    | selecting => rfl
    | handling batch => rfl
    | sending payload batch =>
        rw [task] at exited
        cases exited
  rw [BoundedChannel.items_of_recv_eq_none empty, nothing, List.append_nil, List.append_nil]
    at carried
  refine sound.blockPhase (by rw [place]; rfl) rfl ?_ sound.blocks
  rw [Reassembles]
  refine .inr ⟨?_, .inl exited⟩
  rw [carried, blocksOf]
  exact partway.1.done_eq partway.2

theorem Sound.panics (sound : Sound overflowChecks disk outputDir state)
    {fault : ReassemblyFault} (place : state.blockPhase = .passing)
    (failed : passChecked state.accum = .error fault) :
    Sound overflowChecks disk outputDir { state with blockPhase := .ended } := by
  have partway := sound.reassembles
  have carried := sound.raw (by rw [place]; rfl)
  rw [Reassembles, place] at partway
  have overflows : lengthOverflows state.accum = true := by
    rw [passChecked_eq] at failed
    split at failed
    · rename_i overflows
      exact overflows
    · cases failed
  -- a length that overflows decodes to nothing, whatever follows
  have fixed : ∀ more, (extract nextBlock (state.taken.flatten ++ more)).1 = state.sent := by
    intro more
    have later := partway.more steady_nextBlock (nextBlock_of_lengthOverflows overflows) more
    exact later.done_eq (nextBlock_of_overflow state.accum more overflows)
  refine sound.blockPhase (by rw [place]; rfl) rfl ?_ sound.blocks
  rw [Reassembles]
  refine .inr ⟨?_, .inr ?_⟩
  · rw [carried, blocksOf, List.flatten_append]
    exact fixed _
  · intro more
    dsimp only
    rw [carried, List.flatten_append, List.append_assoc]
    exact fixed _

/-- The blocks sent so far are certain. -/
theorem Sound.sent_isPrefix (sound : Sound overflowChecks disk outputDir state)
    (listening : state.writing.hasReturned = false) :
    state.sent <+: blocksOf state.receiver.dataTx := by
  have reassembles := sound.reassembles
  have within : state.blockPhase.hasEnded = false →
      blocksOf state.taken <+: blocksOf state.receiver.dataTx := by
    intro running
    rw [sound.raw running]
    exact blocksOf_isPrefix (List.prefix_append _ _)
  rw [Reassembles] at reassembles
  split at reassembles
  · rename_i place
    exact reassembles.1.done_isPrefix.trans (within (by rw [place]; rfl))
  · rename_i place
    exact reassembles.done_isPrefix.trans (within (by rw [place]; rfl))
  · rename_i place
    exact (List.prefix_append _ _).trans
      (reassembles.done_isPrefix.trans (within (by rw [place]; rfl)))
  · rcases reassembles with returned | settled
    · rw [listening] at returned
      cases returned
    · exact ⟨[], by rw [List.append_nil, settled.found]⟩

theorem Sound.writing (sound : Sound overflowChecks disk outputDir state)
    {blocks : BoundedChannel BLOCK_CAPACITY Bytes} {consumed : List Bytes} {writer : WriterState}
    {phase : WriterPhase} (listening : state.writing.hasReturned = false)
    (carried : consumed ++ blocks.items = state.consumed ++ state.blocks.items)
    (writes : Writes overflowChecks disk outputDir
      { state with
        blocks := blocks
        consumed := consumed
        writer := writer
        writing := phase }) :
    Sound overflowChecks disk outputDir
      { state with
        blocks := blocks
        consumed := consumed
        writer := writer
        writing := phase } where
  session := sound.session
  arrived := sound.arrived
  openSoFar := sound.openSoFar
  raw := sound.raw
  reassembles := by
    have reassembles := sound.reassembles
    rw [Reassembles] at reassembles ⊢
    dsimp only
    split
    · rename_i place
      rw [place] at reassembles
      exact reassembles
    · rename_i place
      rw [place] at reassembles
      exact reassembles
    · rename_i place
      rw [place] at reassembles
      exact reassembles
    · rename_i place
      rw [place, listening] at reassembles
      exact .inr (reassembles.resolve_left Bool.false_ne_true)
  blocks := fun _ => (sound.blocks listening).trans carried.symm
  writes := writes

theorem Sound.consume_next (sound : Sound overflowChecks disk outputDir state)
    (place : state.writing = .receiving) (chunk : Bytes) :
    consume overflowChecks disk outputDir AsyncWriter.start (state.consumed ++ [chunk]) =
      consume overflowChecks disk outputDir state.writer [chunk] := by
  have writes := sound.writes
  rw [Writes, place] at writes
  exact consume_append_of_none writes [chunk]

theorem Sound.fails (sound : Sound overflowChecks disk outputDir state) {chunk : Bytes}
    {blocks : BoundedChannel BLOCK_CAPACITY Bytes} {reason : Fault WriterError}
    (place : state.writing = .receiving) (received : state.blocks.recv = some (chunk, blocks))
    (failed : (consume overflowChecks disk outputDir state.writer [chunk]).2 = some reason) :
    Sound overflowChecks disk outputDir
      { state with
        blocks := blocks
        consumed := state.consumed ++ [chunk]
        writer := (consume overflowChecks disk outputDir state.writer [chunk]).1
        writing := .returned (.error reason) } := by
  have listening : state.writing.hasReturned = false := by
    rw [place]
    rfl
  have carried : state.consumed ++ [chunk] ++ blocks.items =
      state.consumed ++ state.blocks.items := by
    rw [BoundedChannel.items_of_recv received, List.append_assoc, List.singleton_append]
  refine sound.writing listening carried ?_
  rw [Writes]
  refine .inl ⟨reason, rfl, ?_, ?_⟩
  · dsimp only
    rw [sound.consume_next place, ← failed]
  · refine List.IsPrefix.trans ?_ (sound.sent_isPrefix listening)
    rw [sound.blocks listening, ← carried]
    exact List.prefix_append _ _

theorem Sound.finishes (sound : Sound overflowChecks disk outputDir state)
    (place : state.writing = .receiving) (empty : state.blocks.recv = none)
    (ended : state.blockPhase.hasEnded = true) :
    Sound overflowChecks disk outputDir
      { state with writing := .returned (finish disk state.writer) } := by
  have listening : state.writing.hasReturned = false := by
    rw [place]
    rfl
  have all := sound.blocks listening
  rw [BoundedChannel.items_of_recv_eq_none empty, List.append_nil] at all
  have reassembles := sound.reassembles
  have writes := sound.writes
  rw [Writes, place] at writes
  refine sound.writing listening rfl ?_
  rw [Writes]
  refine .inr ⟨rfl, writes, ?_⟩
  cases phase : state.blockPhase with
  | ended =>
      rw [Reassembles, phase, listening, all] at reassembles
      exact reassembles.resolve_left Bool.false_ne_true
  | receiving =>
      rw [phase] at ended
      cases ended
  | passing =>
      rw [phase] at ended
      cases ended
  | sending block =>
      rw [phase] at ended
      cases ended

theorem Sound.move (sound : Sound overflowChecks disk outputDir state)
    (move : Move overflowChecks disk outputDir state next) :
    Sound overflowChecks disk outputDir next := by
  cases move with
  | batchDone place =>
      refine sound.receiveTask (by rw [place]; rfl) rfl ?_
      rw [place]
      exact fun _ => rfl
  | datagram place => exact sound.datagram place
  | unheardPayload place ended =>
      refine sound.receiveTask (by rw [place]; rfl) rfl ?_
      intro listening
      rw [ended] at listening
      cases listening
  | sendsPayload place listening sent =>
      refine sound.receiveTask (by rw [place]; rfl) rfl ?_
      intro _
      rw [BoundedChannel.items_of_send sent, place]
      exact List.append_nil _
  | takes place received => exact sound.takes place received
  | sourceGone place empty exited => exact sound.sourceGone place empty exited
  | panics place failed => exact sound.panics place failed
  | incomplete place checked =>
      have partway := sound.reassembles
      rw [Reassembles, place] at partway
      refine sound.blockPhase (by rw [place]; rfl) rfl ?_ sound.blocks
      exact ⟨partway, nextBlock_of_passChecked checked⟩
  | finds place checked =>
      have partway := sound.reassembles
      rw [Reassembles, place] at partway
      refine sound.blockPhase (by rw [place]; rfl) rfl ?_ sound.blocks
      exact partway.advance steady_nextBlock (nextBlock_of_passChecked checked)
  | unheardBlock place returned =>
      refine sound.blockPhase (by rw [place]; rfl) rfl ?_ sound.blocks
      exact .inl returned
  | sendsBlock place listening sent =>
      have partway := sound.reassembles
      rw [Reassembles, place] at partway
      refine sound.blockPhase (by rw [place]; rfl) rfl partway ?_
      intro _
      rw [BoundedChannel.items_of_send sent, sound.blocks listening, List.append_assoc]
  | consumes place received passed =>
      refine sound.writing (by rw [place]; rfl) ?_ ?_
      · rw [BoundedChannel.items_of_recv received, List.append_assoc, List.singleton_append]
      · rw [Writes]
        dsimp only
        rw [place]
        dsimp only
        rw [sound.consume_next place, ← passed]
  | fails place received failed => exact sound.fails place received failed
  | finishes place empty ended => exact sound.finishes place empty ended

theorem Sound.step (sound : Sound overflowChecks disk outputDir state)
    (step : Step overflowChecks disk outputDir state next) :
    Sound overflowChecks disk outputDir next := by
  cases step with
  | task step => exact sound.move (move_of_taskStep step)
  | readable waits batch =>
      refine sound.receiveTask (by rw [waits]; rfl) rfl ?_
      rw [waits]
      exact fun _ => rfl
  | heartbeat waits nowUs => exact sound.heartbeat nowUs

theorem sound_of_reachable (reachable : Reachable overflowChecks disk outputDir state) :
    Sound overflowChecks disk outputDir state := by
  induction reachable with
  | refl => exact sound_start
  | tail _ step sound => exact sound.step step

/-! ### Where the tasks rest -/

/-- A writer that waits has taken everything, and the reassembly task may still
send. -/
theorem writer_waits (place : state.writing = .receiving)
    (waits : state.writeStep overflowChecks disk outputDir = none) :
    state.blocks.items = [] ∧ state.blockPhase.hasEnded = false := by
  rw [writeStep, place] at waits
  dsimp only at waits
  split at waits
  · cases waits
  · rename_i empty
    split at waits
    · cases waits
    · rename_i running
      exact ⟨BoundedChannel.items_of_recv_eq_none empty, Bool.eq_false_iff.mpr running⟩

theorem not_waiting_of_empty {capacity : Nat} {channel : BoundedChannel capacity Bytes}
    (positive : 0 < capacity) (empty : channel.items = []) (item : Bytes) :
    channel.send item ≠ none := by
  intro waits
  have full := BoundedChannel.full_of_send_eq_none waits
  rw [empty, List.length_nil] at full
  omega

/-- A reassembly task that waits, with room behind it, has taken everything. -/
theorem block_waits (running : state.blockPhase.hasEnded = false)
    (empty : state.blocks.items = []) (waits : state.blockStep = none) :
    state.blockPhase = .receiving ∧ state.raw.items = [] ∧
      state.receiveTask.hasExited = false := by
  rw [blockStep] at waits
  split at waits
  · rename_i ended
    rw [ended] at running
    cases running
  · rename_i place
    split at waits
    · cases waits
    · rename_i nothing
      split at waits
      · cases waits
      · rename_i present
        exact ⟨place, BoundedChannel.items_of_recv_eq_none nothing, Bool.eq_false_iff.mpr present⟩
  · split at waits
    · cases waits
    · cases waits
    · cases waits
  · split at waits
    · cases waits
    · exact absurd (Option.map_eq_none_iff.mp waits)
        (not_waiting_of_empty (by decide) empty _)

theorem receive_waits (running : state.blockPhase.hasEnded = false)
    (empty : state.raw.items = []) (present : state.receiveTask.hasExited = false)
    (waits : state.receiveStep = none) : state.receiveTask = .selecting := by
  rw [receiveStep] at waits
  split at waits
  · assumption
  · rename_i exited
    rw [exited] at present
    cases present
  · cases waits
  · cases waits
  · rw [running, if_neg Bool.false_ne_true] at waits
    exact absurd (Option.map_eq_none_iff.mp waits) (not_waiting_of_empty (by decide) empty _)

/-- At rest the receive task waits for its socket or is gone: a full channel means
that the tasks behind it can still move. -/
theorem receive_rests (stuck : ∀ next, ¬ TaskStep overflowChecks disk outputDir state next) :
    state.receiveTask = .selecting ∨ state.receiveTask.hasExited = true := by
  have receiveWaits : state.receiveStep = none :=
    Option.eq_none_iff_forall_ne_some.mpr fun next taken => stuck next (.receive taken)
  have blockWaits : state.blockStep = none :=
    Option.eq_none_iff_forall_ne_some.mpr fun next taken => stuck next (.block taken)
  have writeWaits : state.writeStep overflowChecks disk outputDir = none :=
    Option.eq_none_iff_forall_ne_some.mpr fun next taken => stuck next (.write taken)
  have drained : state.blockPhase.hasEnded = false → state.raw.items = [] := by
    intro running
    cases place : state.writing with
    | receiving =>
        exact (block_waits running (writer_waits place writeWaits).1 blockWaits).2.1
    | returned outcome =>
        rw [blockStep, place] at blockWaits
        split at blockWaits
        · rename_i ended
          rw [ended] at running
          cases running
        · split at blockWaits
          · cases blockWaits
          · rename_i empty
            exact BoundedChannel.items_of_recv_eq_none empty
        · split at blockWaits
          · cases blockWaits
          · cases blockWaits
          · cases blockWaits
        · cases blockWaits
  cases exited : state.receiveTask.hasExited with
  | true => exact .inr rfl
  | false =>
      cases ended : state.blockPhase.hasEnded with
      | false => exact .inl (receive_waits ended (drained ended) exited receiveWaits)
      | true =>
          rw [receiveStep] at receiveWaits
          split at receiveWaits
          · exact .inl (by assumption)
          · rename_i gone
            rw [gone] at exited
            cases exited
          · cases receiveWaits
          · cases receiveWaits
          · rw [ended, if_pos rfl] at receiveWaits
            cases receiveWaits

theorem Sound.rests (sound : Sound overflowChecks disk outputDir state)
    (stuck : ∀ next, ¬ TaskStep overflowChecks disk outputDir state next) :
    (∃ outcome, state.writing = .returned outcome) ∨
      (state.receiveTask = .selecting ∧ state.consumed = blocksOf state.receiver.dataTx) := by
  have receiveWaits : state.receiveStep = none :=
    Option.eq_none_iff_forall_ne_some.mpr fun next taken => stuck next (.receive taken)
  have blockWaits : state.blockStep = none :=
    Option.eq_none_iff_forall_ne_some.mpr fun next taken => stuck next (.block taken)
  have writeWaits : state.writeStep overflowChecks disk outputDir = none :=
    Option.eq_none_iff_forall_ne_some.mpr fun next taken => stuck next (.write taken)
  cases place : state.writing with
  | returned outcome => exact .inl ⟨outcome, rfl⟩
  | receiving =>
      obtain ⟨noBlocks, running⟩ := writer_waits place writeWaits
      obtain ⟨receiving, noPayloads, present⟩ := block_waits running noBlocks blockWaits
      have selecting := receive_waits running noPayloads present receiveWaits
      have sent := sound.blocks (by rw [place]; rfl)
      have carried := sound.raw running
      have partway := sound.reassembles
      have nothing : ReceiveTask.selecting.inHand = [] := rfl
      rw [noBlocks, List.append_nil] at sent
      rw [noPayloads, selecting, nothing, List.append_nil, List.append_nil] at carried
      rw [Reassembles, receiving] at partway
      refine .inr ⟨selecting, ?_⟩
      rw [carried, blocksOf, partway.1.done_eq partway.2, sent]

theorem Sound.result_eq (sound : Sound overflowChecks disk outputDir state)
    {outcome : Except (Fault WriterError) Nat} (returned : state.writing = .returned outcome) :
    directReceive overflowChecks disk outputDir state.arrived =
      { submitted := state.writer.submitted, outcome := outcome } := by
  have writes := sound.writes
  rw [Writes, returned] at writes
  rw [directReceive, ← sound.arrived, (Reassembler.run_spec _).1]
  rcases writes with ⟨reason, rfl, failed, begins⟩ | ⟨rfl, consumed, settled⟩
  · exact receiveAndWrite_of_failed failed begins
  · have found : (extract nextBlock state.receiver.dataTx.flatten).1 = state.consumed :=
      settled.found
    rw [found]
    exact receiveAndWrite_of_finished consumed

/-! ### A batch is handled to its end -/

/-- What the receive task has left of its batch, and whether a FIN made it leave
the rest. -/
def InBatch (batch : List (UInt64 × Bytes)) (state : ReceivePipeline) : Prop :=
  match state.receiveTask with
  | .selecting => state.arrived = batch
  | .handling left => state.arrived ++ left = batch
  | .sending _ left => state.arrived ++ left = batch
  | .exited => state.arrived <+: batch ∧ ∃ item, item ∈ state.arrived ∧ endsSession 1 item.2 = true

theorem InBatch.move {batch : List (UInt64 × Bytes)} (inBatch : InBatch batch state)
    (sound : Sound overflowChecks disk outputDir state)
    (move : Move overflowChecks disk outputDir state next) : InBatch batch next := by
  cases move with
  | batchDone place =>
      rw [InBatch, place] at inBatch
      exact (List.append_nil _).symm.trans inBatch
  | @datagram nowUs buf left place =>
      rw [InBatch, place] at inBatch
      have joined : state.arrived ++ [(nowUs, buf)] ++ left = batch := by
        rw [List.append_assoc]
        exact inBatch
      have handled := state.receiver.processDatagram_handled nowUs buf
      rw [InBatch]
      dsimp only
      rw [dataTx_processDatagram_drop]
      cases delivers state.receiver.sessionId buf with
      | some payload => exact joined
      | none =>
          rw [Option.toList_none, afterDatagram]
          by_cases fin : (state.receiver.processDatagram nowUs buf).2 = some true
          · rw [if_pos fin]
            refine ⟨⟨left, joined⟩, (nowUs, buf), ?_, ?_⟩
            · exact List.mem_append_right _ List.mem_cons_self
            · rw [← sound.session]
              exact handled.ends.mp fin
          · rw [if_neg fin]
            exact joined
  | unheardPayload place ended =>
      rw [InBatch, place] at inBatch
      exact inBatch
  | sendsPayload place listening sent =>
      rw [InBatch, place] at inBatch
      exact inBatch
  | takes place received => exact inBatch
  | sourceGone place empty exited => exact inBatch
  | panics place failed => exact inBatch
  | incomplete place checked => exact inBatch
  | finds place checked => exact inBatch
  | unheardBlock place returned => exact inBatch
  | sendsBlock place listening sent => exact inBatch
  | consumes place received passed => exact inBatch
  | fails place received failed => exact inBatch
  | finishes place empty ended => exact inBatch

/-- Any batch can be received: the tasks rest when all of it is handled, or a
beginning of it with a FIN. -/
theorem exists_received (overflowChecks : Bool) (disk : Disk) (outputDir : Path)
    (batch : List (UInt64 × Bytes)) :
    ∃ final, Reachable overflowChecks disk outputDir final ∧
      (∀ next, ¬ TaskStep overflowChecks disk outputDir final next) ∧
      (final.arrived = batch ∨
        final.arrived <+: batch ∧
          ∃ item, item ∈ final.arrived ∧ endsSession 1 item.2 = true) := by
  have first : Reachable overflowChecks disk outputDir
      { start with receiveTask := .handling batch } := .single (.readable rfl batch)
  obtain ⟨final, steps, stuck⟩ := Progress.exists_final
    (wellFounded_taskStep overflowChecks disk outputDir)
    { start with receiveTask := .handling batch }
  have kept : Reachable overflowChecks disk outputDir final ∧ InBatch batch final := by
    clear stuck
    induction steps with
    | refl => exact ⟨first, rfl⟩
    | tail _ step ih =>
        exact ⟨ih.1.tail (.task step), ih.2.move (sound_of_reachable ih.1) (move_of_taskStep step)⟩
  obtain ⟨reachable, inBatch⟩ := kept
  refine ⟨final, reachable, stuck, ?_⟩
  rw [InBatch] at inBatch
  rcases receive_rests stuck with selecting | exited
  · rw [selecting] at inBatch
    exact .inl inBatch
  · split at inBatch
    · exact .inl inBatch
    · rename_i place
      rw [place] at exited
      cases exited
    · rename_i place
      rw [place] at exited
      cases exited
    · exact .inr inBatch

end Steps

/-! ### The counters of the session -/

/-- What arrives stays within the 64-bit counters, and so does the clock. -/
structure Countable (arrivals : List (UInt64 × Bytes)) : Prop where
  few : arrivals.length < 2 ^ 64
  each : ∀ item, item ∈ arrivals → ClockFits item.1 ∧ NumberFits 1 item.2

theorem Countable.of_append {before after : List (UInt64 × Bytes)}
    (countable : Countable (before ++ after)) : Countable before where
  few := by
    have few := countable.few
    rw [List.length_append] at few
    omega
  each := fun item member => countable.each item (List.mem_append_left _ member)

/-- The step of the receive task that counts a datagram. -/
theorem Countable.processDatagram {arrivals : List (UInt64 × Bytes)} {receiver : Receiver}
    {nowUs : UInt64} {buf : Bytes} (countable : Countable (arrivals ++ [(nowUs, buf)]))
    (session : receiver.sessionId = 1) (inRange : receiver.InRange 0 arrivals.length) :
    receiver.processDatagramChecked nowUs buf = some (receiver.processDatagram nowUs buf) ∧
      Receiver.InRange 0 (arrivals ++ [(nowUs, buf)]).length
        (receiver.processDatagram nowUs buf).1 := by
  have few := countable.few
  obtain ⟨clock, number⟩ :=
    countable.each (nowUs, buf) (List.mem_append_right _ List.mem_cons_self)
  rw [← session] at number
  rw [List.length_append, List.length_singleton] at few ⊢
  exact inRange.processDatagram few clock number

theorem inRange_of_reachable {overflowChecks : Bool} {disk : Disk} {outputDir : Path}
    {state : ReceivePipeline} (reachable : Reachable overflowChecks disk outputDir state)
    (countable : Countable state.arrived) :
    state.receiver.InRange 0 state.arrived.length := by
  induction reachable with
  | refl => exact Receiver.inRange_new 1 (Nat.two_pow_pos 64)
  | @tail before after reached step ih =>
      cases step with
      | readable waits batch => exact ih countable
      | heartbeat waits nowUs => exact (ih countable).sendHeartbeatSack nowUs
      | task step =>
          cases move_of_taskStep step with
          | batchDone place => exact ih countable
          | datagram place =>
              exact (countable.processDatagram (sound_of_reachable reached).session
                (ih countable.of_append)).2
          | unheardPayload place ended => exact ih countable
          | sendsPayload place listening sent => exact ih countable
          | takes place received => exact ih countable
          | sourceGone place empty exited => exact ih countable
          | panics place failed => exact ih countable
          | incomplete place checked => exact ih countable
          | finds place checked => exact ih countable
          | unheardBlock place returned => exact ih countable
          | sendsBlock place listening sent => exact ih countable
          | consumes place received passed => exact ih countable
          | fails place received failed => exact ih countable
          | finishes place empty ended => exact ih countable

/-- Whatever arrives and in whatever order the three tasks run, they come to rest
without further datagrams.  At rest the writer has returned, or the receive task
waits for its socket and the writer has every block that has arrived.  Once it
has returned, its result and its writes are those of the datagrams handled one
after the other.  As long as the arrivals stay within the counters, no addition
of the receive task overflows. -/
theorem every_schedule_receives (overflowChecks : Bool) (disk : Disk) (outputDir : Path) :
    WellFounded (fun next state => TaskStep overflowChecks disk outputDir state next) ∧
      ∀ state, Reachable overflowChecks disk outputDir state → Countable state.arrived →
        (∀ nowUs buf batch, state.receiveTask = .handling ((nowUs, buf) :: batch) →
          Countable (state.arrived ++ [(nowUs, buf)]) →
          state.receiver.processDatagramChecked nowUs buf =
            some (state.receiver.processDatagram nowUs buf)) ∧
        ((∀ next, ¬ TaskStep overflowChecks disk outputDir state next) →
          (∃ outcome, state.writing = .returned outcome) ∨
            (state.receiveTask = .selecting ∧
              state.consumed = blocksOf state.receiver.dataTx)) ∧
        ∀ outcome, state.writing = .returned outcome →
          directReceive overflowChecks disk outputDir state.arrived =
            { submitted := state.writer.submitted, outcome := outcome } := by
  refine ⟨wellFounded_taskStep overflowChecks disk outputDir, ?_⟩
  intro state reachable countable
  have sound := sound_of_reachable reachable
  refine ⟨?_, sound.rests, fun outcome returned => sound.result_eq returned⟩
  intro nowUs buf batch _ stillCountable
  exact (stillCountable.processDatagram sound.session
    (inRange_of_reachable reachable countable)).1

/-- A DATA datagram and two FINs in one batch. -/
def finishedBatch : List (UInt64 × Bytes) :=
  [(0, datagram (RudpHeader.newData 1 (UInt64.ofNat (2 ^ 64 - 2)) 0 1) [4]),
    (0, DirectSend.finDatagram 1 0), (0, DirectSend.finDatagram 2 0)]

theorem every_schedule_receives_finishedBatch :
    ∃ state, Reachable true workingDisk [0x6F] state ∧
      ((∃ outcome, state.writing = .returned outcome) ∨
        (state.receiveTask = .selecting ∧ state.consumed = blocksOf state.receiver.dataTx)) := by
  obtain ⟨state, reachable, stuck, arrived⟩ :=
    exists_received true workingDisk [0x6F] finishedBatch
  have begins : state.arrived <+: finishedBatch := by
    rcases arrived with all | some
    · exact all ▸ List.prefix_refl _
    · exact some.1
  have countable : Countable state.arrived := by
    refine ⟨Nat.lt_of_le_of_lt begins.length_le (by decide), ?_⟩
    intro item member
    have every : ∀ item, item ∈ finishedBatch → ClockFits item.1 ∧ NumberFits 1 item.2 := by
      unfold ClockFits
      decide +kernel
    exact every item (begins.subset member)
  exact ⟨state, reachable,
    ((every_schedule_receives true workingDisk [0x6F]).2 state reachable countable).2.1 stuck⟩

end ReceivePipeline

end Udpix.Cli

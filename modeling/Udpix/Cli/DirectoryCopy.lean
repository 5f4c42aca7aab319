/-
Direct mode from one directory to another.

On the sending side `send_directory`, its reader thread and the send task run at
once, joined by a channel of 64 commands; on the receiving side the three tasks
of the pipeline.  On a path that delivers in order what it delivers, the second
directory becomes a copy of the first, whatever the schedules are.
-/

import Udpix.Cli.ReceiveSchedules
import Udpix.IoEngine.Engine

namespace Udpix.Cli

open Protocol DirectSend IoEngine AsyncWriter StreamDecoder UnixPath

def COMMAND_CAPACITY : Nat := 64

/-- The sending side: the call, how many of its commands the send task has taken,
and what that task has sent. -/
structure DirectSending where
  sending : Sending
  taken : Nat
  task : DirectSend
  fins : List Bytes
  finished : Bool

namespace DirectSending

def start (root : Path) (opens : Bool) (listing : Listing) : DirectSending :=
  { sending := Sending.sendDirectory root opens listing
    taken := 0
    task := DirectSend.start
    fins := []
    finished := false }

def wire (state : DirectSending) : List Bytes := state.task.packets ++ state.fins

def finish (tsUs : Nat → UInt64) (state : DirectSending) : DirectSending :=
  { state with
    fins := List.replicate 5 (finDatagram state.task.seq (tsUs state.task.seq))
    finished := true }

/-- One round of the send task; it ends at a shutdown, or when the call is gone
and its commands are used up. -/
def sendTask (tsUs : Nat → UInt64) (state : DirectSending) : Option DirectSending :=
  if state.finished then none
  else
    match state.sending.commands[state.taken]? with
    | some (.sendChunk data) =>
        some
          { state with
            taken := state.taken + 1
            task := sendBlock tsUs state.task data }
    | some .shutdown => some (finish tsUs { state with taken := state.taken + 1 })
    | none =>
        match state.sending.phase with
        | .returned _ => some (finish tsUs state)
        | .streaming _ => none

/-- A step of the call waits for room in the channel if it sends a command. -/
inductive Step (contents : Path → Option Bytes) (tsUs : Nat → UInt64) (state : DirectSending) :
    DirectSending → Prop where
  | caller {next : Sending} (stepped : state.sending.caller (!state.finished) = some next)
      (room : state.sending.commands.length < state.taken + COMMAND_CAPACITY ∨
        next.commands = state.sending.commands) :
      Step contents tsUs state { state with sending := next }
  | thread {next : Sending} (stepped : state.sending.thread contents = some next) :
      Step contents tsUs state { state with sending := next }
  | send {next : DirectSending} (stepped : state.sendTask tsUs = some next) :
      Step contents tsUs state next

/-! ### The send task keeps up -/

section Runs

variable {root : Path} {filePaths : List Path} {contents : Path → Option Bytes}
  {files : List (Path × Bytes)} {tsUs : Nat → UInt64} {state next : DirectSending}

theorem sendCommands_append {first : List SenderCommand} (running : .shutdown ∉ first)
    (second : List SenderCommand) (task : DirectSend) :
    sendCommands tsUs task (first ++ second) =
      sendCommands tsUs (sendCommands tsUs task first) second := by
  induction first generalizing task with
  | nil => rfl
  | cons command rest ih =>
      cases command with
      | shutdown => exact absurd List.mem_cons_self running
      | sendChunk data =>
          exact ih (List.not_mem_of_not_mem_cons running) (sendBlock tsUs task data)

theorem commands_isPrefix {senderOpen : Bool} {sending after : Sending}
    (stepped : sending.caller senderOpen = some after) : sending.commands <+: after.commands := by
  cases Sending.callerStep_of_caller stepped with
  | streams phase taken => exact List.prefix_append _ _
  | signals phase streamed listens => exact List.prefix_append _ _
  | unheard phase streamed gone => exact List.prefix_rfl
  | fails phase failed => exact List.prefix_rfl

/-- The task has handled the commands it took, and ends only when the call has
returned. -/
structure Follows (root : Path) (filePaths : List Path) (contents : Path → Option Bytes)
    (files : List (Path × Bytes)) (tsUs : Nat → UInt64) (state : DirectSending) : Prop where
  faithful : Sending.Faithful root filePaths contents false files state.sending
  within : state.taken ≤ state.sending.commands.length
  task : state.task =
    sendCommands tsUs DirectSend.start (state.sending.commands.take state.taken)
  running : state.finished = false → .shutdown ∉ state.sending.commands.take state.taken
  ended : state.finished = true →
    (∃ outcome, state.sending.phase = .returned outcome) ∧
    state.fins = List.replicate 5 (finDatagram state.task.seq (tsUs state.task.seq)) ∧
    (.shutdown ∈ state.sending.commands.take state.taken ∨
      state.sending.commands.length ≤ state.taken)

theorem unreturned_of_step {sending after : Sending} {mayClose : Bool}
    (step : Sending.Step contents mayClose sending after) (outcome : Except EngineError Unit) :
    sending.phase ≠ .returned outcome := by
  intro returned
  cases step with
  | caller senderOpen allowed stepped =>
      rw [Sending.caller, returned] at stepped
      cases stepped
  | thread stepped =>
      rw [Sending.thread, returned] at stepped
      cases stepped

theorem commands_of_thread {sending after : Sending}
    (stepped : sending.thread contents = some after) : after.commands = sending.commands := by
  rw [Sending.thread] at stepped
  split at stepped
  · cases stepped
  · obtain ⟨reader, _, rfl⟩ := Option.map_eq_some_iff.mp stepped
    rfl

theorem Follows.advance (follows : Follows root filePaths contents files tsUs state)
    (offers : Sending.Offers root filePaths contents files) {after : Sending}
    (step : Sending.Step contents false state.sending after)
    (grown : state.sending.commands <+: after.commands) :
    Follows root filePaths contents files tsUs { state with sending := after } := by
  have same : after.commands.take state.taken = state.sending.commands.take state.taken := by
    obtain ⟨more, joined⟩ := grown
    rw [← joined, List.take_append_of_le_length follows.within]
  refine ⟨follows.faithful.step offers step, follows.within.trans grown.length_le, ?_, ?_, ?_⟩
  · dsimp only
    rw [same]
    exact follows.task
  · intro running
    dsimp only
    rw [same]
    exact follows.running running
  · intro finished
    obtain ⟨⟨outcome, returned⟩, _⟩ := follows.ended finished
    exact absurd returned (unreturned_of_step step outcome)

theorem take_succ_of_getElem? {commands : List SenderCommand} {taken : Nat}
    {command : SenderCommand} (found : commands[taken]? = some command) :
    commands.take (taken + 1) = commands.take taken ++ [command] := by
  rw [List.take_add_one, found, Option.toList_some]

theorem Follows.sendTask (follows : Follows root filePaths contents files tsUs state)
    (stepped : state.sendTask tsUs = some next) :
    Follows root filePaths contents files tsUs next := by
  rw [DirectSending.sendTask] at stepped
  split at stepped
  · cases stepped
  · rename_i notFinished
    have running := follows.running (Bool.eq_false_iff.mpr notFinished)
    split at stepped
    · rename_i data found
      cases stepped
      have more := take_succ_of_getElem? found
      refine ⟨follows.faithful, (List.getElem?_eq_some_iff.mp found).1, ?_, ?_, ?_⟩
      · dsimp only
        rw [more, sendCommands_append running, ← follows.task]
        rfl
      · intro _
        dsimp only
        rw [more]
        intro member
        rcases List.mem_append.mp member with earlier | latest
        · exact running earlier
        · cases List.mem_singleton.mp latest
      · intro finished
        exact absurd finished notFinished
    · rename_i found
      cases stepped
      have more := take_succ_of_getElem? found
      refine ⟨follows.faithful, (List.getElem?_eq_some_iff.mp found).1, ?_, ?_, ?_⟩
      · dsimp only [finish]
        rw [more, sendCommands_append running, ← follows.task]
        rfl
      · intro impossible
        cases impossible
      · intro _
        have present : SenderCommand.shutdown ∈ state.sending.commands := List.mem_of_getElem? found
        refine ⟨?_, rfl, .inl ?_⟩
        · have faithful := follows.faithful
          dsimp only [finish]
          rw [Sending.Faithful] at faithful
          cases phase : state.sending.phase with
          | returned outcome => exact ⟨outcome, rfl⟩
          | streaming call =>
              rw [phase] at faithful
              rw [faithful.shipped] at present
              exact absurd present (Sending.shutdown_not_mem _)
        · dsimp only [finish]
          rw [more]
          exact List.mem_append_right _ List.mem_cons_self
    · rename_i usedUp
      split at stepped
      · rename_i outcome returned
        cases stepped
        refine ⟨follows.faithful, follows.within, follows.task, ?_, ?_⟩
        · intro impossible
          cases impossible
        · intro _
          exact ⟨⟨outcome, returned⟩, rfl, .inr (List.getElem?_eq_none_iff.mp usedUp)⟩
      · cases stepped

theorem Follows.step (follows : Follows root filePaths contents files tsUs state)
    (offers : Sending.Offers root filePaths contents files)
    (step : Step contents tsUs state next) :
    Follows root filePaths contents files tsUs next := by
  cases step with
  | caller stepped room =>
      have running : state.finished = false := by
        refine Bool.eq_false_iff.mpr fun finished => ?_
        obtain ⟨⟨outcome, returned⟩, _⟩ := follows.ended finished
        rw [Sending.caller, returned] at stepped
        cases stepped
      rw [running] at stepped
      exact follows.advance offers (.caller true (.inl rfl) stepped) (commands_isPrefix stepped)
  | thread stepped =>
      exact follows.advance offers (.thread stepped)
        ⟨[], by rw [List.append_nil, commands_of_thread stepped]⟩
  | send stepped => exact follows.sendTask stepped

theorem follows_of_reachable (offers : Sending.Offers root filePaths contents files)
    {origin : DirectSending}
    (starts : origin =
      { sending := { phase := .streaming (.start root filePaths), commands := [] }
        taken := 0
        task := DirectSend.start
        fins := []
        finished := false })
    (reachable : Relation.ReflTransGen (Step contents tsUs) origin state) :
    Follows root filePaths contents files tsUs state := by
  induction reachable with
  | refl =>
      rw [starts]
      refine ⟨Sending.streams_start, Nat.le_refl _, rfl, ?_, ?_⟩
      · intro _ impossible
        cases impossible
      · intro impossible
        cases impossible
  | tail _ step follows => exact follows.step offers step

/-! ### The sending side comes to an end -/

def pending (state : DirectSending) : Nat :=
  state.sending.commands.length - state.taken + if state.finished then 0 else 1

theorem pending_finish (tsUs : Nat → UInt64) (state : DirectSending) :
    (finish tsUs state).pending = state.sending.commands.length - state.taken :=
  rfl

theorem pending_of_running (running : ¬ state.finished = true) :
    state.pending = state.sending.commands.length - state.taken + 1 := by
  rw [pending, if_neg running]

theorem pending_sendTask_lt (stepped : state.sendTask tsUs = some next) :
    next.sending = state.sending ∧ next.pending < state.pending := by
  rw [sendTask] at stepped
  split at stepped
  · cases stepped
  · rename_i running
    rw [pending_of_running running]
    split at stepped
    · rename_i found
      have inside := (List.getElem?_eq_some_iff.mp found).1
      cases stepped
      refine ⟨rfl, lt_of_eq_of_lt (pending_of_running running) ?_⟩
      dsimp only
      omega
    · cases stepped
      refine ⟨rfl, ?_⟩
      rw [pending_finish]
      dsimp only
      omega
    · split at stepped
      · cases stepped
        exact ⟨rfl, Nat.lt_succ_self _⟩
      · cases stepped

theorem wellFounded_step (contents : Path → Option Bytes) (tsUs : Nat → UInt64) :
    WellFounded (fun next state => Step contents tsUs state next) := by
  have ordered := (Sending.wellFounded_step contents true).prod_lex Nat.lt_wfRel.wf
  refine Subrelation.wf ?_ (InvImage.wf (fun state => (state.sending, state.pending)) ordered)
  intro next state step
  cases step with
  | caller stepped room => exact Prod.Lex.left _ _ (.caller _ (.inr rfl) stepped)
  | thread stepped => exact Prod.Lex.left _ _ (.thread stepped)
  | send stepped =>
      obtain ⟨same, less⟩ := pending_sendTask_lt stepped
      rw [InvImage, same]
      exact Prod.Lex.right _ less

theorem take_of_shutdown {blocks : List Bytes} {taken : Nat} {commands : List SenderCommand}
    (whole : commands = blocks.map .sendChunk ++ [.shutdown])
    (met : .shutdown ∈ commands.take taken ∨ commands.length ≤ taken) :
    commands.take taken = commands := by
  subst whole
  apply List.take_of_length_le
  rcases met with member | all
  · by_contra early
    rw [List.length_append, List.length_singleton] at early
    rw [List.take_append_of_le_length (by omega)] at member
    exact Sending.shutdown_not_mem blocks (List.mem_of_mem_take member)
  · exact all

/-- At rest everything is sent: the blocks of the files, and the FIN five times. -/
theorem Follows.rests (follows : Follows root filePaths contents files tsUs state)
    (few : filePaths.length ≤ 1025) (stuck : ∀ next, ¬ Step contents tsUs state next) :
    state.sending.phase = .returned (.ok ()) ∧
      ∃ finSeq finTs, state.wire =
        sentPackets tsUs files ++ List.replicate 5 (finDatagram finSeq finTs) := by
  have sendWaits : state.sendTask tsUs = none :=
    Option.eq_none_iff_forall_ne_some.mpr fun next stepped => stuck next (.send stepped)
  -- a send task that waits has emptied the channel, so there is room in it
  have room : state.finished = false →
      state.sending.commands.length < state.taken + COMMAND_CAPACITY := by
    intro running
    rw [DirectSending.sendTask, running, if_neg Bool.false_ne_true] at sendWaits
    split at sendWaits
    · cases sendWaits
    · cases sendWaits
    · rename_i usedUp
      have all := List.getElem?_eq_none_iff.mp usedUp
      rw [COMMAND_CAPACITY]
      omega
  have callStuck : ∀ after, ¬ Sending.Step contents false state.sending after := by
    intro after step
    have running : state.finished = false := by
      refine Bool.eq_false_iff.mpr fun finished => ?_
      obtain ⟨⟨outcome, returned⟩, _⟩ := follows.ended finished
      exact unreturned_of_step step outcome returned
    cases step with
    | caller senderOpen allowed stepped =>
        have isOpen := allowed.resolve_right Bool.false_ne_true
        have listened : state.sending.caller (!state.finished) = some after := by
          rw [running, Bool.not_false, ← isOpen]
          exact stepped
        exact stuck _ (.caller listened (.inl (room running)))
    | thread stepped => exact stuck _ (.thread stepped)
  obtain ⟨outcome, returned⟩ := Sending.returned_of_stuck follows.faithful few callStuck
  have faithful := follows.faithful
  rw [Sending.Faithful, returned] at faithful
  cases outcome with
  | error reason => exact absurd faithful.2 Bool.false_ne_true
  | ok done =>
      have finished : state.finished = true := by
        by_contra running
        rw [DirectSending.sendTask, if_neg running, returned] at sendWaits
        split at sendWaits
        · cases sendWaits
        · cases sendWaits
        · cases sendWaits
      obtain ⟨_, fins, allTaken⟩ := follows.ended finished
      have handled := follows.task
      rw [take_of_shutdown faithful allTaken, faithful,
        sendCommands_append (Sending.shutdown_not_mem _)] at handled
      refine ⟨returned, state.task.seq, tsUs state.task.seq, ?_⟩
      rw [wire, fins, handled]
      rfl

end Runs

end DirectSending

/-! ### The receiving side -/

theorem endsSession_finDatagram (seq : Nat) (tsUs : UInt64) :
    endsSession 1 (finDatagram seq tsUs) = true := by
  have image : finDatagram seq tsUs =
      (RudpHeader.newFin 1 (UInt64.ofNat seq) tsUs).toBytes ++ [] := by
    rw [finDatagram, RudpHeader.writeTo, List.drop_of_length_le (by rw [List.length_replicate])]
  rw [endsSession, image, RudpHeader.readFrom_toBytes_append]
  change (decide ((1 : UInt32) = 1) && !(Flags.fin &&& Flags.data != 0) &&
    !(Flags.fin &&& Flags.ping != 0) && !(Flags.fin &&& Flags.pong != 0) &&
    (Flags.fin &&& Flags.fin != 0)) = true
  decide

theorem endsSession_sentPackets (tsUs : Nat → UInt64) (files : List (Path × Bytes))
    {packet : Bytes} (member : packet ∈ sentPackets tsUs files) :
    endsSession 1 packet = false := by
  rw [sentPackets, directPackets_eq] at member
  obtain ⟨piece, _, rfl⟩ := List.mem_map.mp member
  rw [endsSession, directDatagram, datagram_eq, RudpHeader.readFrom_toBytes_append]
  change (decide ((1 : UInt32) = 1) && !(Flags.data &&& Flags.data != 0) &&
    !(Flags.data &&& Flags.ping != 0) && !(Flags.data &&& Flags.pong != 0) &&
    (Flags.data &&& Flags.fin != 0)) = false
  decide

/-- What arrived, when it is a beginning of what was sent and reaches the FINs. -/
theorem arrived_of_fin {arrived : List (UInt64 × Bytes)} {packets fins : List Bytes}
    {fin : Bytes} (same : ∀ datagram, datagram ∈ fins → datagram = fin)
    (inOrder : arrived.map Prod.snd <+: packets ++ fins)
    (reached : packets.length < arrived.length) :
    ∃ before finUs after, arrived = before ++ (finUs, fin) :: after ∧
      before.map Prod.snd = packets := by
  have enough : packets.length ≤ (arrived.map Prod.snd).length := by
    rw [List.length_map]
    omega
  obtain ⟨rest, joined⟩ := List.prefix_of_prefix_length_le (List.prefix_append packets fins)
    inOrder enough
  obtain ⟨before, latter, split, isPackets, isRest⟩ := List.map_eq_append_iff.mp joined.symm
  rw [← joined] at inOrder
  have beginsFins := (List.prefix_append_right_inj packets).mp inOrder
  cases latter with
  | nil =>
      rw [split, List.append_nil, ← isPackets, List.length_map] at reached
      omega
  | cons item after =>
      have isFin : item.2 = fin := by
        apply same
        refine beginsFins.subset ?_
        rw [← isRest]
        exact List.mem_cons_self
      exact ⟨before, item.1, after, by rw [split, ← isFin], isPackets⟩

variable {listing : Listing} {data : List EntryName → Bytes}

theorem ReceivePipeline.Sound.copies {overflowChecks : Bool} {disk : Disk} {outputDir : Path}
    {receiver : ReceivePipeline} (sound : receiver.Sound overflowChecks disk outputDir)
    (portable : Portable listing data) (few : listing.regularFiles.length ≤ 1025)
    (healthy : disk.Healthy)
    (stuck : ∀ next, ¬ ReceivePipeline.TaskStep overflowChecks disk outputDir receiver next)
    {tsUs : Nat → UInt64} {finSeq : Nat} {finTs : UInt64}
    (inOrder : receiver.arrived.map Prod.snd <+:
      sentPackets tsUs (filesOf listing data) ++ List.replicate 5 (finDatagram finSeq finTs))
    (reached : (sentPackets tsUs (filesOf listing data)).length < receiver.arrived.length) :
    ∃ total, receiver.writing = .returned (.ok total) ∧
      receiver.writer.submitted.Perm
        (listing.regularFiles.map fun names =>
          { absPath := walk outputDir names, data := data names }) := by
  obtain ⟨before, finUs, after, split, complete⟩ := arrived_of_fin
    (fun datagram member => List.eq_of_mem_replicate member) inOrder reached
  have returned : ∃ outcome, receiver.writing = .returned outcome := by
    rcases sound.rests stuck with returned | ⟨selecting, _⟩
    · exact returned
    · have present : (finUs, finDatagram finSeq finTs) ∈ receiver.arrived := by
        rw [split]
        exact List.mem_append_right _ List.mem_cons_self
      have goesOn := sound.openSoFar (by rw [selecting]; rfl) _ present
      rw [endsSession_finDatagram] at goesOn
      cases goesOn
  obtain ⟨outcome, place⟩ := returned
  obtain ⟨chunks, _, allChunks, received⟩ := directReceive_eq overflowChecks disk outputDir tsUs
    (filesOf listing data) (portable.packable few) before after finUs finTs finSeq
    ⟨[], by rw [List.append_nil, complete]⟩
  have result := sound.result_eq place
  rw [split, received] at result
  obtain ⟨finished, submitted⟩ := receiveFiles_of_once portable few healthy overflowChecks
    outputDir (List.Perm.of_eq (allChunks complete))
  rw [receiveFiles, result] at finished
  rw [result] at submitted
  cases outcome with
  | error reason => cases finished
  | ok total => exact ⟨total, place, submitted⟩

/-- Whatever the schedules of the two processes are: the sending one ends, and
returns, and the receiving one, once it has been given everything up to a FIN in
order, comes to rest with every regular file of the first directory written to
the same place below the second, and nothing else. -/
theorem direct_copies_directory (root : Path) (contents : Path → Option Bytes)
    (listing : Listing) (data : List EntryName → Bytes) (tsUs : Nat → UInt64)
    (portable : Portable listing data) (passed : listing.fault root = none)
    (few : listing.regularFiles.length ≤ 1025)
    (readable : ∀ names, names ∈ listing.regularFiles →
      contents (walk root names) = some (data names)) :
    WellFounded (fun next state => DirectSending.Step contents tsUs state next) ∧
      (∀ overflowChecks disk outputDir, WellFounded (fun next state =>
        ReceivePipeline.TaskStep overflowChecks disk outputDir state next)) ∧
      ∀ sender, Relation.ReflTransGen (DirectSending.Step contents tsUs)
          (DirectSending.start root true listing) sender →
        (∀ next, ¬ DirectSending.Step contents tsUs sender next) →
        sender.sending.phase = .returned (.ok ()) ∧
          (∃ finSeq finTs, sender.wire = sentPackets tsUs (filesOf listing data) ++
            List.replicate 5 (finDatagram finSeq finTs)) ∧
          ∀ overflowChecks disk outputDir receiver, disk.Healthy →
            ReceivePipeline.Reachable overflowChecks disk outputDir receiver →
            (∀ next, ¬ ReceivePipeline.TaskStep overflowChecks disk outputDir receiver next) →
            receiver.arrived.map Prod.snd <+: sender.wire →
            sender.wire.length < receiver.arrived.length + 5 →
            ∃ total, receiver.writing = .returned (.ok total) ∧
              receiver.writer.submitted.Perm
                (listing.regularFiles.map fun names =>
                  { absPath := walk outputDir names, data := data names }) := by
  refine ⟨DirectSending.wellFounded_step contents tsUs,
    ReceivePipeline.wellFounded_taskStep, ?_⟩
  intro sender reachable stuck
  have starts := congrArg
    (fun sending => DirectSending.mk sending 0 DirectSend.start [] false)
    (sendDirectory_eq root passed)
  have follows := DirectSending.follows_of_reachable (offers_filesOf root readable) starts
    reachable
  have fewPaths : (listing.regularFiles.map (walk root)).length ≤ 1025 := by
    rw [List.length_map]
    exact few
  obtain ⟨returned, finSeq, finTs, wire⟩ := follows.rests fewPaths stuck
  refine ⟨returned, ⟨finSeq, finTs, wire⟩, ?_⟩
  intro overflowChecks disk outputDir receiver healthy received rests inOrder reached
  rw [wire] at inOrder reached
  rw [List.length_append, List.length_replicate] at reached
  exact (ReceivePipeline.sound_of_reachable received).copies portable few healthy rests inOrder
    (by omega)

def withFin (packets : List Bytes) (fin : Bytes) : List (UInt64 × Bytes) :=
  (packets ++ [fin]).map fun packet => (0, packet)

/-- A receiver that was given the packets and one FIN rests with all of them
handled. -/
theorem exists_received_withFin (overflowChecks : Bool) (disk : Disk) (outputDir : Path)
    (tsUs : Nat → UInt64) (files : List (Path × Bytes)) (fin : Bytes) :
    ∃ receiver, ReceivePipeline.Reachable overflowChecks disk outputDir receiver ∧
      (∀ next, ¬ ReceivePipeline.TaskStep overflowChecks disk outputDir receiver next) ∧
      receiver.arrived.map Prod.snd = sentPackets tsUs files ++ [fin] := by
  have given : (withFin (sentPackets tsUs files) fin).map Prod.snd =
      sentPackets tsUs files ++ [fin] := by
    rw [withFin, List.map_map]
    exact List.map_id _
  obtain ⟨receiver, reachable, stuck, whole | ⟨begins, item, member, ends⟩⟩ :=
    ReceivePipeline.exists_received overflowChecks disk outputDir
      (withFin (sentPackets tsUs files) fin)
  · exact ⟨receiver, reachable, stuck, by rw [whole, given]⟩
  · refine ⟨receiver, reachable, stuck, ?_⟩
    have inOrder := begins.map Prod.snd
    rw [given] at inOrder
    by_contra short
    have inside : receiver.arrived.map Prod.snd <+: sentPackets tsUs files := by
      refine List.prefix_of_prefix_length_le inOrder (List.prefix_append _ _) ?_
      by_contra long
      refine short (inOrder.eq_of_length_le ?_)
      rw [List.length_append, List.length_singleton]
      omega
    have goesOn := endsSession_sentPackets tsUs files
      (inside.subset (List.mem_map_of_mem member))
    exact Bool.false_ne_true (goesOn.symm.trans ends)

theorem direct_copies_directory_smallTree :
    ∃ sender receiver total,
      Relation.ReflTransGen (DirectSending.Step smallContents (fun _ => 0))
        (DirectSending.start [0x72] true smallTree) sender ∧
      ReceivePipeline.Reachable true workingDisk [0x6F] receiver ∧
      receiver.arrived.map Prod.snd <+: sender.wire ∧
      receiver.writing = .returned (.ok total) ∧
      receiver.writer.submitted.Perm
        [{ absPath := [0x6F, 0x2F, 0x61], data := [1, 2, 3] },
         { absPath := [0x6F, 0x2F, 0x73, 0x2F, 0x73], data := [] }] := by
  obtain ⟨ends, _, copies⟩ := direct_copies_directory [0x72] smallContents smallTree smallData
    (fun _ => 0) portable_smallTree rfl (by decide) (by decide)
  obtain ⟨sender, sent, rests⟩ :=
    Progress.exists_final ends (DirectSending.start [0x72] true smallTree)
  obtain ⟨_, ⟨finSeq, finTs, wire⟩, arrives⟩ := copies sender sent rests
  obtain ⟨receiver, received, stuck, arrived⟩ := exists_received_withFin true workingDisk [0x6F]
    (fun _ => 0) (filesOf smallTree smallData) (finDatagram finSeq finTs)
  have inOrder : receiver.arrived.map Prod.snd <+: sender.wire := by
    rw [arrived, wire]
    exact ⟨List.replicate 4 (finDatagram finSeq finTs), List.append_assoc _ _ _⟩
  have reached : sender.wire.length < receiver.arrived.length + 5 := by
    rw [wire, ← List.length_map Prod.snd, arrived, List.length_append, List.length_append,
      List.length_replicate, List.length_singleton]
    omega
  obtain ⟨total, returned, submitted⟩ := arrives true workingDisk [0x6F] receiver
    workingDisk_healthy received stuck inOrder reached
  exact ⟨sender, receiver, total, sent, received, inOrder, returned, submitted⟩

end Udpix.Cli

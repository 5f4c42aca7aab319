/-
Sender and receiver joined by an unreliable network.

The network never forgets: it holds every datagram and every SACK ever
produced, and a step may deliver any of them at any time and any number of
times.  Loss is never delivering one; delay, duplication and reordering are
choices of the step.  The state also carries the history that the results
speak about: what was submitted, removed and handed over so far.
-/

import Udpix.Protocol.InFlight
import Udpix.Protocol.Receiver
import Mathlib.Logic.Relation

namespace Udpix.Protocol

open Chunks Sender

structure Transfer where
  sender : Sender
  receiver : Receiver
  wire : List Bytes
  sacks : List SackPayload
  shutdownRequested : Bool
  exited : Bool
  submitted : List Bytes
  acked : List Nat
  handed : List (Nat × Bytes)
  sackOps : List SackOp

namespace Transfer

def initial (sessionId : UInt32) (now : Instant) : Transfer :=
  { sender := Sender.new sessionId now
    receiver := Receiver.new sessionId 0
    wire := []
    sacks := []
    shutdownRequested := false
    exited := false
    submitted := []
    acked := []
    handed := []
    sackOps := [] }

def pieces (transfer : Transfer) : List Bytes :=
  transfer.submitted.flatMap (chunks MAX_PAYLOAD)

/-! ### The steps -/

def enqueue (stamp : Nat → UInt64) (transfer : Transfer) (now : Instant)
    (payload : Bytes) : Transfer :=
  { transfer with
    sender := transfer.sender.enqueueData stamp now payload
    submitted := transfer.submitted ++ [payload] }

def acknowledge (transfer : Transfer) (now : Instant) (sack : SackPayload) : Transfer :=
  { transfer with
    sender := transfer.sender.processSack now sack
    acked := transfer.acked ++ transfer.sender.ackedSeqs sack }

def dispatch (transfer : Transfer) (now : Instant) (accepted : Int) : Transfer :=
  { transfer with
    sender := (transfer.sender.sendBatch now accepted).1
    wire := transfer.wire ++ (transfer.sender.sendBatch now accepted).2 }

def refill (transfer : Transfer) (now : Instant) : Transfer :=
  { transfer with
    sender := { transfer.sender with pacer := transfer.sender.pacer.refill now } }

def handle (transfer : Transfer) (iteration : Iteration) : Transfer :=
  match iteration.event with
  | .probeTick => { transfer with sender := transfer.sender.handleEvent iteration }
  | .sack sack => transfer.acknowledge iteration.eventNow sack
  | .command (.sendChunk payload) =>
      transfer.enqueue iteration.tsUs iteration.eventNow payload
  | .command .shutdown => { transfer with shutdownRequested := true }

/-- One pass of the run loop.  It leaves the loop when a shutdown was requested
and nothing is in flight. -/
def iterate (transfer : Transfer) (iteration : Iteration) : Transfer :=
  let sent := ((transfer.handle iteration).refill iteration.refillNow).dispatch
    iteration.batchNow iteration.accepted
  { sent with exited := sent.shutdownRequested && sent.sender.inFlight.keys.isEmpty }

/-- The number and payload of a delivered DATA datagram. -/
def dataOf (packet : Bytes) : Option (Nat × Bytes) :=
  (RudpHeader.readFrom packet).map fun header =>
    (header.sequenceNumber.toNat,
      (packet.drop RudpHeader.SIZE).take header.payloadLen.toNat)

def deliver (transfer : Transfer) (nowUs : UInt64) (packet : Bytes) : Transfer :=
  { transfer with
    receiver := (transfer.receiver.processDatagram nowUs packet).1
    handed := transfer.handed ++ (dataOf packet).toList
    sackOps := transfer.sackOps ++ (dataOf packet).toList.map (fun data => .arrive data.1) }

def heartbeat (transfer : Transfer) (nowUs : UInt64) : Transfer :=
  { transfer with
    receiver := (transfer.receiver.sendHeartbeatSack nowUs).1
    sacks := transfer.sacks ++ [transfer.receiver.sackMgr.tick.payload]
    sackOps := transfer.sackOps ++ [.tick] }

/-- Every interleaving of the two parties' calls.  `stamp` is the wall clock at
the moment each sequence number is built into its header. -/
inductive Step (stamp : Nat → UInt64) : Transfer → Transfer → Prop
  | enqueueData (transfer : Transfer) (now : Instant) (payload : Bytes)
      (running : transfer.exited = false) :
      Step stamp transfer (transfer.enqueue stamp now payload)
  | processSack (transfer : Transfer) (now : Instant) (sack : SackPayload)
      (running : transfer.exited = false) (produced : sack ∈ transfer.sacks) :
      Step stamp transfer (transfer.acknowledge now sack)
  | sendBatch (transfer : Transfer) (now : Instant) (accepted : Int)
      (running : transfer.exited = false) :
      Step stamp transfer (transfer.dispatch now accepted)
  | iterate (transfer : Transfer) (iteration : Iteration)
      (running : transfer.exited = false) (clock : iteration.tsUs = stamp)
      (produced : ∀ sack, iteration.event = .sack sack → sack ∈ transfer.sacks) :
      Step stamp transfer (transfer.iterate iteration)
  | processDatagram (transfer : Transfer) (nowUs : UInt64) (packet : Bytes)
      (emitted : packet ∈ transfer.wire) :
      Step stamp transfer (transfer.deliver nowUs packet)
  | heartbeat (transfer : Transfer) (nowUs : UInt64) :
      Step stamp transfer (transfer.heartbeat nowUs)
  -- the hash map may change its iteration order, the statistics are shared
  | rehash (transfer : Transfer) (inFlight : AssocMap Nat InFlightEntry)
      (sameEntries : inFlight.entries.Perm transfer.sender.inFlight.entries) :
      Step stamp transfer { transfer with sender := { transfer.sender with inFlight := inFlight } }
  | updateStats (transfer : Transfer) (stats : SessionStats) :
      Step stamp transfer { transfer with sender := { transfer.sender with stats := stats } }

def Reachable (sessionId : UInt32) (stamp : Nat → UInt64) (now : Instant)
    (transfer : Transfer) : Prop :=
  Relation.ReflTransGen (Step stamp) (initial sessionId now) transfer

/-! ### The invariant -/

def arrivals (ops : List SackOp) : List Nat :=
  ops.filterMap fun op =>
    match op with
    | .arrive seq => some seq
    | .tick => none

/-- What holds of sender, network, receiver and history in every reachable
state.  An old SACK is as trustworthy as a new one, because a number once
handed over stays handed over. -/
structure Sound (sessionId : UInt32) (stamp : Nat → UInt64) (transfer : Transfer) : Prop where
  tracks : Tracks sessionId stamp transfer.pieces transfer.acked transfer.sender
  session : transfer.receiver.sessionId = sessionId
  onWire : ∀ packet, packet ∈ transfer.wire →
    ∃ seq piece, transfer.pieces[seq]? = some piece ∧
      packet = dataDatagram sessionId seq (stamp seq) piece
  handed : ∀ seq payload, (seq, payload) ∈ transfer.handed →
    transfer.pieces[seq]? = some payload
  delivered : transfer.receiver.dataTx = transfer.handed.map Prod.snd
  replayed : transfer.receiver.sackMgr = (SackManager.new 0).run transfer.sackOps
  arrived : arrivals transfer.sackOps = transfer.handed.map Prod.fst
  reported : ∀ sack, sack ∈ transfer.sacks → ∀ seq, sack.isReceived seq = true →
    seq ∈ transfer.handed.map Prod.fst
  removed : ∀ seq, seq ∈ transfer.acked → seq ∈ transfer.handed.map Prod.fst
  drained : transfer.exited = true → transfer.sender.inFlight.keys = []

variable {sessionId : UInt32} {stamp : Nat → UInt64} {transfer : Transfer}

theorem sound_initial (now : Instant) : Sound sessionId stamp (initial sessionId now) where
  tracks := tracks_new now
  session := rfl
  onWire := by
    intro packet member
    cases member
  handed := by
    intro seq payload member
    cases member
  delivered := rfl
  replayed := rfl
  arrived := rfl
  reported := by
    intro sack member
    cases member
  removed := by
    intro seq member
    cases member
  drained := by
    intro impossible
    cases impossible

theorem pieces_enqueue (now : Instant) (payload : Bytes) :
    (transfer.enqueue stamp now payload).pieces =
      transfer.pieces ++ chunks MAX_PAYLOAD payload := by
  unfold pieces enqueue
  rw [List.flatMap_append, List.flatMap_singleton]

private theorem getElem?_append_of_some {first second : List Bytes} {index : Nat}
    {piece : Bytes} (placed : first[index]? = some piece) :
    (first ++ second)[index]? = some piece := by
  rw [List.getElem?_append_left (List.getElem?_eq_some_iff.mp placed).1]
  exact placed

theorem Sound.enqueue (sound : Sound sessionId stamp transfer)
    (running : transfer.exited = false) (now : Instant) (payload : Bytes) :
    Sound sessionId stamp (transfer.enqueue stamp now payload) where
  tracks := by
    rw [pieces_enqueue]
    exact sound.tracks.enqueueData now payload
  session := sound.session
  onWire := by
    intro packet member
    obtain ⟨seq, piece, placed, built⟩ := sound.onWire packet member
    refine ⟨seq, piece, ?_, built⟩
    rw [pieces_enqueue]
    exact getElem?_append_of_some placed
  handed := by
    intro seq received member
    rw [pieces_enqueue]
    exact getElem?_append_of_some (sound.handed seq received member)
  delivered := sound.delivered
  replayed := sound.replayed
  arrived := sound.arrived
  reported := sound.reported
  removed := sound.removed
  drained := by
    intro exited
    change transfer.exited = true at exited
    rw [running] at exited
    cases exited

theorem Sound.acknowledge (sound : Sound sessionId stamp transfer)
    (running : transfer.exited = false) (now : Instant) (sack : SackPayload)
    (produced : sack ∈ transfer.sacks) :
    Sound sessionId stamp (transfer.acknowledge now sack) where
  tracks := sound.tracks.processSack now sack
  session := sound.session
  onWire := sound.onWire
  handed := sound.handed
  delivered := sound.delivered
  replayed := sound.replayed
  arrived := sound.arrived
  reported := sound.reported
  removed := by
    intro seq member
    rcases List.mem_append.mp member with earlier | now
    · exact sound.removed seq earlier
    · have isAck : isAcked sack seq = true := (List.mem_filter.mp now).2
      have received : sack.isReceived seq = true := by
        rcases Bool.or_eq_true_iff.mp isAck with below | marked
        · exact sack.isReceived_of_lt seq (of_decide_eq_true below)
        · exact marked
      exact sound.reported sack produced seq received
  drained := by
    intro exited
    change transfer.exited = true at exited
    rw [running] at exited
    cases exited

theorem Sound.dispatch (sound : Sound sessionId stamp transfer)
    (now : Instant) (accepted : Int) :
    Sound sessionId stamp (transfer.dispatch now accepted) where
  tracks := sound.tracks.sendBatch now accepted
  session := sound.session
  onWire := by
    intro packet member
    rcases List.mem_append.mp member with earlier | fresh
    · exact sound.onWire packet earlier
    · exact sound.tracks.sent now accepted packet fresh
  handed := sound.handed
  delivered := sound.delivered
  replayed := sound.replayed
  arrived := sound.arrived
  reported := sound.reported
  removed := sound.removed
  drained := by
    intro exited
    change ((transfer.sender.sendBatch now accepted).1).inFlight.keys = []
    rw [(sendBatch_assembling transfer.sender now accepted).1]
    exact sound.drained exited

/-- Replacing parts of the sender that the invariant does not mention. -/
theorem Sound.of_sameSender (sound : Sound sessionId stamp transfer) (sender : Sender)
    (session : sender.sessionId = transfer.sender.sessionId)
    (nextSeq : sender.nextSeq = transfer.sender.nextSeq)
    (entries : sender.inFlight.entries.Perm transfer.sender.inFlight.entries) :
    Sound sessionId stamp { transfer with sender := sender } := by
  have keys : sender.inFlight.keys.Perm transfer.sender.inFlight.keys :=
    entries.map Sigma.fst
  refine
    { tracks := sound.tracks.of_sameSender sender session nextSeq entries
      session := sound.session
      onWire := sound.onWire
      handed := sound.handed
      delivered := sound.delivered
      replayed := sound.replayed
      arrived := sound.arrived
      reported := sound.reported
      removed := sound.removed
      drained := ?_ }
  · intro exited
    have empty := sound.drained exited
    change sender.inFlight.keys = []
    rw [empty] at keys
    exact keys.eq_nil

theorem Sound.handle (sound : Sound sessionId stamp transfer)
    (running : transfer.exited = false) (iteration : Iteration)
    (clock : iteration.tsUs = stamp)
    (produced : ∀ sack, iteration.event = .sack sack → sack ∈ transfer.sacks) :
    Sound sessionId stamp (transfer.handle iteration) := by
  unfold Transfer.handle
  split
  · rename_i event
    apply sound.of_sameSender
    · unfold Sender.handleEvent
      rw [event]
    · unfold Sender.handleEvent
      rw [event]
    · unfold Sender.handleEvent
      rw [event]
  · rename_i sack event
    exact sound.acknowledge running _ sack (produced sack event)
  · rw [clock]
    exact sound.enqueue running _ _
  · exact ⟨sound.tracks, sound.session, sound.onWire, sound.handed, sound.delivered,
      sound.replayed, sound.arrived, sound.reported, sound.removed, sound.drained⟩

theorem Sound.iterate (sound : Sound sessionId stamp transfer)
    (running : transfer.exited = false) (iteration : Iteration)
    (clock : iteration.tsUs = stamp)
    (produced : ∀ sack, iteration.event = .sack sack → sack ∈ transfer.sacks) :
    Sound sessionId stamp (transfer.iterate iteration) := by
  have handled := sound.handle running iteration clock produced
  have refilled : Sound sessionId stamp
      ((transfer.handle iteration).refill iteration.refillNow) :=
    handled.of_sameSender _ rfl rfl (List.Perm.refl _)
  have sent := refilled.dispatch iteration.batchNow iteration.accepted
  refine ⟨sent.tracks, sent.session, sent.onWire, sent.handed, sent.delivered,
    sent.replayed, sent.arrived, sent.reported, sent.removed, ?_⟩
  intro exited
  exact List.isEmpty_iff.mp (Bool.and_eq_true_iff.mp exited).2

/-! ### The receiver's steps -/

theorem length_piece {seq : Nat} {piece : Bytes}
    (placed : transfer.pieces[seq]? = some piece) : piece.length ≤ MAX_PAYLOAD := by
  have member : piece ∈ transfer.pieces := List.mem_of_getElem? placed
  obtain ⟨payload, _, inChunks⟩ := List.mem_flatMap.mp member
  exact (length_of_mem_chunks MAX_PAYLOAD MAX_PAYLOAD_pos payload piece inChunks).2

theorem dataOf_datagram (seq tsUs : UInt64) (piece : Bytes)
    (short : piece.length ≤ MAX_PAYLOAD) :
    dataOf (datagram (RudpHeader.newData sessionId seq tsUs (UInt16.ofNat piece.length)) piece) =
      some (seq.toNat, piece) := by
  have lengthRead : (UInt16.ofNat piece.length).toNat = piece.length := by
    apply UInt16.toNat_ofNat_of_lt'
    change piece.length < 65536
    unfold MAX_PAYLOAD at short
    omega
  unfold dataOf
  rw [datagram_eq, RudpHeader.readFrom_toBytes_append, Option.map_some]
  change some (seq.toNat, List.take (UInt16.ofNat piece.length).toNat _) = _
  rw [lengthRead, List.drop_left' (RudpHeader.toBytes_length _), List.take_length]

theorem dataOf_dataDatagram (seq : Nat) (tsUs : UInt64) (piece : Bytes)
    (seqLt : seq < 2 ^ 64) (short : piece.length ≤ MAX_PAYLOAD) :
    dataOf (dataDatagram sessionId seq tsUs piece) = some (seq, piece) := by
  have seqRead : (UInt64.ofNat seq).toNat = seq := UInt64.toNat_ofNat_of_lt' seqLt
  unfold dataDatagram
  rw [dataOf_datagram _ _ _ short, seqRead]

theorem deliver_eq (sound : Sound sessionId stamp transfer) (nowUs : UInt64)
    (seq : Nat) (piece : Bytes) (seqLt : seq < 2 ^ 64)
    (short : piece.length ≤ MAX_PAYLOAD) :
    transfer.deliver nowUs (dataDatagram sessionId seq (stamp seq) piece) =
      { transfer with
        receiver := transfer.receiver.acceptData seq piece
        handed := transfer.handed ++ [(seq, piece)]
        sackOps := transfer.sackOps ++ [.arrive seq] } := by
  have seqRead : (UInt64.ofNat seq).toNat = seq := UInt64.toNat_ofNat_of_lt' seqLt
  have accepted := transfer.receiver.processDatagram_data nowUs (stamp seq)
    (UInt64.ofNat seq) piece (by unfold MAX_PAYLOAD at short; omega)
  rw [seqRead, sound.session] at accepted
  unfold deliver
  rw [dataOf_dataDatagram seq (stamp seq) piece seqLt short]
  unfold dataDatagram
  rw [accepted]
  rfl

theorem Sound.deliver (sound : Sound sessionId stamp transfer)
    (bounded : transfer.pieces.length < 2 ^ 64) (nowUs : UInt64) (packet : Bytes)
    (emitted : packet ∈ transfer.wire) :
    Sound sessionId stamp (transfer.deliver nowUs packet) := by
  obtain ⟨seq, piece, placed, built⟩ := sound.onWire packet emitted
  have seqLt : seq < 2 ^ 64 :=
    Nat.lt_trans (List.getElem?_eq_some_iff.mp placed).1 bounded
  subst built
  rw [deliver_eq sound nowUs seq piece seqLt (length_piece placed)]
  refine
    { tracks := sound.tracks
      session := sound.session
      onWire := sound.onWire
      handed := ?_
      delivered := ?_
      replayed := ?_
      arrived := ?_
      reported := ?_
      removed := ?_
      drained := sound.drained }
  · intro other payload member
    rcases List.mem_append.mp member with earlier | last
    · exact sound.handed other payload earlier
    · cases List.mem_singleton.mp last
      exact placed
  · change transfer.receiver.dataTx ++ [piece] = _
    rw [sound.delivered, List.map_append]
    rfl
  · change transfer.receiver.sackMgr.onPacketReceived seq = _
    rw [SackManager.run_snoc, ← sound.replayed]
    rfl
  · unfold arrivals
    rw [List.filterMap_append, List.map_append]
    exact congrArg (· ++ [seq]) sound.arrived
  · intro sack member other received
    rw [List.map_append]
    exact List.mem_append_left _ (sound.reported sack member other received)
  · intro other member
    rw [List.map_append]
    exact List.mem_append_left _ (sound.removed other member)

theorem Sound.isReceived (sound : Sound sessionId stamp transfer) (seq : Nat)
    (received : transfer.receiver.sackMgr.payload.isReceived seq = true) :
    seq ∈ transfer.handed.map Prod.fst := by
  rw [sound.replayed] at received
  rcases (SackManager.isReceived_run_iff 0 transfer.sackOps seq).mp received with
    impossible | ⟨before, after, split, _⟩
  · omega
  · rw [← sound.arrived]
    unfold arrivals
    exact List.mem_filterMap.mpr ⟨.arrive seq, by rw [split]; simp, rfl⟩

theorem Sound.heartbeat (sound : Sound sessionId stamp transfer) (nowUs : UInt64) :
    Sound sessionId stamp (transfer.heartbeat nowUs) where
  tracks := sound.tracks
  session := sound.session
  onWire := sound.onWire
  handed := sound.handed
  delivered := sound.delivered
  replayed := by
    change transfer.receiver.sackMgr.tick = _
    unfold Transfer.heartbeat
    rw [SackManager.run_snoc, ← sound.replayed]
    rfl
  arrived := by
    unfold Transfer.heartbeat arrivals
    rw [List.filterMap_append]
    exact (List.append_nil _).trans sound.arrived
  reported := by
    intro sack member seq received
    rcases List.mem_append.mp member with earlier | last
    · exact sound.reported sack earlier seq received
    · rw [List.mem_singleton.mp last] at received
      exact sound.isReceived seq received
  removed := sound.removed
  drained := sound.drained

/-! ### Every reachable state -/

theorem Step.pieces_length_le {next : Transfer} (step : Step stamp transfer next) :
    transfer.pieces.length ≤ next.pieces.length := by
  have grows : ∀ (tsUs : Nat → UInt64) (now : Instant) (payload : Bytes),
      transfer.pieces.length ≤ (transfer.enqueue tsUs now payload).pieces.length := by
    intro tsUs now payload
    rw [pieces_enqueue, List.length_append]
    omega
  cases step with
  | enqueueData now payload running => exact grows stamp now payload
  | iterate iteration running clock produced =>
      change transfer.pieces.length ≤ (transfer.handle iteration).pieces.length
      unfold Transfer.handle
      split
      · exact Nat.le_refl _
      · exact Nat.le_refl _
      · exact grows _ _ _
      · exact Nat.le_refl _
  | processSack now sack running produced => exact Nat.le_refl _
  | sendBatch now accepted running => exact Nat.le_refl _
  | processDatagram nowUs packet emitted => exact Nat.le_refl _
  | heartbeat nowUs => exact Nat.le_refl _
  | rehash inFlight sameEntries => exact Nat.le_refl _
  | updateStats stats => exact Nat.le_refl _

theorem Sound.step {next : Transfer} (sound : Sound sessionId stamp transfer)
    (bounded : transfer.pieces.length < 2 ^ 64) (step : Step stamp transfer next) :
    Sound sessionId stamp next := by
  cases step with
  | enqueueData now payload running => exact sound.enqueue running now payload
  | processSack now sack running produced => exact sound.acknowledge running now sack produced
  | sendBatch now accepted running => exact sound.dispatch now accepted
  | iterate iteration running clock produced =>
      exact sound.iterate running iteration clock produced
  | processDatagram nowUs packet emitted => exact sound.deliver bounded nowUs packet emitted
  | heartbeat nowUs => exact sound.heartbeat nowUs
  | rehash inFlight sameEntries => exact sound.of_sameSender _ rfl rfl sameEntries
  | updateStats stats => exact sound.of_sameSender _ rfl rfl (List.Perm.refl _)

theorem sound_of_reachable {now : Instant}
    (reachable : Reachable sessionId stamp now transfer)
    (bounded : transfer.pieces.length < 2 ^ 64) : Sound sessionId stamp transfer := by
  unfold Reachable at reachable
  induction reachable with
  | refl => exact sound_initial now
  | tail _ step ih =>
      have earlier := step.pieces_length_le
      exact (ih (by omega)).step (by omega) step

theorem Sound.forgotten_nowhere (sound : Sound sessionId stamp transfer) (seq : Nat)
    (seqLt : seq < transfer.sender.nextSeq) :
    ∃ piece, transfer.pieces[seq]? = some piece ∧
      ((∃ entry, transfer.sender.inFlight.lookup seq = some entry ∧
          entry.datagram = dataDatagram sessionId seq (stamp seq) piece) ∨
        (seq, piece) ∈ transfer.handed) := by
  have listed := sound.tracks.partition.symm.subset (List.mem_range.mpr seqLt)
  rcases List.mem_append.mp listed with isAcked | inFlight
  · obtain ⟨⟨handedSeq, payload⟩, member, same⟩ :=
      List.mem_map.mp (sound.removed seq isAcked)
    change handedSeq = seq at same
    subst same
    exact ⟨payload, sound.handed handedSeq payload member, Or.inr member⟩
  · obtain ⟨entry, found⟩ :=
      (AssocMap.mem_keys_iff_lookup transfer.sender.inFlight seq).mp inFlight
    obtain ⟨piece, placed, built⟩ := sound.tracks.original seq entry found
    exact ⟨piece, placed, Or.inl ⟨entry, found, built⟩⟩

/-- No enqueued data is forgotten, over every interleaving and every behaviour
of the network.  Each number handed out is in flight with its original
datagram or was handed over by the receiver; acknowledgements removed each
other number exactly once; and when the run loop has left through the shutdown
test, every packet of every submitted payload was handed over.  The last three
parts say that "handed over" is what the receiver did: the log is the
application channel, and its numbers are the arrivals of the bitmap. -/
theorem reachable_forgets_nothing (sessionId : UInt32) (stamp : Nat → UInt64)
    (now : Instant) (transfer : Transfer)
    (reachable : Reachable sessionId stamp now transfer)
    (bounded : transfer.pieces.length < 2 ^ 64 - 1) :
    (∀ seq, seq < transfer.sender.nextSeq →
      ∃ piece, transfer.pieces[seq]? = some piece ∧
        ((∃ entry, transfer.sender.inFlight.lookup seq = some entry ∧
            entry.datagram = dataDatagram sessionId seq (stamp seq) piece) ∨
          (seq, piece) ∈ transfer.handed)) ∧
    (transfer.acked ++ transfer.sender.inFlight.keys).Perm
      (List.range transfer.sender.nextSeq) ∧
    transfer.acked.length + transfer.sender.inFlight.size = transfer.sender.nextSeq ∧
    (transfer.exited = true →
      ∀ payload, payload ∈ transfer.submitted → ∀ piece, piece ∈ chunks MAX_PAYLOAD payload →
        ∃ seq, (seq, piece) ∈ transfer.handed) ∧
    transfer.sender.nextSeq = transfer.pieces.length ∧
    transfer.receiver.dataTx = transfer.handed.map Prod.snd ∧
    transfer.receiver.sackMgr = (SackManager.new 0).run transfer.sackOps ∧
    arrivals transfer.sackOps = transfer.handed.map Prod.fst := by
  have sound := sound_of_reachable reachable (by omega)
  have partition := sound.tracks.partition
  refine ⟨sound.forgotten_nowhere, partition, ?_, ?_, sound.tracks.counted,
    sound.delivered, sound.replayed, sound.arrived⟩
  · have lengths := partition.length_eq
    rw [List.length_append, List.length_range] at lengths
    exact lengths
  · intro exited payload submitted piece inChunks
    have member : piece ∈ transfer.pieces :=
      List.mem_flatMap.mpr ⟨payload, submitted, inChunks⟩
    obtain ⟨seq, placed⟩ := List.getElem?_of_mem member
    have seqLt : seq < transfer.sender.nextSeq := by
      rw [sound.tracks.counted]
      exact (List.getElem?_eq_some_iff.mp placed).1
    obtain ⟨found, foundPlaced, inFlight | handedOver⟩ := sound.forgotten_nowhere seq seqLt
    · -- after the shutdown test nothing is in flight
      obtain ⟨entry, isStored, _⟩ := inFlight
      have key := (AssocMap.mem_keys_iff_lookup _ seq).mpr ⟨entry, isStored⟩
      rw [sound.drained exited] at key
      cases key
    · rw [placed] at foundPlaced
      cases foundPlaced
      exact ⟨seq, handedOver⟩

/-- A pass of the run loop at a fixed clock in which the kernel takes one
datagram. -/
def passAt (event : RunEvent) : Iteration :=
  { event := event, tsUs := fun _ => 0, eventNow := 0, refillNow := 0, batchNow := 0,
    accepted := 1 }

def sentRun : Transfer :=
  (initial 7 0).iterate (passAt (.command (.sendChunk [1, 2, 3])))

def deliveredRun : Transfer :=
  (sentRun.deliver 0 (dataDatagram 7 0 0 [1, 2, 3])).heartbeat 0

/-- One chunk is sent, delivered and acknowledged, then the sender is told to
stop. -/
def acknowledgedRun : Transfer :=
  (deliveredRun.iterate
    (passAt (.sack ((SackManager.new 0).onPacketReceived 0).payload))).iterate
      (passAt (.command .shutdown))

theorem reachable_acknowledgedRun : Reachable 7 (fun _ => 0) 0 acknowledgedRun := by
  have sent : Reachable 7 (fun _ => 0) 0 sentRun :=
    .single (.iterate _ _ rfl rfl (fun _ impossible => by cases impossible))
  have delivered : Reachable 7 (fun _ => 0) 0 deliveredRun :=
    (sent.tail (.processDatagram _ _ _ (by decide +kernel))).tail (.heartbeat _ _)
  refine (delivered.tail (.iterate _ _ rfl rfl ?_)).tail
    (.iterate _ _ (by decide +kernel) rfl (fun _ impossible => by cases impossible))
  intro sack same
  cases same
  decide +kernel

theorem reachable_forgets_nothing_acknowledgedRun :
    acknowledgedRun.exited = true ∧ acknowledgedRun.acked = [0] ∧
      ∃ seq, (seq, [1, 2, 3]) ∈ acknowledgedRun.handed := by
  have exited : acknowledgedRun.exited = true := by decide +kernel
  have bounded : acknowledgedRun.pieces.length < 2 ^ 64 - 1 := by decide +kernel
  have drained := (reachable_forgets_nothing 7 (fun _ => 0) 0 acknowledgedRun
    reachable_acknowledgedRun bounded).2.2.2.1
  exact ⟨exited, by decide +kernel,
    drained exited [1, 2, 3] (by decide +kernel) [1, 2, 3] (by decide +kernel)⟩

end Transfer

end Udpix.Protocol

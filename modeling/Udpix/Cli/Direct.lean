/-
Direct mode: the command-line sender frames each block with its length and
blasts the pieces; the receiver puts the blocks together again.

Clock readings are arguments.  On the receiving side one pass of the inner loop
is a decoder of the accumulated bytes.  A prefix so large that the end of its
block overflows a `usize` makes the task panic, in a checked build at the
addition and otherwise at the slice; the task's join handle is dropped, so the
writer only sees the channel close.
-/

import Udpix.Library.StreamDecoder
import Udpix.Protocol.Receiver
import Udpix.Protocol.Sender

namespace Udpix.Cli

open Chunks LittleEndian StreamDecoder Protocol

/-! ### Sending -/

structure DirectSend where
  seq : Nat
  bytesSent : Nat
  packets : List Bytes

namespace DirectSend

def start : DirectSend := { seq := 0, bytesSent := 0, packets := [] }

/-- The block behind its 8-byte length. -/
def frame (data : Bytes) : Bytes := toLeBytes 8 data.length ++ data

def directDatagram (seq : Nat) (tsUs : UInt64) (chunk : Bytes) : Bytes :=
  datagram (RudpHeader.newData 1 (UInt64.ofNat seq) tsUs (UInt16.ofNat chunk.length)) chunk

def sendPiece (tsUs : Nat → UInt64) (state : DirectSend) (chunk : Bytes) : DirectSend :=
  { seq := state.seq + 1
    bytesSent := state.bytesSent + chunk.length
    packets := state.packets ++ [directDatagram state.seq (tsUs state.seq) chunk] }

def sendBlock (tsUs : Nat → UInt64) (state : DirectSend) (data : Bytes) : DirectSend :=
  (chunks MAX_PAYLOAD (frame data)).foldl (sendPiece tsUs) state

def sendCommands (tsUs : Nat → UInt64) : DirectSend → List SenderCommand → DirectSend
  | state, [] => state
  | state, .sendChunk data :: rest => sendCommands tsUs (sendBlock tsUs state data) rest
  | state, .shutdown :: _ => state

/-- The packet that ends the session; the code sends it five times. -/
def finDatagram (seq : Nat) (tsUs : UInt64) : Bytes :=
  (RudpHeader.newFin 1 (UInt64.ofNat seq) tsUs).writeTo (List.replicate RudpHeader.SIZE 0)

end DirectSend

open DirectSend

def directPackets (tsUs : Nat → UInt64) (blocks : List Bytes) : List Bytes :=
  (sendCommands tsUs start (blocks.map .sendChunk)).packets

/-! ### Receiving -/

/-- The receive task on arriving packets, up to the first FIN. -/
def receivePackets : Receiver → List (UInt64 × Bytes) → Receiver
  | receiver, [] => receiver
  | receiver, (nowUs, packet) :: rest =>
      match receiver.processDatagram nowUs packet with
      | (next, some true) => next
      | (next, _) => receivePackets next rest

def lengthPrefix (accum : Bytes) : Nat := fromLeBytes (accum.take 8)

def lengthOverflows (accum : Bytes) : Bool :=
  decide (8 ≤ accum.length) && decide (2 ^ 64 ≤ 8 + lengthPrefix accum)

/-- One pass of the inner loop: the block it sends and the bytes it keeps. -/
def nextBlock (accum : Bytes) : Option (Bytes × Bytes) :=
  if accum.length < 8 then none
  else if 2 ^ 64 ≤ 8 + lengthPrefix accum then none
  else if accum.length < 8 + lengthPrefix accum then none
  else some ((accum.drop 8).take (lengthPrefix accum), accum.drop (8 + lengthPrefix accum))

structure Reassembler where
  accum : Bytes
  sent : List Bytes
  panicked : Bool
deriving DecidableEq

namespace Reassembler

def start : Reassembler := { accum := [], sent := [], panicked := false }

def receiveChunk (state : Reassembler) (chunk : Bytes) : Reassembler :=
  if state.panicked then state
  else
    let (blocks, left) := extract nextBlock (state.accum ++ chunk)
    { accum := left
      sent := state.sent ++ blocks
      panicked := lengthOverflows left }

def run (chunks : List Bytes) : Reassembler := chunks.foldl receiveChunk start

end Reassembler

/-! ### The stream of datagrams -/

def framedPieces (blocks : List Bytes) : List Bytes :=
  blocks.flatMap (fun block => chunks MAX_PAYLOAD (frame block))

theorem sendCommands_eq_foldl (tsUs : Nat → UInt64) (state : DirectSend) (blocks : List Bytes) :
    sendCommands tsUs state (blocks.map .sendChunk) =
      (framedPieces blocks).foldl (sendPiece tsUs) state := by
  unfold framedPieces
  induction blocks generalizing state with
  | nil => rfl
  | cons block rest ih =>
      rw [List.map_cons, List.flatMap_cons, List.foldl_append]
      exact ih (sendBlock tsUs state block)

theorem foldl_sendPiece_packets (tsUs : Nat → UInt64) (pieces : List Bytes)
    (state : DirectSend) :
    (pieces.foldl (sendPiece tsUs) state).packets =
      state.packets ++ (pieces.zipIdx state.seq).map
        (fun piece => directDatagram piece.2 (tsUs piece.2) piece.1) := by
  induction pieces generalizing state with
  | nil => exact (List.append_nil _).symm
  | cons piece rest ih =>
      rw [List.foldl_cons, ih, List.zipIdx_cons, List.map_cons]
      change (state.packets ++ [_]) ++ _ = _
      rw [List.append_assoc]
      rfl

theorem directPackets_eq (tsUs : Nat → UInt64) (blocks : List Bytes) :
    directPackets tsUs blocks = (framedPieces blocks).zipIdx.map
      (fun piece => directDatagram piece.2 (tsUs piece.2) piece.1) := by
  unfold directPackets
  rw [sendCommands_eq_foldl, foldl_sendPiece_packets]
  rfl

theorem length_framedPieces (blocks : List Bytes) (piece : Bytes)
    (member : piece ∈ framedPieces blocks) : 0 < piece.length ∧ piece.length ≤ MAX_PAYLOAD := by
  obtain ⟨block, _, inChunks⟩ := List.mem_flatMap.mp member
  exact length_of_mem_chunks MAX_PAYLOAD MAX_PAYLOAD_pos _ piece inChunks

theorem flatten_framedPieces (blocks : List Bytes) :
    (framedPieces blocks).flatten = blocks.flatMap frame := by
  unfold framedPieces
  induction blocks with
  | nil => rfl
  | cons block rest ih =>
      rw [List.flatMap_cons, List.flatten_append, ih, List.flatMap_cons,
        flatten_chunks MAX_PAYLOAD MAX_PAYLOAD_pos]

theorem receivePackets_data (receiver : Receiver) (session : receiver.sessionId = 1)
    (arrivals : List (UInt64 × Bytes)) (pieces : List (Bytes × Nat)) (tsUs : Nat → UInt64)
    (short : ∀ piece, piece ∈ pieces → piece.1.length ≤ MAX_PAYLOAD)
    (arrived : arrivals.map Prod.snd =
      pieces.map (fun piece => directDatagram piece.2 (tsUs piece.2) piece.1))
    (after : List (UInt64 × Bytes)) :
    ∃ accepted : Receiver, accepted.sessionId = 1 ∧
      accepted.dataTx = receiver.dataTx ++ pieces.map Prod.fst ∧
      receivePackets receiver (arrivals ++ after) = receivePackets accepted after := by
  induction pieces generalizing receiver arrivals with
  | nil =>
      rw [List.map_nil, List.map_eq_nil_iff] at arrived
      rw [arrived]
      exact ⟨receiver, session, (List.append_nil _).symm, rfl⟩
  | cons piece rest ih =>
      cases arrivals with
      | nil => cases arrived
      | cons arrival arrivals =>
          obtain ⟨nowUs, packet⟩ := arrival
          obtain ⟨isPacket, others⟩ := List.cons.inj arrived
          change packet = _ at isPacket
          have pieceShort := short piece List.mem_cons_self
          have accepts := receiver.processDatagram_data nowUs (tsUs piece.2)
            (UInt64.ofNat piece.2) piece.1 (by unfold MAX_PAYLOAD at pieceShort; omega)
          rw [session] at accepts
          obtain ⟨accepted, acceptedSession, delivered, continues⟩ :=
            ih (receiver.acceptData (UInt64.ofNat piece.2).toNat piece.1) session arrivals
              (fun other member => short other (List.mem_cons_of_mem _ member)) others
          refine ⟨accepted, acceptedSession, ?_, ?_⟩
          · rw [delivered]
            change (receiver.dataTx ++ [piece.1]) ++ _ = _
            rw [List.append_assoc]
            rfl
          · rw [isPacket, ← continues, List.cons_append, receivePackets]
            unfold directDatagram
            rw [accepts]

/-! ### Blocks out of the stream -/

theorem lengthPrefix_append {accum : Bytes} (long : 8 ≤ accum.length) (more : Bytes) :
    lengthPrefix (accum ++ more) = lengthPrefix accum := by
  rw [lengthPrefix, lengthPrefix, List.take_append_of_le_length long]

theorem steady_nextBlock : Steady nextBlock where
  shrinks := by
    intro accum block rest found
    unfold nextBlock at found
    split at found
    · cases found
    · split at found
      · cases found
      · split at found
        · cases found
        · cases found
          rw [List.length_drop]
          omega
  keeps := by
    intro accum block rest more found
    unfold nextBlock at found
    split at found
    · cases found
    · rename_i longEnough
      split at found
      · cases found
      · rename_i noOverflow
        split at found
        · cases found
        · rename_i complete
          cases found
          unfold nextBlock
          rw [lengthPrefix_append (Nat.le_of_not_lt longEnough), List.length_append,
            if_neg (by omega), if_neg noOverflow, if_neg (by omega),
            List.drop_append_of_le_length (by omega),
            List.take_append_of_le_length (by rw [List.length_drop]; omega),
            List.drop_append_of_le_length (by omega)]

theorem lengthOverflows_iff (accum : Bytes) :
    lengthOverflows accum = true ↔ 8 ≤ accum.length ∧ 2 ^ 64 ≤ 8 + lengthPrefix accum := by
  rw [lengthOverflows, Bool.and_eq_true, decide_eq_true_iff, decide_eq_true_iff]

theorem lengthOverflows_append {accum : Bytes} (overflows : lengthOverflows accum = true)
    (more : Bytes) : lengthOverflows (accum ++ more) = true := by
  obtain ⟨long, large⟩ := (lengthOverflows_iff accum).mp overflows
  rw [lengthOverflows_iff, lengthPrefix_append long, List.length_append]
  exact ⟨Nat.le_trans long (Nat.le_add_right _ _), large⟩

theorem nextBlock_of_lengthOverflows {accum : Bytes} (overflows : lengthOverflows accum = true) :
    nextBlock accum = none := by
  obtain ⟨_, large⟩ := (lengthOverflows_iff accum).mp overflows
  unfold nextBlock
  rw [if_pos large]
  split
  · rfl
  · rfl

theorem nextBlock_of_overflow (accum more : Bytes) (overflows : lengthOverflows accum = true) :
    nextBlock (accum ++ more) = none :=
  nextBlock_of_lengthOverflows (lengthOverflows_append overflows more)

theorem nextBlock_frame (block rest : Bytes) (fits : block.length + 8 < 2 ^ 64) :
    nextBlock (frame block ++ rest) = some (block, rest) := by
  have prefixLength : (toLeBytes 8 block.length).length = 8 := toLeBytes_length _ _
  have prefixRead : lengthPrefix (frame block ++ rest) = block.length := by
    unfold lengthPrefix frame
    rw [List.append_assoc, List.take_left' prefixLength,
      fromLeBytes_toLeBytes_of_lt 8 block.length (by omega)]
  have frameLength : (frame block ++ rest).length = 8 + block.length + rest.length := by
    unfold frame
    rw [List.length_append, List.length_append, prefixLength]
  unfold nextBlock
  rw [prefixRead, frameLength, if_neg (by omega), if_neg (by omega), if_neg (by omega)]
  unfold frame
  rw [List.append_assoc, List.drop_left' prefixLength, List.take_left, ← List.append_assoc,
    List.drop_left' (by rw [List.length_append, prefixLength])]

theorem extract_frames (blocks : List Bytes)
    (fits : ∀ block, block ∈ blocks → block.length + 8 < 2 ^ 64) :
    extract nextBlock (blocks.flatMap frame) = (blocks, []) := by
  induction blocks with
  | nil => rfl
  | cons block rest ih =>
      have found := nextBlock_frame block (rest.flatMap frame) (fits block List.mem_cons_self)
      rw [List.flatMap_cons, steady_nextBlock.extract_of_some found,
        ih (fun other member => fits other (List.mem_cons_of_mem _ member))]

/-- The task's state after some chunks is determined by their concatenation. -/
theorem Reassembler.run_spec (chunks : List Bytes) :
    (run chunks).sent = (extract nextBlock chunks.flatten).1 ∧
      (run chunks).panicked = lengthOverflows (extract nextBlock chunks.flatten).2 ∧
      ((run chunks).panicked = false →
        (run chunks).accum = (extract nextBlock chunks.flatten).2) := by
  induction chunks using List.reverseRecOn with
  | nil => exact ⟨rfl, rfl, fun _ => rfl⟩
  | append_singleton chunks chunk ih =>
      obtain ⟨sent, panicked, accum⟩ := ih
      have step : run (chunks ++ [chunk]) = receiveChunk (run chunks) chunk := by
        unfold run
        rw [List.foldl_append]
        rfl
      rw [step, List.flatten_append, List.flatten_singleton, steady_nextBlock.extract_append]
      unfold receiveChunk
      cases stopped : (run chunks).panicked with
      | true =>
          -- the bytes that made the task panic would never decode
          rw [stopped] at panicked
          have waits := nextBlock_of_overflow (extract nextBlock chunks.flatten).2 chunk
            panicked.symm
          rw [extract_of_none waits, if_pos rfl, List.append_nil]
          refine ⟨sent, ?_, fun running => by rw [stopped] at running; cases running⟩
          rw [stopped]
          exact (lengthOverflows_append panicked.symm chunk).symm
      | false =>
          rw [if_neg Bool.false_ne_true, accum stopped, sent]
          exact ⟨rfl, rfl, fun _ => rfl⟩

theorem Reassembler.run_frames (blocks : List Bytes)
    (fits : ∀ block, block ∈ blocks → block.length + 8 < 2 ^ 64) (chunks : List Bytes)
    (cut : chunks.flatten = blocks.flatMap frame) :
    run chunks = { accum := [], sent := blocks, panicked := false } := by
  obtain ⟨sent, panicked, accum⟩ := run_spec chunks
  rw [cut, extract_frames blocks fits] at sent panicked accum
  have running : (run chunks).panicked = false := panicked
  obtain ⟨accumEq, sentEq⟩ := And.intro (accum running) sent
  cases state : run chunks with
  | mk left delivered stopped =>
      rw [state] at running accumEq sentEq
      cases running
      cases accumEq
      cases sentEq
      rfl

/-- A beginning of the stream yields a beginning of the blocks. -/
theorem Reassembler.run_prefix (blocks : List Bytes)
    (fits : ∀ block, block ∈ blocks → block.length + 8 < 2 ^ 64) (chunks : List Bytes)
    (begins : chunks.flatten <+: blocks.flatMap frame) :
    (run chunks).sent <+: blocks ∧ (run chunks).panicked = false := by
  obtain ⟨sent, panicked, _⟩ := run_spec chunks
  have whole := extract_frames blocks fits
  constructor
  · rw [sent]
    have delivered := steady_nextBlock.extract_prefix begins
    rw [whole] at delivered
    exact delivered
  · rw [panicked]
    obtain ⟨more, joined⟩ := begins
    rw [← joined, steady_nextBlock.extract_append] at whole
    cases overflows : lengthOverflows (extract nextBlock chunks.flatten).2 with
    | false => rfl
    | true =>
        have waits := nextBlock_of_overflow _ more overflows
        rw [extract_of_none waits] at whole
        have nothingLeft := List.append_eq_nil_iff.mp (Prod.mk.inj whole).2
        rw [nothingLeft.1] at overflows
        cases overflows

/-! ### From packets to blocks -/

theorem readFrom_directDatagram (seq : Nat) (tsUs : UInt64) (chunk : Bytes)
    (short : chunk.length ≤ MAX_PAYLOAD) :
    ∃ header, RudpHeader.readFrom (directDatagram seq tsUs chunk) = some header ∧
      header.sequenceNumber.toNat = seq % 2 ^ 64 ∧
      header.payloadLen.toNat = chunk.length ∧
      (directDatagram seq tsUs chunk).drop RudpHeader.SIZE = chunk := by
  unfold directDatagram
  rw [datagram_eq, RudpHeader.readFrom_toBytes_append,
    List.drop_left' (RudpHeader.toBytes_length _)]
  refine ⟨_, rfl, UInt64.toNat_ofNat', ?_, rfl⟩
  apply UInt16.toNat_ofNat_of_lt'
  change chunk.length < 65536
  unfold MAX_PAYLOAD at short
  omega

theorem dataTx_of_inOrder (tsUs : Nat → UInt64) (blocks : List Bytes)
    (arrivals after : List (UInt64 × Bytes))
    (inOrder : arrivals.map Prod.snd <+: directPackets tsUs blocks) :
    ∃ accepted : Receiver, accepted.sessionId = 1 ∧
      accepted.dataTx = (framedPieces blocks).take arrivals.length ∧
      receivePackets (Receiver.new 1 0) (arrivals ++ after) = receivePackets accepted after := by
  have arrived : arrivals.map Prod.snd =
      ((framedPieces blocks).zipIdx.take arrivals.length).map
        (fun piece => directDatagram piece.2 (tsUs piece.2) piece.1) := by
    rw [List.map_take, ← directPackets_eq, List.prefix_iff_eq_take.mp inOrder,
      List.length_map]
  have short : ∀ piece, piece ∈ (framedPieces blocks).zipIdx.take arrivals.length →
      piece.1.length ≤ MAX_PAYLOAD := by
    intro piece member
    exact (length_framedPieces blocks piece.1
      (List.fst_mem_of_mem_zipIdx (List.mem_of_mem_take member))).2
  obtain ⟨accepted, session, delivered, continues⟩ :=
    receivePackets_data (Receiver.new 1 0) rfl arrivals _ tsUs short arrived after
  refine ⟨accepted, session, ?_, continues⟩
  rw [delivered, List.map_take, List.zipIdx_map_fst]
  exact List.nil_append _

/-- Framing is lossless.  The packets are numbered from zero and carry between 1
and 1443 bytes; received in order they give the blocks back with nothing left
over.  Any other division of the same bytes gives the same blocks, and any
beginning of the bytes gives a beginning of the blocks. -/
theorem direct_framing_lossless (tsUs : Nat → UInt64) (blocks : List Bytes)
    (fits : ∀ block, block ∈ blocks → block.length + 8 < 2 ^ 64)
    (arrivals : List (UInt64 × Bytes))
    (inOrder : arrivals.map Prod.snd = directPackets tsUs blocks) :
    (∀ index packet, (directPackets tsUs blocks)[index]? = some packet →
      ∃ header, RudpHeader.readFrom packet = some header ∧
        header.sequenceNumber.toNat = index % 2 ^ 64 ∧
        header.payloadLen.toNat = (packet.drop RudpHeader.SIZE).length ∧
        1 ≤ (packet.drop RudpHeader.SIZE).length ∧
        (packet.drop RudpHeader.SIZE).length ≤ 1443) ∧
    Reassembler.run (receivePackets (Receiver.new 1 0) arrivals).dataTx =
      { accum := [], sent := blocks, panicked := false } ∧
    (∀ chunks : List Bytes, chunks.flatten = blocks.flatMap frame →
      Reassembler.run chunks = { accum := [], sent := blocks, panicked := false }) ∧
    (∀ chunks : List Bytes, chunks.flatten <+: blocks.flatMap frame →
      (Reassembler.run chunks).sent <+: blocks ∧
        (Reassembler.run chunks).panicked = false) := by
  refine ⟨?_, ?_, Reassembler.run_frames blocks fits, Reassembler.run_prefix blocks fits⟩
  · intro index packet placed
    rw [directPackets_eq, List.getElem?_map, List.getElem?_zipIdx, Option.map_map,
      Option.map_eq_some_iff] at placed
    obtain ⟨piece, isPiece, built⟩ := placed
    obtain ⟨positive, short⟩ :=
      length_framedPieces blocks piece (List.mem_of_getElem? isPiece)
    change directDatagram (0 + index) (tsUs (0 + index)) piece = packet at built
    rw [Nat.zero_add] at built
    obtain ⟨header, headerRead, number, lengthRead, payload⟩ :=
      readFrom_directDatagram index (tsUs index) piece short
    rw [built] at headerRead payload
    rw [payload]
    exact ⟨header, headerRead, number, lengthRead, positive, short⟩
  · have count : (framedPieces blocks).length = arrivals.length := by
      have lengths := congrArg List.length inOrder
      rw [directPackets_eq, List.length_map, List.length_map, List.length_zipIdx] at lengths
      exact lengths.symm
    obtain ⟨accepted, _, delivered, continues⟩ :=
      dataTx_of_inOrder tsUs blocks arrivals [] (inOrder ▸ List.prefix_refl _)
    rw [List.append_nil] at continues
    rw [continues]
    change Reassembler.run accepted.dataTx = _
    rw [delivered, ← count, List.take_length]
    exact Reassembler.run_frames blocks fits _ (flatten_framedPieces blocks)

/-- A short block, an empty one, and a stream cut inside a length prefix. -/
theorem direct_framing_lossless_short :
    Reassembler.run (receivePackets (Receiver.new 1 0)
        ((directPackets (fun _ => 0) [[1, 2, 3], []]).map (fun packet => (0, packet)))).dataTx =
      { accum := [], sent := [[1, 2, 3], []], panicked := false } ∧
    Reassembler.run [[3, 0, 0], [], [0, 0, 0, 0, 0, 1, 2], [3, 0, 0, 0, 0, 0, 0, 0, 0]] =
      { accum := [], sent := [[1, 2, 3], []], panicked := false } := by
  obtain ⟨_, received, cut, _⟩ := direct_framing_lossless (fun _ => 0) [[1, 2, 3], []]
    (by decide)
    ((directPackets (fun _ => 0) [[1, 2, 3], []]).map (fun packet => (0, packet)))
    (by rw [List.map_map]; exact List.map_id _)
  exact ⟨received, cut _ (by decide)⟩

end Udpix.Cli

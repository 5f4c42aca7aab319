/-
From payloads to datagrams and back.

`enqueue_data` cuts a payload into pieces and gives each the next number.  Every
piece fits one receive slot, a receiver of the session takes its datagram as
DATA with that number, and the pieces in the order of their numbers are the
payloads.
-/

import Udpix.Protocol.Receiver
import Udpix.Protocol.SenderRuns

namespace Udpix.Protocol

namespace Sender

structure SendCall where
  tsUs : Nat → UInt64
  now : Instant
  payload : Bytes

def enqueueAll (sender : Sender) (calls : List SendCall) : Sender :=
  calls.foldl (fun current call => current.enqueueData call.tsUs call.now call.payload) sender

def segments (calls : List SendCall) : List Bytes :=
  calls.flatMap (fun call => Chunks.chunks MAX_PAYLOAD call.payload)

theorem extends_enqueueAll (sender : Sender) (calls : List SendCall) :
    Extends sender (sender.enqueueAll calls) (segments calls) := by
  induction calls generalizing sender with
  | nil => exact Extends.refl sender
  | cons call rest ih =>
      have first := extends_enqueueData sender call.tsUs call.now call.payload
      exact first.trans (ih (sender.enqueueData call.tsUs call.now call.payload))

theorem flatten_segments (calls : List SendCall) :
    (segments calls).flatten = (calls.map SendCall.payload).flatten := by
  induction calls with
  | nil => rfl
  | cons call rest ih =>
      rw [segments, List.flatMap_cons, List.flatten_append, ← segments, ih, List.map_cons,
        List.flatten_cons, Chunks.flatten_chunks MAX_PAYLOAD MAX_PAYLOAD_pos]

theorem length_of_mem_segments {calls : List SendCall} {chunk : Bytes}
    (member : chunk ∈ segments calls) : 0 < chunk.length ∧ chunk.length ≤ MAX_PAYLOAD := by
  obtain ⟨call, _, isPiece⟩ := List.mem_flatMap.mp member
  exact Chunks.length_of_mem_chunks MAX_PAYLOAD MAX_PAYLOAD_pos call.payload chunk isPiece

theorem length_dataDatagram (sessionId : UInt32) (seq : Nat) (tsUs : UInt64) (chunk : Bytes) :
    (dataDatagram sessionId seq tsUs chunk).length = 29 + chunk.length := by
  rw [dataDatagram, datagram_eq, List.length_append, RudpHeader.toBytes_length, RudpHeader.SIZE]

theorem processDatagram_dataDatagram (receiver : Receiver) (nowUs : UInt64) {seq : Nat}
    (tsUs : UInt64) {chunk : Bytes} (numbered : seq < 2 ^ 64)
    (short : chunk.length ≤ MAX_PAYLOAD) :
    receiver.processDatagram nowUs (dataDatagram receiver.sessionId seq tsUs chunk) =
      (receiver.acceptData seq chunk, some false) := by
  have taken := receiver.processDatagram_data nowUs tsUs (UInt64.ofNat seq) chunk (by
    rw [MAX_PAYLOAD] at short
    omega)
  rw [UInt64.toNat_ofNat_of_lt' numbered] at taken
  exact taken

/-- What the calls of `enqueue_data` add to a sender, and what a receiver makes
of it.  `acceptData` hands exactly the chunk to the application and the number
to the bitmap. -/
structure SegmentsFaithfully (sender after : Sender) (payloads : List Bytes) : Prop where
  newKeys : ∀ seq, (seq ∈ after.inFlight.keys ∧ seq ∉ sender.inFlight.keys) ↔
    (sender.nextSeq ≤ seq ∧ seq < after.nextSeq)
  olderKept : ∀ seq, seq ∈ sender.inFlight.keys →
    after.inFlight.lookup seq = sender.inFlight.lookup seq
  delivered : ∃ chunks : List Bytes, sender.nextSeq + chunks.length = after.nextSeq ∧
    chunks.flatten = payloads.flatten ∧
    ∀ index chunk, chunks[index]? = some chunk → ∃ entry,
      after.inFlight.lookup (sender.nextSeq + index) = some entry ∧
      30 ≤ entry.datagram.length ∧ entry.datagram.length ≤ 1472 ∧
      ∀ (receiver : Receiver) (nowUs : UInt64), receiver.sessionId = sender.sessionId →
        receiver.processDatagram nowUs entry.datagram =
          (receiver.acceptData (sender.nextSeq + index) chunk, some false)

theorem enqueueAll_segments_faithfully (sender : Sender) (reachable : sender.Reachable)
    (calls : List SendCall) (counted : sender.nextSeq + (segments calls).length < 2 ^ 64) :
    SegmentsFaithfully sender (sender.enqueueAll calls) (calls.map SendCall.payload) := by
  have extended := extends_enqueueAll sender calls
  have below := reachable.keysBelow
  constructor
  case newKeys =>
    intro seq
    rw [extended.mem_keys_iff]
    constructor
    · rintro ⟨older | inside, fresh⟩
      · exact absurd older fresh
      · exact inside
    · intro inside
      refine ⟨.inr inside, fun older => ?_⟩
      exact Nat.not_lt.mpr inside.1 (below seq older)
  case olderKept =>
    intro seq older
    exact extended.outside seq (.inl (below seq older))
  case delivered =>
    refine ⟨segments calls, extended.nextSeq.symm, flatten_segments calls, ?_⟩
    intro index chunk placed
    obtain ⟨entry, tsUs, stored, _, built⟩ := extended.built index chunk placed
    obtain ⟨nonempty, short⟩ := length_of_mem_segments (List.mem_of_getElem? placed)
    obtain ⟨inside, _⟩ := List.getElem?_eq_some_iff.mp placed
    have size := length_dataDatagram sender.sessionId (sender.nextSeq + index) tsUs chunk
    rw [← built] at size
    have limit : chunk.length ≤ 1443 := short
    refine ⟨entry, stored, by omega, by omega, ?_⟩
    intro receiver nowUs sameSession
    rw [built, ← sameSession]
    exact processDatagram_dataDatagram receiver nowUs tsUs (by omega) short

/-- A packet is in flight, and two payloads follow, the first of which is cut in
three. -/
theorem enqueueAll_segments_faithfully_threePieces :
    SegmentsFaithfully ((new 7 0).enqueueData (fun _ => 4) 0 [9])
      (((new 7 0).enqueueData (fun _ => 4) 0 [9]).enqueueAll
        [⟨fun _ => 5, 1, List.replicate 3000 8⟩, ⟨fun _ => 6, 2, [1, 2, 3]⟩])
      [List.replicate 3000 8, [1, 2, 3]] := by
  have reachable : ((new 7 0).enqueueData (fun _ => 4) 0 [9]).Reachable :=
    ⟨7, 0, [.enqueueData (fun _ => 4) 0 [9]], ⟨trivial, trivial⟩, rfl⟩
  exact enqueueAll_segments_faithfully _ reachable
    [⟨fun _ => 5, 1, List.replicate 3000 8⟩, ⟨fun _ => 6, 2, [1, 2, 3]⟩] (by decide +kernel)

end Sender

end Udpix.Protocol

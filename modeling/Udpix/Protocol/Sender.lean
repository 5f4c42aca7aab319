/-
The send-side task of one session.

The in-flight map keeps every datagram until an acknowledgement removes it.
The order of its entries stands for the iteration order of the hash map, which
the code leaves open.  Clock readings and the result of the system call are
arguments of the functions that use them.
-/

import Udpix.Library.AssocMap
import Udpix.Library.Chunks
import Udpix.Protocol.Congestion
import Udpix.Protocol.Sack

namespace Udpix.Protocol

open Chunks

inductive SenderCommand where
  | sendChunk (payload : Bytes)
  | shutdown
deriving DecidableEq

structure InFlightEntry where
  datagram : Bytes
  lastSent : Instant
  nakCount : Nat
deriving DecidableEq

def BATCH_SIZE : Nat := 64

def MAX_PAYLOAD : Nat := 1443

theorem MAX_PAYLOAD_pos : 0 < MAX_PAYLOAD := Nat.succ_pos _

structure Sender where
  sessionId : UInt32
  urgentRetransmits : List Nat
  normalRetransmits : List Nat
  inFlight : AssocMap Nat InFlightEntry
  nextSeq : Nat
  pacer : TokenBucket
  profiler : BandwidthProfiler
  stats : SessionStats

namespace Sender

def new (sessionId : UInt32) (now : Instant) : Sender :=
  { sessionId := sessionId
    urgentRetransmits := []
    normalRetransmits := []
    inFlight := ∅
    nextSeq := 0
    pacer := TokenBucket.new now 10000000
    profiler := BandwidthProfiler.new now
    stats := SessionStats.new }

/-! ### Acknowledgements -/

def isAcked (sack : SackPayload) (seq : Nat) : Bool :=
  decide (seq < sack.baseSeq) || sack.isReceived seq

def ackedSeqs (sender : Sender) (sack : SackPayload) : List Nat :=
  sender.inFlight.keys.filter (isAcked sack)

/-- What the removal loop has changed so far. -/
structure Removal where
  inFlight : AssocMap Nat InFlightEntry
  totalAckedBytes : Nat
  packetsAcked : Nat

def removeSeq (removal : Removal) (seq : Nat) : Removal :=
  match removal.inFlight.lookup seq with
  | some entry =>
      { inFlight := removal.inFlight.erase seq
        totalAckedBytes := removal.totalAckedBytes + entry.datagram.length
        packetsAcked := removal.packetsAcked + 1 }
  | none => removal

def removeAcked (sender : Sender) (sack : SackPayload) : Removal :=
  (sender.ackedSeqs sack).foldl removeSeq
    { inFlight := sender.inFlight
      totalAckedBytes := 0
      packetsAcked := sender.stats.packetsAcked }

inductive RetransmitQueue where
  | urgent
  | normal
deriving DecidableEq

/-- One round of the gap loop: the entry with its new counter, and the queue
its number is pushed to. -/
def nakEntry (sack : SackPayload) (seq : Nat) (entry : InFlightEntry) :
    InFlightEntry × Option RetransmitQueue :=
  if sack.baseSeq ≤ seq ∧ sack.isReceived seq = false then
    if 2 ≤ entry.nakCount + 1 then ({ entry with nakCount := 0 }, some .urgent)
    else ({ entry with nakCount := entry.nakCount + 1 }, some .normal)
  else (entry, none)

/-- The numbers the gap loop pushes to one queue, in iteration order. -/
def nakPushes (queue : RetransmitQueue) (sack : SackPayload)
    (inFlight : AssocMap Nat InFlightEntry) : List Nat :=
  (inFlight.entries.filter
    (fun entry => (nakEntry sack entry.1 entry.2).2 = some queue)).map Sigma.fst

/-- Handle one SACK.  The rate that `on_bytes_acked` returns is discarded, as
in the code. -/
def processSack (sender : Sender) (now : Instant) (sack : SackPayload) : Sender :=
  let removal := sender.removeAcked sack
  { sender with
    inFlight := removal.inFlight.mapValues (fun seq entry => (nakEntry sack seq entry).1)
    urgentRetransmits :=
      sender.urgentRetransmits ++ nakPushes .urgent sack removal.inFlight
    normalRetransmits :=
      sender.normalRetransmits ++ nakPushes .normal sack removal.inFlight
    profiler := (sender.profiler.onBytesAcked now removal.totalAckedBytes).1
    stats :=
      { sender.stats with
        packetsAcked := removal.packetsAcked
        bytesAcked := sender.stats.bytesAcked + removal.totalAckedBytes } }

/-! ### New data -/

def dataDatagram (sessionId : UInt32) (seq : Nat) (tsUs : UInt64) (chunk : Bytes) : Bytes :=
  datagram
    (RudpHeader.newData sessionId (UInt64.ofNat seq) tsUs (UInt16.ofNat chunk.length)) chunk

/-- Give one piece the next number and store its datagram, marked unsent. -/
def enqueueChunk (tsUs : Nat → UInt64) (now : Instant) (sender : Sender) (chunk : Bytes) :
    Sender :=
  { sender with
    inFlight := sender.inFlight.insert sender.nextSeq
      { datagram := dataDatagram sender.sessionId sender.nextSeq (tsUs sender.nextSeq) chunk
        lastSent := now - Duration.fromSecs 1
        nakCount := 0 }
    nextSeq := sender.nextSeq + 1 }

/-- `tsUs` is the wall clock when each number is built into its header. -/
def enqueueData (sender : Sender) (tsUs : Nat → UInt64) (now : Instant) (payload : Bytes) :
    Sender :=
  (chunks MAX_PAYLOAD payload).foldl (enqueueChunk tsUs now) sender

/-! ### Batches -/

/-- The part of the sender that a batch changes while it is assembled. -/
structure BatchState where
  inFlight : AssocMap Nat InFlightEntry
  pacer : TokenBucket
  retransmits : Nat
  batch : List Bytes

/-- Put one stored datagram in the batch, or `none` when tokens ran out. -/
def transmit (now : Instant) (state : BatchState) (seq : Nat) (entry : InFlightEntry) :
    Option BatchState :=
  match state.pacer.tryConsume entry.datagram.length with
  | some pacer => some
      { state with
        pacer := pacer
        batch := state.batch ++ [entry.datagram]
        inFlight := state.inFlight.modify seq
          (fun stored => { stored with lastSent := now }) }
  | none => none

/-- Phases one and two: pop a queue until the batch is full, the queue empty or
the bucket dry.  A number that found no tokens goes to the back of its queue;
one no longer in flight is dropped. -/
def drainQueue (now : Instant) : List Nat → BatchState → BatchState × List Nat
  | [], state => (state, [])
  | seq :: rest, state =>
      if state.batch.length < BATCH_SIZE then
        match state.inFlight.lookup seq with
        | some entry =>
            match transmit now state seq entry with
            | some sent =>
                drainQueue now rest { sent with retransmits := sent.retransmits + 1 }
            | none => (state, rest ++ [seq])
        | none => drainQueue now rest state
      else (state, seq :: rest)

/-- The entries phase three selects: silent for longer than the timeout and not
reported missing. -/
def unsentSeqs (now : Instant) (rto : Duration) (state : BatchState) : List Nat :=
  ((state.inFlight.entries.filter
    (fun entry => rto < Instant.elapsed now entry.2.lastSent ∧ entry.2.nakCount = 0)).map
      Sigma.fst).take (BATCH_SIZE - state.batch.length)

def sendUnsent (now : Instant) : List Nat → BatchState → BatchState
  | [], state => state
  | seq :: rest, state =>
      match state.inFlight.lookup seq with
      | some entry =>
          match transmit now state seq entry with
          | some sent => sendUnsent now rest sent
          | none => state
      | none => sendUnsent now rest state

/-- The three phases, with what is left of both queues. -/
def assembleBatch (sender : Sender) (now : Instant) : BatchState × List Nat × List Nat :=
  let start : BatchState :=
    { inFlight := sender.inFlight
      pacer := sender.pacer
      retransmits := sender.stats.retransmits
      batch := [] }
  let (afterUrgent, urgent) := drainQueue now sender.urgentRetransmits start
  let (afterNormal, normal) := drainQueue now sender.normalRetransmits afterUrgent
  (sendUnsent now (unsentSeqs now sender.stats.rto afterNormal) afterNormal, urgent, normal)

/-- What a transmission and the retransmit counter preserve, the whole assembly
of a batch preserves. -/
structure BatchInvariant (now : Instant) (motive : BatchState → Prop) : Prop where
  transmitted : ∀ state seq entry sent, state.inFlight.lookup seq = some entry →
    transmit now state seq entry = some sent → motive state → motive sent
  counted : ∀ state count, motive state → motive { state with retransmits := count }

theorem BatchInvariant.drainQueue {now : Instant} {motive : BatchState → Prop}
    (rule : BatchInvariant now motive) (queue : List Nat) (state : BatchState)
    (holds : motive state) : motive (drainQueue now queue state).1 := by
  induction queue generalizing state with
  | nil => exact holds
  | cons seq rest ih =>
      unfold Sender.drainQueue
      split
      · cases found : state.inFlight.lookup seq with
        | none => exact ih state holds
        | some entry =>
            dsimp only
            cases granted : transmit now state seq entry with
            | none => exact holds
            | some sent =>
                exact ih _ (rule.counted _ _
                  (rule.transmitted state seq entry sent found granted holds))
      · exact holds

theorem BatchInvariant.sendUnsent {now : Instant} {motive : BatchState → Prop}
    (rule : BatchInvariant now motive) (seqs : List Nat) (state : BatchState)
    (holds : motive state) : motive (sendUnsent now seqs state) := by
  induction seqs generalizing state with
  | nil => exact holds
  | cons seq rest ih =>
      unfold Sender.sendUnsent
      cases found : state.inFlight.lookup seq with
      | none => exact ih state holds
      | some entry =>
          dsimp only
          cases granted : transmit now state seq entry with
          | none => exact holds
          | some sent =>
              exact ih _ (rule.transmitted state seq entry sent found granted holds)

theorem BatchInvariant.assembleBatch {now : Instant} {motive : BatchState → Prop}
    (rule : BatchInvariant now motive) (sender : Sender)
    (start : motive
      { inFlight := sender.inFlight
        pacer := sender.pacer
        retransmits := sender.stats.retransmits
        batch := [] }) :
    motive (sender.assembleBatch now).1 :=
  rule.sendUnsent _ _ (rule.drainQueue _ _ (rule.drainQueue _ _ start))

/-- The datagrams the kernel took.  `accepted` is the result of `sendmmsg`. -/
def acceptedBatch (accepted : Int) (batch : List Bytes) : List Bytes :=
  batch.take accepted.toNat

def sendBatchSendmmsg (accepted : Int) (batch : List Bytes) : Nat :=
  ((acceptedBatch accepted batch).map List.length).sum

/-- Assemble and dispatch one batch.  The second component is what reached the
wire. -/
def sendBatch (sender : Sender) (now : Instant) (accepted : Int) : Sender × List Bytes :=
  let (state, urgent, normal) := sender.assembleBatch now
  let assembled :=
    { sender with
      inFlight := state.inFlight
      pacer := state.pacer
      urgentRetransmits := urgent
      normalRetransmits := normal
      stats := { sender.stats with retransmits := state.retransmits } }
  if state.batch.isEmpty then (assembled, [])
  else
    let totalBytes := sendBatchSendmmsg accepted state.batch
    ({ assembled with
        stats :=
          { assembled.stats with
            bytesSent := assembled.stats.bytesSent + totalBytes
            packetsSent := assembled.stats.packetsSent + state.batch.length }
        profiler := assembled.profiler.onBytesSent totalBytes },
      acceptedBatch accepted state.batch)

/-! ### The run loop -/

inductive RunEvent where
  | probeTick
  | sack (payload : SackPayload)
  | command (cmd : SenderCommand)
deriving DecidableEq

structure Iteration where
  event : RunEvent
  tsUs : Nat → UInt64
  eventNow : Instant
  refillNow : Instant
  batchNow : Instant
  accepted : Int

def handleEvent (sender : Sender) (iteration : Iteration) : Sender :=
  match iteration.event with
  | .probeTick =>
      let (profiler, newRate) := sender.profiler.evaluateProbe iteration.eventNow
      { sender with
        profiler := profiler
        pacer := match newRate with
          | some rate => sender.pacer.setRate rate
          | none => sender.pacer }
  | .sack payload => sender.processSack iteration.eventNow payload
  | .command (.sendChunk payload) =>
      sender.enqueueData iteration.tsUs iteration.eventNow payload
  | .command .shutdown => sender

/-- One pass of the loop body up to the shutdown test. -/
def iterate (sender : Sender) (iteration : Iteration) : Sender × List Bytes :=
  let handled := sender.handleEvent iteration
  let refilled := { handled with pacer := handled.pacer.refill iteration.refillNow }
  refilled.sendBatch iteration.batchNow iteration.accepted

end Sender

end Udpix.Protocol

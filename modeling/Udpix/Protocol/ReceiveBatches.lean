/-
The batches of the receive task and the buffers they go through.

One `recvmmsg` call takes up to sixty-four datagrams out of the socket and writes
each to the front of its slot of the pool, cut to the size of a slot.  The slots
are used again in every call and are never cleared.  A slice outside the pool and
an addition beyond 64 bits would be a panic, and are `none` here.  How many
datagrams a call takes and what the clock says are the kernel's, and heartbeats
may come between any two calls.
-/

import Udpix.Library.Fallible
import Udpix.Library.Slots
import Udpix.Protocol.CheckedReceiver
import Udpix.Protocol.ReceiveLoop

namespace Udpix.Protocol

open Slots

def RECV_BATCH : Nat := 64

def BUF_SIZE : Nat := 1500

def POOL_SIZE : Nat := RECV_BATCH * 4

structure RecvBufferPool where
  storage : Bytes
  complete : storage.length = POOL_SIZE * BUF_SIZE

/-- What a slot takes of a datagram. -/
def cut (datagram : Bytes) : Bytes := datagram.take BUF_SIZE

namespace RecvBufferPool

def new : RecvBufferPool where
  storage := List.replicate (POOL_SIZE * BUF_SIZE) 0
  complete := List.length_replicate

def slotMut (pool : RecvBufferPool) (idx : Nat) : Option Nat :=
  let start := idx * BUF_SIZE
  if start + BUF_SIZE ≤ pool.storage.length then some start else none

def slot (pool : RecvBufferPool) (idx len : Nat) : Option Bytes :=
  let start := idx * BUF_SIZE
  if start + len ≤ pool.storage.length then some ((pool.storage.drop start).take len) else none

theorem holds_cut (pool : RecvBufferPool) {datagrams : List Bytes}
    (few : datagrams.length ≤ POOL_SIZE) :
    Holds BUF_SIZE pool.storage 0 (datagrams.map cut) := by
  refine ⟨?_, ?_⟩
  · intro items member
    obtain ⟨datagram, _, rfl⟩ := List.mem_map.mp member
    exact List.length_take_le BUF_SIZE datagram
  · rw [pool.complete, Nat.zero_add, List.length_map]
    exact Nat.mul_le_mul_right BUF_SIZE few

/-- The kernel's writes: the datagrams to the slots from the first on. -/
def receive (pool : RecvBufferPool) (datagrams : List Bytes)
    (few : datagrams.length ≤ POOL_SIZE) : RecvBufferPool where
  storage := fill BUF_SIZE pool.storage 0 (datagrams.map cut)
  complete := (length_fill (pool.holds_cut few)).trans pool.complete

end RecvBufferPool

/-- What a call leaves: the pool, a pair of slot and length for each datagram, and
the datagrams still in the socket. -/
structure ReceivedBatch where
  pool : RecvBufferPool
  slots : List (Nat × Nat)
  queue : List Bytes

theorem few_taken (queue : List Bytes) (received : Nat) :
    (queue.take (min received (min RECV_BATCH POOL_SIZE))).length ≤ POOL_SIZE := by
  have taken := List.length_take_le (min received (min RECV_BATCH POOL_SIZE)) queue
  omega

def recvBatchRecvmmsg (pool : RecvBufferPool) (queue : List Bytes) (received : Nat) :
    Option ReceivedBatch :=
  let n := min RECV_BATCH POOL_SIZE
  match (List.range n).mapM pool.slotMut with
  | none => none
  | some _ =>
      let taken := queue.take (min received n)
      some
        { pool := pool.receive taken (few_taken queue received)
          slots := taken.zipIdx.map (fun item => (item.2, (cut item.1).length))
          queue := queue.drop (min received n) }

namespace Receiver

/-- The datagrams of one call, copied out of their slots and processed up to and
including a FIN. -/
def recvSlots (pool : RecvBufferPool) (nowUs : Nat → UInt64) :
    Receiver → List (Nat × Nat) → Option (Receiver × Bool)
  | receiver, [] => some (receiver, false)
  | receiver, (slotIdx, nbytes) :: rest =>
      match pool.slot slotIdx nbytes with
      | none => none
      | some owned =>
          match receiver.processDatagramChecked (nowUs slotIdx) owned with
          | none => none
          | some (next, some true) => some (next, true)
          | some (next, _) => recvSlots pool nowUs next rest

end Receiver

/-- The receive task with its pool, and the datagrams in its socket. -/
structure SocketLoop where
  loop : ReceiveLoop
  pool : RecvBufferPool
  queue : List Bytes

inductive SocketEvent where
  | arrives (datagram : Bytes)
  | heartbeat (nowUs : UInt64)
  | readable (received : Nat) (nowUs : Nat → UInt64)

namespace SocketLoop

def start (sessionId : UInt32) (initialSeq : Nat) (pool : RecvBufferPool) : SocketLoop :=
  { loop := ReceiveLoop.start sessionId initialSeq
    pool := pool
    queue := [] }

def recvBatch (state : SocketLoop) (received : Nat) (nowUs : Nat → UInt64) : Option SocketLoop :=
  match recvBatchRecvmmsg state.pool state.queue received with
  | none => none
  | some batch =>
      match Receiver.recvSlots batch.pool nowUs state.loop.receiver batch.slots with
      | none => none
      | some (next, fin) =>
          some
            { loop := { state.loop with receiver := next, finished := fin }
              pool := batch.pool
              queue := batch.queue }

def handle (state : SocketLoop) : SocketEvent → Option SocketLoop
  | .arrives datagram => some { state with queue := state.queue ++ [datagram] }
  | .heartbeat nowUs => some { state with loop := state.loop.handle (.heartbeat nowUs) }
  | .readable received nowUs =>
      if state.loop.finished then some state else state.recvBatch received nowUs

def run (state : SocketLoop) (events : List SocketEvent) : Option SocketLoop :=
  events.foldlM handle state

end SocketLoop

def SocketEvent.arrival : SocketEvent → Option Bytes
  | .arrives datagram => some datagram
  | .heartbeat _ => none
  | .readable _ _ => none

def SocketEvent.ClockFits : SocketEvent → Prop
  | .arrives _ => True
  | .heartbeat _ => True
  | .readable _ nowUs => ∀ slotIdx, Protocol.ClockFits (nowUs slotIdx)

/-- What arrives stays within the 64-bit counters of the session. -/
structure WithinCounters (sessionId : UInt32) (arrived : List Bytes) : Prop where
  few : arrived.length < 2 ^ 64
  numbers : ∀ datagram, datagram ∈ arrived → NumberFits sessionId (cut datagram)

theorem WithinCounters.of_append {sessionId : UInt32}
    {before after : List Bytes} (within : WithinCounters sessionId (before ++ after)) :
    WithinCounters sessionId before where
  few := by
    have few := within.few
    rw [List.length_append] at few
    omega
  numbers := fun datagram member => within.numbers datagram (List.mem_append_left _ member)

/-! ### What one datagram does -/

def delivers (sessionId : UInt32) (buf : Bytes) : Option Bytes :=
  match RudpHeader.readFrom buf with
  | none => none
  | some header =>
      if header.sessionId = sessionId ∧ header.isData = true ∧
          RudpHeader.SIZE + header.payloadLen.toNat ≤ buf.length then
        some (Receiver.declaredPayload header buf)
      else none

/-- The datagram is a FIN of the session and nothing else. -/
def endsSession (sessionId : UInt32) (buf : Bytes) : Bool :=
  match RudpHeader.readFrom buf with
  | none => false
  | some header =>
      decide (header.sessionId = sessionId) && !header.isData && !header.isPing &&
        !header.isPong && header.isFin

namespace Receiver

/-- A handled datagram appends its payload, if it has one. -/
structure Handled (receiver : Receiver) (buf : Bytes) (result : Receiver × Option Bool) :
    Prop where
  session : result.1.sessionId = receiver.sessionId
  dataTx : result.1.dataTx = receiver.dataTx ++ (delivers receiver.sessionId buf).toList
  ends : result.2 = some true ↔ endsSession receiver.sessionId buf = true

theorem handled_of_kept {receiver next : Receiver} {buf : Bytes} {answer : Option Bool}
    (session : next.sessionId = receiver.sessionId) (kept : next.dataTx = receiver.dataTx)
    (nothing : delivers receiver.sessionId buf = none)
    (ends : answer = some true ↔ endsSession receiver.sessionId buf = true) :
    Handled receiver buf (next, answer) := by
  refine ⟨session, ?_, ends⟩
  rw [nothing, Option.toList_none, List.append_nil]
  exact kept

theorem handled_processData (receiver : Receiver) {header : RudpHeader} {buf : Bytes}
    (read : RudpHeader.readFrom buf = some header) (ours : header.sessionId = receiver.sessionId)
    (isData : header.isData = true) : Handled receiver buf (receiver.processData header buf) := by
  have goesOn : endsSession receiver.sessionId buf ≠ true := by
    rw [endsSession, read]
    dsimp only
    rw [isData, Bool.not_true, Bool.and_false, Bool.false_and, Bool.false_and, Bool.false_and]
    exact Bool.false_ne_true
  by_cases short : buf.length < RudpHeader.SIZE + header.payloadLen.toNat
  · have nothing : delivers receiver.sessionId buf = none := by
      rw [delivers, read]
      exact if_neg fun accepted => Nat.not_le.mpr short accepted.2.2
    rw [processData_truncated receiver header buf short]
    exact handled_of_kept rfl rfl nothing (iff_of_false (fun impossible => nomatch impossible)
      goesOn)
  · have payload : delivers receiver.sessionId buf = some (declaredPayload header buf) := by
      rw [delivers, read]
      exact if_pos ⟨ours, isData, Nat.not_lt.mp short⟩
    rw [processData_complete receiver header buf short]
    refine ⟨rfl, ?_, iff_of_false (fun impossible => nomatch impossible) goesOn⟩
    rw [payload, Option.toList_some]
    rfl

theorem handled_control (receiver : Receiver) (nowUs : UInt64) {header : RudpHeader}
    {buf : Bytes} (read : RudpHeader.readFrom buf = some header)
    (ours : header.sessionId = receiver.sessionId) (isData : header.isData = false) :
    Handled receiver buf (receiver.processDatagram nowUs buf) := by
  have nothing : delivers receiver.sessionId buf = none := by
    rw [delivers, read]
    exact if_neg fun accepted => Bool.eq_false_iff.mp isData accepted.2.1
  have ends : endsSession receiver.sessionId buf =
      (!header.isPing && !header.isPong && header.isFin) := by
    rw [endsSession, read]
    dsimp only
    rw [decide_eq_true ours, isData, Bool.not_false, Bool.true_and, Bool.true_and]
  rw [processDatagram, read]
  dsimp only
  rw [if_neg (fun foreign => foreign ours), if_neg (Bool.eq_false_iff.mp isData)]
  split
  · rename_i isPing
    refine handled_of_kept rfl rfl nothing (iff_of_false (fun impossible => nomatch impossible) ?_)
    rw [ends, isPing]
    exact Bool.false_ne_true
  · rename_i notPing
    split
    · rename_i isPong
      refine handled_of_kept rfl rfl nothing
        (iff_of_false (fun impossible => nomatch impossible) ?_)
      rw [ends, isPong, Bool.not_true, Bool.and_false]
      exact Bool.false_ne_true
    · rename_i notPong
      rw [Bool.eq_false_iff.mpr notPing, Bool.eq_false_iff.mpr notPong] at ends
      split
      · rename_i isFin
        refine handled_of_kept rfl rfl nothing (iff_of_true rfl ?_)
        rw [ends]
        exact isFin
      · rename_i notFin
        refine handled_of_kept rfl rfl nothing
          (iff_of_false (fun impossible => nomatch impossible) ?_)
        rw [ends]
        exact notFin

theorem processDatagram_handled (receiver : Receiver) (nowUs : UInt64) (buf : Bytes) :
    Handled receiver buf (receiver.processDatagram nowUs buf) := by
  cases read : RudpHeader.readFrom buf with
  | none =>
      rw [processDatagram, read]
      refine handled_of_kept rfl rfl ?_ (iff_of_false (fun impossible => nomatch impossible) ?_)
      · rw [delivers, read]
      · rw [endsSession, read]
        exact Bool.false_ne_true
  | some header =>
      by_cases ours : header.sessionId = receiver.sessionId
      · cases isData : header.isData with
        | true =>
            rw [processDatagram, read]
            dsimp only
            rw [if_neg (fun foreign => foreign ours), if_pos isData]
            exact handled_processData receiver read ours isData
        | false => exact receiver.handled_control nowUs read ours isData
      · rw [processDatagram, read]
        dsimp only
        rw [if_pos ours]
        refine handled_of_kept rfl rfl ?_ (iff_of_false (fun impossible => nomatch impossible) ?_)
        · rw [delivers, read]
          exact if_neg fun accepted => ours accepted.1
        · rw [endsSession, read]
          dsimp only
          rw [decide_eq_false ours, Bool.false_and, Bool.false_and, Bool.false_and, Bool.false_and]
          exact Bool.false_ne_true

/-! ### What one batch does -/

/-- Of a batch, the datagrams up to the first FIN are handled, and the others are
thrown away. -/
structure BatchHandled (receiver : Receiver) (batch : List Bytes) (next : Receiver) (fin : Bool)
    (handled dropped : List Bytes) : Prop where
  split : batch = handled ++ dropped
  session : next.sessionId = receiver.sessionId
  dataTx : next.dataTx = receiver.dataTx ++ handled.filterMap (delivers receiver.sessionId)
  goesOn : fin = false → dropped = [] ∧
    ∀ datagram, datagram ∈ handled → endsSession receiver.sessionId datagram = false
  ends : fin = true → ∃ before last, handled = before ++ [last] ∧
    endsSession receiver.sessionId last = true ∧
    ∀ datagram, datagram ∈ before → endsSession receiver.sessionId datagram = false

theorem recvBatch_of_fin {receiver next : Receiver} {nowUs : UInt64} {buf : Bytes}
    (handled : receiver.processDatagram nowUs buf = (next, some true))
    (rest : List (UInt64 × Bytes)) : receiver.recvBatch ((nowUs, buf) :: rest) = (next, true) := by
  rw [recvBatch, handled]

theorem recvBatch_of_not_fin {receiver next : Receiver} {nowUs : UInt64} {buf : Bytes}
    {answer : Option Bool} (handled : receiver.processDatagram nowUs buf = (next, answer))
    (goesOn : answer ≠ some true) (rest : List (UInt64 × Bytes)) :
    receiver.recvBatch ((nowUs, buf) :: rest) = next.recvBatch rest := by
  rw [recvBatch, handled]
  split
  · rename_i _ same
    cases same
    exact absurd rfl goesOn
  · rename_i _ same
    cases same
    rfl

theorem BatchHandled.cons {receiver next final : Receiver} {buf : Bytes} {answer : Option Bool}
    {rest handled dropped : List Bytes} {fin : Bool} (first : Handled receiver buf (next, answer))
    (goesOn : answer ≠ some true) (later : BatchHandled next rest final fin handled dropped) :
    BatchHandled receiver (buf :: rest) final fin (buf :: handled) dropped := by
  have same : next.sessionId = receiver.sessionId := first.session
  have notEnd : endsSession receiver.sessionId buf = false :=
    Bool.eq_false_iff.mpr fun ends => goesOn (first.ends.mpr ends)
  refine ⟨?_, later.session.trans same, ?_, ?_, ?_⟩
  · rw [later.split, List.cons_append]
  · rw [later.dataTx, first.dataTx, same, List.filterMap_eq_flatMap_toList,
      List.filterMap_eq_flatMap_toList, List.flatMap_cons, List.append_assoc]
  · intro unfinished
    obtain ⟨whole, stillOpen⟩ := later.goesOn unfinished
    rw [same] at stillOpen
    exact ⟨whole, List.forall_mem_cons.mpr ⟨notEnd, stillOpen⟩⟩
  · intro finished
    obtain ⟨before, last, shape, ends, stillOpen⟩ := later.ends finished
    rw [same] at ends stillOpen
    exact ⟨buf :: before, last, by rw [shape, List.cons_append], ends,
      List.forall_mem_cons.mpr ⟨notEnd, stillOpen⟩⟩

theorem recvBatch_handled (receiver : Receiver) (batch : List (UInt64 × Bytes)) :
    ∃ handled dropped, BatchHandled receiver (batch.map Prod.snd) (receiver.recvBatch batch).1
      (receiver.recvBatch batch).2 handled dropped := by
  induction batch generalizing receiver with
  | nil =>
      refine ⟨[], [], rfl, rfl, (List.append_nil _).symm, ?_, fun impossible => nomatch impossible⟩
      intro _
      exact ⟨rfl, fun datagram impossible => nomatch impossible⟩
  | cons item rest ih =>
      obtain ⟨nowUs, buf⟩ := item
      have first := receiver.processDatagram_handled nowUs buf
      cases step : receiver.processDatagram nowUs buf with
      | mk next answer =>
          rw [step] at first
          by_cases fin : answer = some true
          · subst fin
            rw [recvBatch_of_fin step, List.map_cons]
            refine ⟨[buf], rest.map Prod.snd, rfl, first.session, ?_,
              fun impossible => (nomatch impossible), ?_⟩
            · rw [first.dataTx, List.filterMap_eq_flatMap_toList, List.flatMap_singleton]
            · intro _
              exact ⟨[], buf, rfl, first.ends.mp rfl, fun datagram impossible => nomatch impossible⟩
          · obtain ⟨handled, dropped, later⟩ := ih next
            rw [recvBatch_of_not_fin step fin, List.map_cons]
            exact ⟨buf :: handled, dropped, later.cons first fin⟩

end Receiver

namespace RecvBufferPool

variable (pool : RecvBufferPool)

theorem slotMut_eq {idx : Nat} (inside : idx < POOL_SIZE) :
    pool.slotMut idx = some (idx * BUF_SIZE) := by
  have room : (idx + 1) * BUF_SIZE ≤ POOL_SIZE * BUF_SIZE := Nat.mul_le_mul_right _ inside
  rw [Nat.succ_mul] at room
  rw [slotMut, pool.complete]
  exact if_pos room

theorem slot_receive {datagrams : List Bytes} (few : datagrams.length ≤ POOL_SIZE) {idx : Nat}
    {datagram : Bytes} (placed : datagrams[idx]? = some datagram) :
    (pool.receive datagrams few).slot idx (cut datagram).length = some (cut datagram) := by
  have found : (datagrams.map cut)[idx]? = some (cut datagram) := by
    rw [List.getElem?_map, placed, Option.map_some]
  have inside : idx < datagrams.length := (List.getElem?_eq_some_iff.mp placed).1
  have short : (cut datagram).length ≤ BUF_SIZE := List.length_take_le _ _
  have room : (idx + 1) * BUF_SIZE ≤ POOL_SIZE * BUF_SIZE :=
    Nat.mul_le_mul_right _ (Nat.le_trans inside few)
  have read := read_fill (pool.holds_cut few) found
  rw [Nat.zero_add] at read
  rw [Nat.succ_mul] at room
  rw [slot, (pool.receive datagrams few).complete]
  exact (if_pos (by omega)).trans (congrArg some read)

end RecvBufferPool

theorem recvBatchRecvmmsg_eq (pool : RecvBufferPool) (queue : List Bytes) (received : Nat) :
    recvBatchRecvmmsg pool queue received =
      some
        { pool := pool.receive (queue.take (min received (min RECV_BATCH POOL_SIZE)))
            (few_taken queue received)
          slots := (queue.take (min received (min RECV_BATCH POOL_SIZE))).zipIdx.map
            (fun item => (item.2, (cut item.1).length))
          queue := queue.drop (min received (min RECV_BATCH POOL_SIZE)) } := by
  have slots : (List.range (min RECV_BATCH POOL_SIZE)).mapM pool.slotMut =
      some ((List.range (min RECV_BATCH POOL_SIZE)).map (· * BUF_SIZE)) := by
    apply Fallible.mapM_eq_some
    intro idx member
    have inside := List.mem_range.mp member
    exact pool.slotMut_eq (by omega)
  rw [recvBatchRecvmmsg]
  dsimp only
  rw [slots]

/-- Copied out of their slots, the datagrams are processed as they were sent, cut
to the size of a slot. -/
theorem Receiver.InRange.recvSlots_eq {initialSeq handled : Nat} {receiver : Receiver}
    (inRange : InRange initialSeq handled receiver) (pool : RecvBufferPool) {nowUs : Nat → UInt64}
    (clocks : ∀ slotIdx, ClockFits (nowUs slotIdx)) {items : List (Bytes × Nat)}
    (few : handled + items.length < 2 ^ 64)
    (numbers : ∀ item, item ∈ items → NumberFits receiver.sessionId (cut item.1))
    (stored : ∀ item, item ∈ items → pool.slot item.2 (cut item.1).length = some (cut item.1)) :
    recvSlots pool nowUs receiver (items.map (fun item => (item.2, (cut item.1).length))) =
        some (receiver.recvBatch (items.map (fun item => (nowUs item.2, cut item.1)))) ∧
      InRange initialSeq (handled + items.length)
        (receiver.recvBatch (items.map (fun item => (nowUs item.2, cut item.1)))).1 := by
  induction items generalizing receiver handled with
  | nil => exact ⟨rfl, inRange⟩
  | cons item rest ih =>
      obtain ⟨storedFirst, storedRest⟩ := List.forall_mem_cons.mp stored
      obtain ⟨numberFirst, numbersRest⟩ := List.forall_mem_cons.mp numbers
      rw [List.length_cons] at few ⊢
      obtain ⟨checked, inRangeNext⟩ :=
        inRange.processDatagram (by omega) (clocks item.2) numberFirst
      have session := (receiver.processDatagram_handled (nowUs item.2) (cut item.1)).session
      rw [List.map_cons, List.map_cons, recvSlots, storedFirst]
      dsimp only
      rw [checked]
      cases step : receiver.processDatagram (nowUs item.2) (cut item.1) with
      | mk next answer =>
          rw [step] at inRangeNext session
          by_cases fin : answer = some true
          · subst fin
            rw [recvBatch_of_fin step]
            exact ⟨rfl, inRangeNext.mono (by omega)⟩
          · rw [← session] at numbersRest
            obtain ⟨later, inRangeLater⟩ := ih inRangeNext (by omega) numbersRest storedRest
            rw [recvBatch_of_not_fin step fin, ← later]
            refine ⟨?_, inRangeLater.mono (by omega)⟩
            dsimp only
            split
            · rename_i same
              cases same
            · rename_i same
              cases same
              exact absurd rfl fin
            · rename_i same
              cases same
              rfl

/-! ### What a run does -/

def Wake.datagrams : Wake → List Bytes
  | .heartbeat _ => []
  | .readable batch => batch.map Prod.snd

/-- The state of the loop, without any buffers, after wakes with these datagrams. -/
def ReceiveLoop.ReachedBy (sessionId : UInt32) (initialSeq : Nat) (datagrams : List Bytes)
    (loop : ReceiveLoop) : Prop :=
  ∃ wakes : List Wake, loop = wakes.foldl handle (start sessionId initialSeq) ∧
    wakes.flatMap Wake.datagrams = datagrams

theorem ReceiveLoop.ReachedBy.handle {sessionId : UInt32} {initialSeq : Nat}
    {datagrams : List Bytes} {loop : ReceiveLoop}
    (reached : ReachedBy sessionId initialSeq datagrams loop) (wake : Wake) :
    ReachedBy sessionId initialSeq (datagrams ++ wake.datagrams) (loop.handle wake) := by
  obtain ⟨wakes, rfl, rfl⟩ := reached
  refine ⟨wakes ++ [wake], ?_, ?_⟩
  · rw [List.foldl_append, List.foldl_cons, List.foldl_nil]
  · rw [List.flatMap_append, List.flatMap_singleton]

namespace SocketLoop

/-- The datagrams that arrived are those handled, then those thrown away behind a
FIN, then those in the socket. -/
structure Exact (sessionId : UInt32) (initialSeq : Nat) (arrived : List Bytes)
    (state : SocketLoop) (handled dropped : List Bytes) : Prop where
  split : arrived.map cut = handled ++ dropped ++ state.queue.map cut
  reached : state.loop.ReachedBy sessionId initialSeq (handled ++ dropped)
  session : state.loop.receiver.sessionId = sessionId
  inRange : state.loop.receiver.InRange initialSeq (handled ++ dropped).length
  dataTx : state.loop.receiver.dataTx = handled.filterMap (delivers sessionId)
  goesOn : state.loop.finished = false → dropped = [] ∧
    ∀ datagram, datagram ∈ handled → endsSession sessionId datagram = false
  ends : state.loop.finished = true → ∃ before last, handled = before ++ [last] ∧
    endsSession sessionId last = true ∧
    ∀ datagram, datagram ∈ before → endsSession sessionId datagram = false

variable {sessionId : UInt32} {initialSeq : Nat} {arrived handled dropped : List Bytes}
  {state : SocketLoop}

theorem exact_start (sessionId : UInt32) {initialSeq : Nat} (initial : initialSeq < 2 ^ 64)
    (pool : RecvBufferPool) :
    Exact sessionId initialSeq [] (start sessionId initialSeq pool) [] [] where
  split := rfl
  reached := ⟨[], rfl, rfl⟩
  session := rfl
  inRange := Receiver.inRange_new sessionId initial
  dataTx := rfl
  goesOn := fun _ => ⟨rfl, fun _ impossible => nomatch impossible⟩
  ends := fun impossible => nomatch impossible

theorem Exact.arrives (exact : Exact sessionId initialSeq arrived state handled dropped)
    (datagram : Bytes) :
    Exact sessionId initialSeq (arrived ++ [datagram])
      { state with queue := state.queue ++ [datagram] } handled dropped where
  split := by rw [List.map_append, exact.split, List.map_append, List.append_assoc]
  reached := exact.reached
  session := exact.session
  inRange := exact.inRange
  dataTx := exact.dataTx
  goesOn := exact.goesOn
  ends := exact.ends

theorem Exact.heartbeat (exact : Exact sessionId initialSeq arrived state handled dropped)
    (nowUs : UInt64) :
    Exact sessionId initialSeq arrived
      { state with loop := state.loop.handle (.heartbeat nowUs) } handled dropped := by
  have reached := exact.reached.handle (.heartbeat nowUs)
  rw [Wake.datagrams, List.append_nil] at reached
  cases finished : state.loop.finished with
  | true =>
      have still : state.loop.handle (.heartbeat nowUs) = state.loop := by
        rw [ReceiveLoop.handle, if_pos finished]
      rw [still]
      exact exact
  | false =>
      have ticked := ReceiveLoop.handle_heartbeat state.loop nowUs finished
      rw [ticked] at reached ⊢
      exact ⟨exact.split, reached, exact.session, exact.inRange.sendHeartbeatSack nowUs,
        exact.dataTx, exact.goesOn, exact.ends⟩

def batchOf (state : SocketLoop) (received : Nat) (nowUs : Nat → UInt64) : List (UInt64 × Bytes) :=
  (state.queue.take (min received (min RECV_BATCH POOL_SIZE))).zipIdx.map
    (fun item => (nowUs item.2, cut item.1))

theorem map_batchOf (state : SocketLoop) (received : Nat) (nowUs : Nat → UInt64) :
    (state.batchOf received nowUs).map Prod.snd =
      (state.queue.map cut).take (min received (min RECV_BATCH POOL_SIZE)) := by
  have onlyCut : (Prod.snd ∘ fun item : Bytes × Nat => (nowUs item.2, cut item.1)) =
      cut ∘ Prod.fst := rfl
  rw [batchOf, List.map_map, onlyCut, ← List.map_map, List.zipIdx_map_fst, List.map_take]

theorem Exact.recvBatch_eq (exact : Exact sessionId initialSeq arrived state handled dropped)
    (within : WithinCounters sessionId arrived) (received : Nat) {nowUs : Nat → UInt64}
    (clocks : ∀ slotIdx, ClockFits (nowUs slotIdx)) :
    ∃ pool, state.recvBatch received nowUs =
        some
          { loop := { state.loop with
              receiver := (state.loop.receiver.recvBatch (state.batchOf received nowUs)).1
              finished := (state.loop.receiver.recvBatch (state.batchOf received nowUs)).2 }
            pool := pool
            queue := state.queue.drop (min received (min RECV_BATCH POOL_SIZE)) } ∧
      Receiver.InRange initialSeq
        ((handled ++ dropped).length + (state.batchOf received nowUs).length)
        (state.loop.receiver.recvBatch (state.batchOf received nowUs)).1 := by
  have counted := congrArg List.length exact.split
  rw [List.length_map, List.length_append, List.length_map] at counted
  have taken := List.length_take_le' (min received (min RECV_BATCH POOL_SIZE)) state.queue
  have few := within.few
  have numbers : ∀ item,
      item ∈ (state.queue.take (min received (min RECV_BATCH POOL_SIZE))).zipIdx →
      NumberFits state.loop.receiver.sessionId (cut item.1) := by
    intro item member
    have inQueue : cut item.1 ∈ arrived.map cut := by
      rw [exact.split]
      exact List.mem_append_right _ (List.mem_map_of_mem
        (List.mem_of_mem_take (List.fst_mem_of_mem_zipIdx member)))
    obtain ⟨datagram, hasArrived, same⟩ := List.mem_map.mp inQueue
    rw [exact.session, ← same]
    exact within.numbers datagram hasArrived
  obtain ⟨processed, inRange⟩ := exact.inRange.recvSlots_eq
    (state.pool.receive _ (few_taken state.queue received)) clocks
    (by rw [List.length_zipIdx]; omega) numbers
    (fun item member => state.pool.slot_receive _ (List.mem_zipIdx_iff_getElem?.mp member))
  refine ⟨state.pool.receive _ (few_taken state.queue received), ?_, ?_⟩
  · rw [recvBatch, recvBatchRecvmmsg_eq]
    dsimp only
    rw [processed]
    rfl
  · rw [batchOf, List.length_map]
    exact inRange

theorem Exact.recvBatch (exact : Exact sessionId initialSeq arrived state handled dropped)
    (within : WithinCounters sessionId arrived) (running : state.loop.finished = false)
    (received : Nat) {nowUs : Nat → UInt64} (clocks : ∀ slotIdx, ClockFits (nowUs slotIdx)) :
    ∃ next more thrown, state.recvBatch received nowUs = some next ∧
      Exact sessionId initialSeq arrived next (handled ++ more) thrown := by
  obtain ⟨pool, stepped, inRange⟩ := exact.recvBatch_eq within received clocks
  obtain ⟨nothing, openSoFar⟩ := exact.goesOn running
  subst nothing
  obtain ⟨more, thrown, batch⟩ :=
    state.loop.receiver.recvBatch_handled (state.batchOf received nowUs)
  have taken := batch.split
  have counted := congrArg List.length taken
  rw [List.length_map] at counted
  rw [map_batchOf] at taken
  have reached := exact.reached.handle (.readable (state.batchOf received nowUs))
  rw [ReceiveLoop.handle, if_neg (Bool.eq_false_iff.mp running), Wake.datagrams, map_batchOf,
    taken, List.append_nil] at reached
  have session := exact.session
  refine ⟨_, more, thrown, stepped, ?_, ?_, ?_, ?_, ?_, ?_, ?_⟩
  · rw [exact.split, List.append_nil, List.append_assoc handled, ← taken, List.append_assoc,
      List.map_drop, List.take_append_drop]
  · rw [List.append_assoc]
    exact reached
  · exact batch.session.trans session
  · rw [counted, List.append_nil, ← List.length_append, ← List.append_assoc] at inRange
    exact inRange
  · dsimp only
    rw [batch.dataTx, exact.dataTx, session, List.filterMap_append]
  · intro unfinished
    obtain ⟨whole, stillOpen⟩ := batch.goesOn unfinished
    rw [session] at stillOpen
    exact ⟨whole, List.forall_mem_append.mpr ⟨openSoFar, stillOpen⟩⟩
  · intro finished
    obtain ⟨before, last, shape, ends, stillOpen⟩ := batch.ends finished
    rw [session] at ends stillOpen
    exact ⟨handled ++ before, last, by rw [shape, List.append_assoc], ends,
      List.forall_mem_append.mpr ⟨openSoFar, stillOpen⟩⟩

theorem Exact.handle (exact : Exact sessionId initialSeq arrived state handled dropped)
    (within : WithinCounters sessionId arrived) {event : SocketEvent} (clock : event.ClockFits) :
    ∃ next more thrown, state.handle event = some next ∧
      Exact sessionId initialSeq (arrived ++ event.arrival.toList) next (handled ++ more)
        thrown := by
  cases event with
  | arrives datagram =>
      refine ⟨_, [], dropped, rfl, ?_⟩
      rw [List.append_nil]
      exact exact.arrives datagram
  | heartbeat nowUs =>
      refine ⟨_, [], dropped, rfl, ?_⟩
      rw [SocketEvent.arrival, Option.toList_none, List.append_nil, List.append_nil]
      exact exact.heartbeat nowUs
  | readable received nowUs =>
      rw [SocketEvent.arrival, Option.toList_none, List.append_nil, SocketLoop.handle]
      cases finished : state.loop.finished with
      | true =>
          refine ⟨state, [], dropped, rfl, ?_⟩
          rw [List.append_nil]
          exact exact
      | false => exact exact.recvBatch within finished received clock

theorem Exact.run (exact : Exact sessionId initialSeq arrived state handled dropped)
    (events : List SocketEvent)
    (within : WithinCounters sessionId (arrived ++ events.filterMap SocketEvent.arrival))
    (clocks : ∀ event, event ∈ events → event.ClockFits) :
    ∃ final more thrown, state.run events = some final ∧
      Exact sessionId initialSeq (arrived ++ events.filterMap SocketEvent.arrival) final
        (handled ++ more) thrown := by
  induction events generalizing state arrived handled dropped with
  | nil =>
      refine ⟨state, [], dropped, rfl, ?_⟩
      rw [List.filterMap_nil, List.append_nil, List.append_nil]
      exact exact
  | cons event rest ih =>
      have arrivals : (event :: rest).filterMap SocketEvent.arrival =
          event.arrival.toList ++ rest.filterMap SocketEvent.arrival := by
        rw [List.filterMap_eq_flatMap_toList, List.flatMap_cons,
          ← List.filterMap_eq_flatMap_toList]
      rw [arrivals, ← List.append_assoc] at within ⊢
      obtain ⟨next, more, thrown, stepped, exactNext⟩ :=
        exact.handle within.of_append.of_append (clocks event List.mem_cons_self)
      obtain ⟨final, later, thrownLater, reached, exactFinal⟩ := ih exactNext within
        (fun other member => clocks other (List.mem_cons_of_mem _ member))
      refine ⟨final, more ++ later, thrownLater, ?_, ?_⟩
      · rw [SocketLoop.run, List.foldlM_cons, stepped]
        exact reached
      · rw [← List.append_assoc]
        exact exactFinal

/-- However the datagrams fall into batches, whatever the slots held before and
whenever the heartbeats come, no slice leaves the pool, no addition overflows and
every datagram is handled once, in order, up to the first FIN: what the
application gets is the payloads of the session's DATA datagrams among them, and
the task is in a state of the loop without buffers. -/
theorem run_exact (sessionId : UInt32) (initialSeq : Nat) (initial : initialSeq < 2 ^ 64)
    (pool : RecvBufferPool) (events : List SocketEvent)
    (within : WithinCounters sessionId (events.filterMap SocketEvent.arrival))
    (clocks : ∀ event, event ∈ events → event.ClockFits) :
    ∃ final handled dropped, (start sessionId initialSeq pool).run events = some final ∧
      Exact sessionId initialSeq (events.filterMap SocketEvent.arrival) final handled dropped :=
  (exact_start sessionId initial pool).run events within clocks

/-- Two datagrams in one call, a heartbeat, and a FIN with something behind it. -/
def finishedEvents : List SocketEvent :=
  [.arrives (datagram (RudpHeader.newData 7 0 0 3) [1, 2, 3]),
    .arrives (datagram (RudpHeader.newData 7 (UInt64.ofNat (2 ^ 64 - 2)) 0 1) [4]),
    .readable 2 (fun _ => 0), .heartbeat 0,
    .arrives (datagram (RudpHeader.newFin 7 0 0) []),
    .arrives (datagram (RudpHeader.newData 7 1 0 1) [5]), .readable 2 (fun _ => 0)]

theorem run_exact_finishedEvents :
    ∃ final handled dropped,
      (start 7 0 RecvBufferPool.new).run finishedEvents = some final ∧
      Exact 7 0 (finishedEvents.filterMap SocketEvent.arrival) final handled dropped := by
  have clock : ClockFits 0 := Nat.two_pow_pos 61
  refine run_exact 7 0 (by decide) RecvBufferPool.new finishedEvents
    ⟨by decide, by decide +kernel⟩ ?_
  intro event member
  simp only [finishedEvents, List.mem_cons, List.not_mem_nil, or_false] at member
  rcases member with rfl | rfl | rfl | rfl | rfl | rfl | rfl
  · trivial
  · trivial
  · exact fun _ => clock
  · trivial
  · trivial
  · trivial
  · exact fun _ => clock

end SocketLoop

end Udpix.Protocol

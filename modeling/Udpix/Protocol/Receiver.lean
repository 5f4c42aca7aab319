/-
The receive-side task of one session.

The three outputs of the task are kept as logs: payloads handed to the
application, SACKs offered to the sender task, and datagrams written to the
socket.  Timers, batching and the socket itself are the caller's.
-/

import Udpix.Protocol.SackManager

namespace Udpix.Protocol

structure Receiver where
  sessionId : UInt32
  sackMgr : SackManager
  stats : SessionStats
  dataSeen : Bool
  dataTx : List Bytes
  sackTx : List SackPayload
  socket : List Bytes

namespace Receiver

def new (sessionId : UInt32) (initialSeq : Nat) : Receiver :=
  { sessionId := sessionId
    sackMgr := SackManager.new initialSeq
    stats := SessionStats.new
    dataSeen := false
    dataTx := []
    sackTx := []
    socket := [] }

def heartbeatDatagram (sessionId : UInt32) (nowUs : UInt64) (sack : SackPayload) : Bytes :=
  (RudpHeader.newHeartbeatSack sessionId 0 nowUs (UInt16.ofNat sack.wireSize)).writeTo
    (List.replicate RudpHeader.SIZE 0) ++ sack.serialise

def sendHeartbeatSack (receiver : Receiver) (nowUs : UInt64) :
    Receiver × Option Duration :=
  let ticked := receiver.sackMgr.tick
  let sack := ticked.payload
  -- both readings come after the tick, as in the code
  let oldInterval := ticked.heartbeatInterval
  let buf := heartbeatDatagram receiver.sessionId nowUs sack
  let sent :=
    { receiver with
      sackMgr := ticked
      sackTx := receiver.sackTx ++ [sack]
      socket := if receiver.dataSeen then receiver.socket ++ [buf] else receiver.socket }
  let newInterval := ticked.heartbeatInterval
  (sent, if newInterval ≠ oldInterval then some newInterval else none)

def processData (receiver : Receiver) (header : RudpHeader) (buf : Bytes) :
    Receiver × Option Bool :=
  let seen := { receiver with dataSeen := true }
  let payloadLen := header.payloadLen.toNat
  if buf.length < RudpHeader.SIZE + payloadLen then (seen, none)
  else
    let payload := (buf.drop RudpHeader.SIZE).take payloadLen
    ({ seen with
        sackMgr := seen.sackMgr.onPacketReceived header.sequenceNumber.toNat
        stats :=
          { seen.stats with
            packetsAcked := seen.stats.packetsAcked + 1
            bytesAcked := seen.stats.bytesAcked + payloadLen }
        dataTx := seen.dataTx ++ [payload] },
      some false)

def processPing (receiver : Receiver) (header : RudpHeader) : Receiver :=
  let pong :=
    RudpHeader.newPong receiver.sessionId header.sequenceNumber header.timestampUs
  { receiver with
    socket := receiver.socket ++ [pong.writeTo (List.replicate RudpHeader.SIZE 0)] }

/-- Handle one datagram: `some true` for a FIN, `some false` for anything else
handled, `none` for a rejected one. -/
def processDatagram (receiver : Receiver) (nowUs : UInt64) (buf : Bytes) :
    Receiver × Option Bool :=
  match RudpHeader.readFrom buf with
  | none => (receiver, none)
  | some header =>
      if header.sessionId ≠ receiver.sessionId then (receiver, none)
      else if header.isData then receiver.processData header buf
      else if header.isPing then (receiver.processPing header, some false)
      else if header.isPong then
        ({ receiver with
            stats := handlePong receiver.stats nowUs.toNat header.timestampUs.toNat },
          some false)
      else if header.isFin then ((receiver.sendHeartbeatSack nowUs).1, some true)
      else (receiver, some false)

/-- The receiver after a complete DATA datagram of its session. -/
def acceptData (receiver : Receiver) (seq : Nat) (payload : Bytes) : Receiver :=
  { receiver with
    dataSeen := true
    sackMgr := receiver.sackMgr.onPacketReceived seq
    stats :=
      { receiver.stats with
        packetsAcked := receiver.stats.packetsAcked + 1
        bytesAcked := receiver.stats.bytesAcked + payload.length }
    dataTx := receiver.dataTx ++ [payload] }

/-! ### What one datagram can do -/

def dataHeader (receiver : Receiver) (buf : Bytes) : Option RudpHeader :=
  match RudpHeader.readFrom buf with
  | none => none
  | some header =>
      if header.sessionId = receiver.sessionId ∧ header.isData = true then some header else none

theorem processDatagram_of_dataHeader (receiver : Receiver) (nowUs : UInt64) (buf : Bytes)
    (header : RudpHeader) (found : receiver.dataHeader buf = some header) :
    receiver.processDatagram nowUs buf = receiver.processData header buf := by
  unfold dataHeader at found
  unfold processDatagram
  cases read : RudpHeader.readFrom buf with
  | none =>
      rw [read] at found
      cases found
  | some other =>
      rw [read] at found
      dsimp only at found ⊢
      split at found
      · rename_i ours
        cases found
        rw [if_neg (fun foreign => foreign ours.1), if_pos ours.2]
      · cases found

/-- Without a DATA header the datagram is rejected or handled as a control
packet; only a FIN touches the acknowledgement state. -/
theorem processDatagram_of_not_data (receiver : Receiver) (nowUs : UInt64) (buf : Bytes)
    (other : receiver.dataHeader buf = none) :
    receiver.processDatagram nowUs buf = (receiver, none) ∨
      (∃ header, receiver.processDatagram nowUs buf =
        (receiver.processPing header, some false)) ∨
      (∃ stats, receiver.processDatagram nowUs buf =
        ({ receiver with stats := stats }, some false)) ∨
      receiver.processDatagram nowUs buf = ((receiver.sendHeartbeatSack nowUs).1, some true) := by
  unfold dataHeader at other
  unfold processDatagram
  cases read : RudpHeader.readFrom buf with
  | none => exact Or.inl rfl
  | some header =>
      rw [read] at other
      dsimp only at other ⊢
      split at other
      · cases other
      · rename_i notOurs
        by_cases ours : header.sessionId = receiver.sessionId
        · have notData : ¬ header.isData = true := fun data => notOurs ⟨ours, data⟩
          rw [if_neg (fun foreign => foreign ours), if_neg notData]
          split
          · exact Or.inr (Or.inl ⟨header, rfl⟩)
          · split
            · exact Or.inr (Or.inr (Or.inl ⟨_, rfl⟩))
            · split
              · exact Or.inr (Or.inr (Or.inr rfl))
              · exact Or.inr (Or.inr (Or.inl ⟨receiver.stats, rfl⟩))
        · rw [if_pos ours]
          exact Or.inl rfl

def declaredPayload (header : RudpHeader) (buf : Bytes) : Bytes :=
  (buf.drop RudpHeader.SIZE).take header.payloadLen.toNat

theorem processData_truncated (receiver : Receiver) (header : RudpHeader) (buf : Bytes)
    (short : buf.length < RudpHeader.SIZE + header.payloadLen.toNat) :
    receiver.processData header buf = ({ receiver with dataSeen := true }, none) := by
  unfold processData
  dsimp only
  rw [if_pos short]

theorem processData_complete (receiver : Receiver) (header : RudpHeader) (buf : Bytes)
    (complete : ¬ buf.length < RudpHeader.SIZE + header.payloadLen.toNat) :
    receiver.processData header buf =
      (receiver.acceptData header.sequenceNumber.toNat (declaredPayload header buf),
        some false) := by
  have size : (declaredPayload header buf).length = header.payloadLen.toNat := by
    rw [declaredPayload, List.length_take, List.length_drop]
    omega
  unfold processData acceptData
  dsimp only
  rw [if_neg complete, size]
  rfl

/-- A DATA datagram built for this session is accepted: its number goes to the
bitmap and exactly its payload to the application. -/
theorem processDatagram_data (receiver : Receiver) (nowUs tsUs : UInt64) (seq : UInt64)
    (chunk : Bytes) (short : chunk.length < 2 ^ 16) :
    receiver.processDatagram nowUs
        (datagram (RudpHeader.newData receiver.sessionId seq tsUs
          (UInt16.ofNat chunk.length)) chunk) =
      (receiver.acceptData seq.toNat chunk, some false) := by
  have lengthRead : (UInt16.ofNat chunk.length).toNat = chunk.length :=
    UInt16.toNat_ofNat_of_lt' short
  have payloadRead : ∀ header : RudpHeader,
      ((header.toBytes ++ chunk).drop RudpHeader.SIZE).take chunk.length = chunk := by
    intro header
    rw [List.drop_left' header.toBytes_length, List.take_length]
  unfold processDatagram
  rw [datagram_eq, RudpHeader.readFrom_toBytes_append]
  have sameSession : (RudpHeader.newData receiver.sessionId seq tsUs
      (UInt16.ofNat chunk.length)).sessionId = receiver.sessionId := rfl
  dsimp only
  rw [if_neg (fun differ => differ sameSession),
    if_pos (RudpHeader.isData_newData _ _ _ _)]
  unfold processData
  have declared : (RudpHeader.newData receiver.sessionId seq tsUs
      (UInt16.ofNat chunk.length)).payloadLen.toNat = chunk.length := lengthRead
  have complete : ¬ ((RudpHeader.newData receiver.sessionId seq tsUs
      (UInt16.ofNat chunk.length)).toBytes ++ chunk).length <
        RudpHeader.SIZE + chunk.length := by
    rw [List.length_append, RudpHeader.toBytes_length]
    omega
  dsimp only
  rw [declared, if_neg complete, payloadRead]
  rfl

end Receiver

end Udpix.Protocol

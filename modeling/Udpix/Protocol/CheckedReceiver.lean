/-
A datagram with every 64-bit addition checked.

The receive task is written down elsewhere with unbounded counters.  Here the
number of a DATA datagram and the sample of a PONG go through the checked
arithmetic, and a fault is a panic of the task.  Fewer than `2 ^ 64` datagrams,
none with the largest number, and a clock below `2 ^ 61` microseconds cause none.
-/

import Udpix.Protocol.Receiver
import Udpix.Protocol.RttBounds
import Udpix.Protocol.SequenceBounds

namespace Udpix.Protocol

open SackManager SessionStats

def handlePongChecked (stats : SessionStats) (nowUs pongTsUs : Nat) :
    Except RttFault SessionStats :=
  if pongTsUs ≤ nowUs then stats.updateRttChecked (nowUs - pongTsUs) else .ok stats

namespace Receiver

def processDataChecked (receiver : Receiver) (header : RudpHeader) (buf : Bytes) :
    Option (Receiver × Option Bool) :=
  let seen := { receiver with dataSeen := true }
  let payloadLen := header.payloadLen.toNat
  if buf.length < RudpHeader.SIZE + payloadLen then some (seen, none)
  else
    let payload := (buf.drop RudpHeader.SIZE).take payloadLen
    match seen.sackMgr.onPacketReceivedChecked header.sequenceNumber.toNat with
    | .error _ => none
    | .ok sackMgr =>
        some
          ({ seen with
              sackMgr := sackMgr
              stats :=
                { seen.stats with
                  packetsAcked := seen.stats.packetsAcked + 1
                  bytesAcked := seen.stats.bytesAcked + payloadLen }
              dataTx := seen.dataTx ++ [payload] },
            some false)

def processPongChecked (receiver : Receiver) (nowUs : UInt64) (header : RudpHeader) :
    Option (Receiver × Option Bool) :=
  match handlePongChecked receiver.stats nowUs.toNat header.timestampUs.toNat with
  | .error _ => none
  | .ok stats => some ({ receiver with stats := stats }, some false)

/-- The dispatch of `processDatagram`; `none` is a panic. -/
def processDatagramChecked (receiver : Receiver) (nowUs : UInt64) (buf : Bytes) :
    Option (Receiver × Option Bool) :=
  match RudpHeader.readFrom buf with
  | none => some (receiver, none)
  | some header =>
      if header.sessionId ≠ receiver.sessionId then some (receiver, none)
      else if header.isData then receiver.processDataChecked header buf
      else if header.isPing then some (receiver.processPing header, some false)
      else if header.isPong then receiver.processPongChecked nowUs header
      else if header.isFin then some ((receiver.sendHeartbeatSack nowUs).1, some true)
      else some (receiver, some false)

end Receiver

/-- A DATA datagram of the session does not carry the largest number. -/
def NumberFits (sessionId : UInt32) (buf : Bytes) : Prop :=
  ∀ header, header ∈ RudpHeader.readFrom buf → header.sessionId = sessionId →
    header.isData = true → header.sequenceNumber.toNat + 1 < 2 ^ 64

instance (sessionId : UInt32) : DecidablePred (NumberFits sessionId) :=
  fun buf => inferInstanceAs (Decidable (∀ header, header ∈ RudpHeader.readFrom buf → _))

def ClockFits (nowUs : UInt64) : Prop := nowUs.toNat < 2 ^ 61

namespace Receiver

/-- The counters and estimates after at most so many datagrams. -/
structure InRange (initialSeq handled : Nat) (receiver : Receiver) : Prop where
  counted : ∃ ops, Counted initialSeq ops receiver.sackMgr
  arrivals : receiver.sackMgr.packetsSinceLastSack ≤ handled
  estimates : Below (2 ^ 61 - 1) receiver.stats

theorem inRange_new (sessionId : UInt32) {initialSeq : Nat} (initial : initialSeq < 2 ^ 64) :
    InRange initialSeq 0 (new sessionId initialSeq) where
  counted := ⟨[], initial, rfl, (fun _ member => absurd member List.not_mem_nil), Nat.zero_le _⟩
  arrivals := Nat.le_refl 0
  estimates := by
    refine ⟨Nat.zero_le _, ?_⟩
    change 5000 ≤ 2 ^ 61 - 1
    decide

variable {initialSeq handled : Nat} {receiver : Receiver}

theorem InRange.keeps (inRange : InRange initialSeq handled receiver) {next : Receiver}
    (sameManager : next.sackMgr = receiver.sackMgr) (sameStats : next.stats = receiver.stats) :
    InRange initialSeq (handled + 1) next where
  counted := by
    rw [sameManager]
    exact inRange.counted
  arrivals := by
    rw [sameManager]
    exact Nat.le_succ_of_le inRange.arrivals
  estimates := by
    rw [sameStats]
    exact inRange.estimates

theorem InRange.mono (inRange : InRange initialSeq handled receiver) {more : Nat}
    (atMost : handled ≤ more) : InRange initialSeq more receiver :=
  ⟨inRange.counted, Nat.le_trans inRange.arrivals atMost, inRange.estimates⟩

theorem InRange.sendHeartbeatSack (inRange : InRange initialSeq handled receiver)
    (nowUs : UInt64) : InRange initialSeq handled (receiver.sendHeartbeatSack nowUs).1 := by
  obtain ⟨ops, counted⟩ := inRange.counted
  exact ⟨⟨ops ++ [.tick], counted.tick⟩, Nat.zero_le handled, inRange.estimates⟩

theorem onPacketReceived_packetsSinceLastSack (manager : SackManager) (seq : Nat) :
    (manager.onPacketReceived seq).packetsSinceLastSack = manager.packetsSinceLastSack + 1 := by
  rw [onPacketReceived_eq_countGap]
  exact congrArg (· + 1) (countGap_packetsSinceLastSack manager seq)

theorem InRange.processData (inRange : InRange initialSeq handled receiver)
    (few : handled + 1 < 2 ^ 64) {header : RudpHeader} (buf : Bytes)
    (number : header.sequenceNumber.toNat + 1 < 2 ^ 64) :
    receiver.processDataChecked header buf = some (receiver.processData header buf) ∧
      InRange initialSeq (handled + 1) (receiver.processData header buf).1 := by
  have arrivals := inRange.arrivals
  obtain ⟨ops, counted⟩ := inRange.counted
  have checked := counted.onPacketReceivedChecked_eq number
  rw [if_pos (by omega)] at checked
  unfold processDataChecked Receiver.processData
  dsimp only
  split
  · exact ⟨rfl, inRange.keeps rfl rfl⟩
  · rw [checked]
    refine ⟨rfl, ⟨_, counted.arrive number⟩, ?_, inRange.estimates.srtt, inRange.estimates.rttvar⟩
    dsimp only
    rw [onPacketReceived_packetsSinceLastSack]
    exact Nat.succ_le_succ arrivals

theorem InRange.handlePong (inRange : InRange initialSeq handled receiver) {nowUs : UInt64}
    (clock : ClockFits nowUs) (pongTsUs : Nat) :
    handlePongChecked receiver.stats nowUs.toNat pongTsUs =
        .ok (Protocol.handlePong receiver.stats nowUs.toNat pongTsUs) ∧
      Below (2 ^ 61 - 1) (Protocol.handlePong receiver.stats nowUs.toNat pongTsUs) := by
  unfold ClockFits at clock
  unfold handlePongChecked Protocol.handlePong
  split
  · have sample : nowUs.toNat - pongTsUs ≤ 2 ^ 61 - 1 := by omega
    exact ⟨inRange.estimates.updateRttChecked_eq (by decide) sample,
      inRange.estimates.updateRtt sample⟩
  · exact ⟨rfl, inRange.estimates⟩

theorem InRange.processDatagram (inRange : InRange initialSeq handled receiver)
    (few : handled + 1 < 2 ^ 64) {nowUs : UInt64} (clock : ClockFits nowUs) {buf : Bytes}
    (number : NumberFits receiver.sessionId buf) :
    receiver.processDatagramChecked nowUs buf = some (receiver.processDatagram nowUs buf) ∧
      InRange initialSeq (handled + 1) (receiver.processDatagram nowUs buf).1 := by
  unfold processDatagramChecked Receiver.processDatagram
  cases read : RudpHeader.readFrom buf with
  | none => exact ⟨rfl, inRange.keeps rfl rfl⟩
  | some header =>
      dsimp only
      split
      · exact ⟨rfl, inRange.keeps rfl rfl⟩
      · rename_i ours
        split
        · rename_i isData
          exact inRange.processData few buf (number header read (not_ne_iff.mp ours) isData)
        · split
          · exact ⟨rfl, inRange.keeps rfl rfl⟩
          · split
            · obtain ⟨checked, below⟩ := inRange.handlePong clock header.timestampUs.toNat
              rw [processPongChecked, checked]
              exact ⟨rfl, inRange.counted, Nat.le_succ_of_le inRange.arrivals, below⟩
            · split
              · exact ⟨rfl, (inRange.sendHeartbeatSack nowUs).keeps rfl rfl⟩
              · exact ⟨rfl, inRange.keeps rfl rfl⟩

end Receiver

end Udpix.Protocol

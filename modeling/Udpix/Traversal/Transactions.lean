/-
Which answer a STUN call takes.

All calls of a session share one socket, and an answer that comes after its
call has given up stays in the queue.  A call reads whatever is first in the
queue and never compares transaction ids, so it keeps to its own answer exactly
when no foreign one is first.
-/

import Udpix.Library.Fallible
import Udpix.Library.Unwinding
import Udpix.Traversal.Ice

namespace Udpix.Traversal

open Fallible Unwinding
open Udpix.Protocol (Bytes)

namespace StunClient

/-- The datagram that the call reads carries the transaction id of its own
request. -/
def AnsweredOwn (outside : Nat → Exchange) (socket : Socket) (target : SocketAddr) : Prop :=
  ∃ datagram message, (exchangeDatagram outside socket target).2 = .ok datagram ∧
    StunMessage.parse datagram = .ok message ∧
    message.transactionId = (outside socket.calls).transactionId

def ReturnsOwn (outside : Nat → Exchange) (socket : Socket) (target : SocketAddr) : Prop :=
  ∀ addr, (discoverWithSocket outside socket target).2 = .ok addr →
    AnsweredOwn outside socket target

/-- The two system calls of the next request work, and the first datagram in the
queue is a Binding Success for another request. -/
structure ForeignFirst (outside : Nat → Exchange) (socket : Socket) : Prop where
  sends : (outside socket.calls).sendError = none
  receives : (outside socket.calls).recvError = none
  foreign : ∃ datagram message,
    (socket.inbox ++ (outside socket.calls).arrivals).head? = some datagram ∧
    StunMessage.parse (datagram.take RECV_BUFFER) = .ok message ∧
    message.msgType = BINDING_SUCCESS ∧ message.mappedAddr.isSome = true ∧
    message.transactionId ≠ (outside socket.calls).transactionId

def call (outside : Nat → Exchange) (socket : Socket) (target : SocketAddr) : Socket :=
  (discoverWithSocket outside socket target).1

/-! ### When a call returns an address -/

variable {outside : Nat → Exchange} {socket : Socket} {target : SocketAddr}

theorem exchangeDatagram_eq_ok_iff (received : Bytes) :
    (exchangeDatagram outside socket target).2 = .ok received ↔
      (outside socket.calls).sendError = none ∧ (outside socket.calls).recvError = none ∧
        ∃ datagram, (socket.inbox ++ (outside socket.calls).arrivals).head? = some datagram ∧
          received = datagram.take RECV_BUFFER := by
  unfold exchangeDatagram
  dsimp only
  cases sendError : (outside socket.calls).sendError with
  | some cause => simp
  | none =>
      cases recvError : (outside socket.calls).recvError with
      | some cause => simp
      | none =>
          cases queue : socket.inbox ++ (outside socket.calls).arrivals with
          | nil => simp
          | cons datagram rest => simp [eq_comm]

theorem readResponse_eq_ok_iff (received : Bytes) (addr : SocketAddr) :
    readResponse received = .ok addr ↔
      ∃ message, StunMessage.parse received = .ok message ∧
        message.msgType = BINDING_SUCCESS ∧ message.mappedAddr = some addr := by
  unfold readResponse
  cases parsed : StunMessage.parse received with
  | error causes => simp [context, bind, Except.bind]
  | ok message =>
      simp only [context, bind, Except.bind, Except.ok.injEq, exists_eq_left']
      by_cases success : message.msgType = BINDING_SUCCESS
      · cases mapped : message.mappedAddr with
        | none => simp [success]
        | some mappedTo => simp [success]
      · simp [success]

theorem discoverWithSocket_eq_ok_iff (addr : SocketAddr) :
    (discoverWithSocket outside socket target).2 = .ok addr ↔
      ∃ received, (exchangeDatagram outside socket target).2 = .ok received ∧
        readResponse received = .ok addr := by
  constructor
  · exact bind_eq_ok
  · rintro ⟨received, exchanged, answered⟩
    change ((exchangeDatagram outside socket target).2 >>= readResponse) = _
    rw [exchanged]
    exact answered

theorem ForeignFirst.taken (foreignFirst : ForeignFirst outside socket) (target : SocketAddr) :
    (∃ addr, (discoverWithSocket outside socket target).2 = .ok addr) ∧
      ¬ AnsweredOwn outside socket target := by
  obtain ⟨sends, receives, datagram, message, first, parsed, success, mapped, foreign⟩ :=
    foreignFirst
  obtain ⟨addr, isMapped⟩ := Option.isSome_iff_exists.mp mapped
  have exchanged : (exchangeDatagram outside socket target).2 =
      .ok (datagram.take RECV_BUFFER) :=
    (exchangeDatagram_eq_ok_iff _).mpr ⟨sends, receives, datagram, first, rfl⟩
  have answered := (readResponse_eq_ok_iff _ addr).mpr ⟨message, parsed, success, isMapped⟩
  refine ⟨⟨addr, (discoverWithSocket_eq_ok_iff addr).mpr ⟨_, exchanged, answered⟩⟩, ?_⟩
  rintro ⟨other, otherMessage, isOther, otherParsed, same⟩
  rw [exchanged] at isOther
  cases isOther
  rw [parsed] at otherParsed
  cases otherParsed
  exact foreign same

/-- A call keeps to its own answer exactly when no foreign one is first. -/
theorem returnsOwn_iff : ReturnsOwn outside socket target ↔ ¬ ForeignFirst outside socket := by
  constructor
  · intro own foreignFirst
    obtain ⟨⟨addr, returned⟩, foreign⟩ := foreignFirst.taken target
    exact foreign (own addr returned)
  · intro notForeign addr returned
    obtain ⟨received, exchanged, answered⟩ := (discoverWithSocket_eq_ok_iff addr).mp returned
    obtain ⟨message, parsed, success, mapped⟩ := (readResponse_eq_ok_iff _ addr).mp answered
    refine ⟨received, message, exchanged, parsed, ?_⟩
    by_contra foreign
    obtain ⟨sends, receives, datagram, first, rfl⟩ :=
      (exchangeDatagram_eq_ok_iff received).mp exchanged
    refine notForeign ⟨sends, receives, datagram, message, first, parsed, success, ?_, foreign⟩
    rw [mapped]
    rfl

end StunClient

/-! ### The checks of an agent -/

namespace IceAgent

open StunClient

/-- The socket when a round reaches the pair after `before`. -/
def reached (outside : Nat → Exchange) (socket : Socket) (before : List CandidatePair) :
    Socket :=
  (runChecks (checkPair outside) socket before).connection

/-- A round marks a pair as succeeded only when the request to its own remote
address was answered. -/
def MarksOwn (outside : Nat → Exchange) (socket : Socket) (checkList : List CandidatePair) :
    Prop :=
  ∀ before pair after, checkList = before ++ pair :: after → pair.state = .waiting →
    ((runChecks (checkPair outside) socket checkList).checkList[before.length]?).map
      CandidatePair.state = some .succeeded →
    AnsweredOwn outside (reached outside socket before) pair.remote.addr

/-- No pair that a round reaches finds a foreign answer first. -/
def NoForeignFirst (outside : Nat → Exchange) (socket : Socket)
    (checkList : List CandidatePair) : Prop :=
  ∀ before pair after, checkList = before ++ pair :: after → pair.state = .waiting →
    (runChecks (checkPair outside) socket before).found = none →
    ¬ ForeignFirst outside (reached outside socket before)

theorem checkPair_eq_ok_iff (outside : Nat → Exchange) (socket : Socket) (pair : CandidatePair)
    (addr : SocketAddr) :
    (checkPair outside socket pair).2 = .ok addr ↔
      (discoverWithSocket outside socket pair.remote.addr).2 = .ok addr := by
  change context _ (discoverWithSocket outside socket pair.remote.addr).2 = _ ↔ _
  cases (discoverWithSocket outside socket pair.remote.addr).2 with
  | ok other => exact Iff.rfl
  | error causes =>
      constructor
      · intro impossible
        cases impossible
      · intro impossible
        cases impossible

theorem marksOwn_iff (outside : Nat → Exchange) (socket : Socket)
    (checkList : List CandidatePair) :
    MarksOwn outside socket checkList ↔ NoForeignFirst outside socket checkList := by
  constructor
  · intro marksOwn before pair after split waiting failed foreignFirst
    obtain ⟨⟨addr, returned⟩, foreign⟩ := foreignFirst.taken pair.remote.addr
    apply foreign
    apply marksOwn before pair after split waiting
    rw [split, succeeded_iff (checkPair outside) socket before pair after waiting]
    exact ⟨failed, addr, (checkPair_eq_ok_iff outside _ _ addr).mpr returned⟩
  · intro noForeign before pair after split waiting marked
    rw [split, succeeded_iff (checkPair outside) socket before pair after waiting] at marked
    obtain ⟨failed, addr, answered⟩ := marked
    exact returnsOwn_iff.mpr (noForeign before pair after split waiting failed) addr
      ((checkPair_eq_ok_iff outside _ _ addr).mp answered)

/-- The calls of a session on one socket keep to their own answers exactly when
at no call a foreign answer is first in the queue; and the same holds of the
pairs that a round of checks marks. -/
theorem ownAnswers_iff (outside : Nat → Exchange) (socket : Socket) :
    (∀ targets : List SocketAddr,
      EachStep (call outside) (ReturnsOwn outside) socket targets ↔
        EachStep (call outside) (fun current _ => ¬ ForeignFirst outside current) socket
          targets) ∧
    (∀ checkList : List CandidatePair,
      MarksOwn outside socket checkList ↔ NoForeignFirst outside socket checkList) :=
  ⟨eachStep_congr (fun _ _ => returnsOwn_iff) socket, marksOwn_iff outside socket⟩

/-- A transaction id that tells the call with this number. -/
def numberedId (number : Nat) : TransactionId :=
  { bytes := UInt8.ofNat number :: List.replicate 11 0
    length_bytes := rfl }

/-- A Binding Success that reports 192.0.2.1:54321. -/
def bindingSuccess (tid : TransactionId) : Bytes :=
  [0x01, 0x01, 0x00, 0x0C, 0x21, 0x12, 0xA4, 0x42] ++ tid.bytes ++
    [0x00, 0x20, 0x00, 0x08, 0x00, 0x01, 0xF5, 0x23, 0xE1, 0x12, 0xA6, 0x43]

/-- The answer to the first request comes after its timeout, during the second
call. -/
def lateAnswer (number : Nat) : Exchange :=
  { transactionId := numberedId number
    sendError := none
    arrivals := if number = 1 then [bindingSuccess (numberedId 0)] else []
    recvError := none }

def freshSocket : Socket := { inbox := [], calls := 0, sent := [] }

def silentPeer : SocketAddr := .v4 0xC0000202 6000

def unreachablePeer : SocketAddr := .v4 0xC0000203 6000

def twoPairs : List CandidatePair :=
  [CandidatePair.new (Candidate.new .host (.v4 0 5000) 65535)
      (Candidate.new .host silentPeer 65535) .controlling,
    CandidatePair.new (Candidate.new .host (.v4 0 5000) 65535)
      (Candidate.new .host unreachablePeer 65535) .controlling]

theorem foreignFirst_lateAnswer :
    ForeignFirst lateAnswer (call lateAnswer freshSocket silentPeer) where
  sends := rfl
  receives := rfl
  foreign :=
    ⟨bindingSuccess (numberedId 0),
      { msgType := BINDING_SUCCESS
        transactionId := numberedId 0
        attributes := [.xorMappedAddress (.v4 0xC0000201 54321)] },
      rfl, by decide +kernel, rfl, rfl, by decide⟩

/-- The second of two calls takes the late answer to the first, and a round marks
the pair of a peer that never answered. -/
theorem lateAnswer_taken :
    (lateAnswer 0).transactionId ≠ (lateAnswer 1).transactionId ∧
    ¬ EachStep (call lateAnswer) (ReturnsOwn lateAnswer) freshSocket
      [silentPeer, unreachablePeer] ∧
    ¬ MarksOwn lateAnswer freshSocket twoPairs := by
  refine ⟨by decide, ?_, ?_⟩
  · rintro ⟨_, own, _⟩
    exact returnsOwn_iff.mp own foreignFirst_lateAnswer
  · intro marksOwn
    have noForeign := (marksOwn_iff lateAnswer freshSocket twoPairs).mp marksOwn
    exact noForeign (twoPairs.take 1) _ [] rfl rfl (by decide +kernel) foreignFirst_lateAnswer

end IceAgent

end Udpix.Traversal

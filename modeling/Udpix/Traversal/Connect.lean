/-
A whole call of `connect`.

The hole punch runs over a real socket, which STUN discovery and all checks
share, and falls back to a real TURN client on a socket of its own.  What the
outside does is given call by call.  A call on the shared socket takes the first
datagram that waits, whoever sent it, so whether it succeeds does not depend on
whom it asks, and the course of the punch is read off the queue: servers are
asked up to the first success, then the peer, and only then the TURN server.
-/

import Udpix.Library.FirstAnswer
import Udpix.Traversal.HolePunch
import Udpix.Traversal.Relay
import Udpix.Traversal.Transactions

namespace Udpix.Traversal

open BoundsCheck Fallible FirstAnswer Simulation
open Udpix.Protocol (Bytes)

/-- What the outside does during one call: the address that the shared socket is
bound to, the calls on it, an error of the TURN client's own `bind`, and the
rounds of the TURN client. -/
structure Network where
  bind : Except Error SocketAddr
  stun : Nat → Exchange
  turnBind : Option String
  first : TurnExchange
  second : TurnExchange
  permission : TurnExchange

/-- What a call leaves: the shared socket, the TURN client if there was one, and
what it returns. -/
structure Connected where
  socket : Socket
  turn : Option ChannelClient
  outcome : Except (Stop Error) HolePunchResult

def Socket.fresh : Socket := { inbox := [], calls := 0, sent := [] }

def TurnConfig.client (turnCfg : TurnConfig) : ChannelClient :=
  .new turnCfg.server turnCfg.username.toUTF8.toList turnCfg.password.toUTF8.toList

namespace TraversalEngine

section Crypto

variable (md5 : Bytes → Bytes) (hmacSha1 : Bytes → Bytes → Mac)

def turnCalls (network : Network) : TurnCalls ChannelClient :=
  { new := fun turnCfg =>
      match network.turnBind with
      | some cause => .error ["TURN UDP bind", cause]
      | none => .ok turnCfg.client
    allocate := fun client =>
      match client.allocate md5 hmacSha1 network.first network.second with
      | (after, .ok alloc) => .ok (after, alloc.relayedAddr)
      | (_, .error (.failed causes)) => .error causes
      | (_, .error _) => .error []
    createPermission := fun client peerAddr =>
      (client.createPermission md5 hmacSha1 network.permission peerAddr).2 }

/-- The surroundings of the punch.  What arrives during a pause is in the queue at
the next call. -/
def surroundings (network : Network) : Surroundings Socket ChannelClient :=
  { bind := network.bind.map fun localAddr => (Socket.fresh, localAddr)
    discover := StunClient.discoverWithSocket network.stun
    check := checkPair network.stun
    sleep := fun _ socket => socket
    turn := turnCalls md5 hmacSha1 network }

/-- The fallback, with the client that it leaves. -/
def relayThrough (network : Network) (config : HolePunchConfig) (peerPublicAddr : SocketAddr) :
    Option ChannelClient × Except (Stop Error) HolePunchResult :=
  match config.turn with
  | none =>
      (none, .error (.failed ["NAT traversal failed: ICE (" ++ toString config.attempts ++
        " attempts) and no TURN fallback configured"]))
  | some turnCfg =>
      match network.turnBind with
      | some cause => (none, .error (.failed ["TURN client init", "TURN UDP bind", cause]))
      | none =>
          match turnCfg.client.allocate md5 hmacSha1 network.first network.second with
          | (after, .error stop) =>
              (some after, contextChecked "TURN allocate" (.error stop))
          | (after, .ok alloc) =>
              match after.createPermission md5 hmacSha1 network.permission peerPublicAddr with
              | (last, .error causes) =>
                  (some last, .error (.failed ("TURN create_permission" :: causes)))
              | (last, .ok ()) =>
                  (some last, .ok { peerAddr := alloc.relayedAddr, relayUsed := true })

def connect (network : Network) (config : HolePunchConfig) (peerPublicAddr : SocketAddr) :
    Connected :=
  match network.bind with
  | .error causes =>
      { socket := Socket.fresh, turn := none, outcome := .error (.failed causes) }
  | .ok localAddr =>
      let (discovered, publicAddr) := HolePuncher.discoverPublic
        (StunClient.discoverWithSocket network.stun) Socket.fresh config.stunServers
      let agent := HolePuncher.buildAgent localAddr publicAddr peerPublicAddr
      match HolePuncher.tryChecks (surroundings md5 hmacSha1 network) config.attemptIntervalMs
          config.attempts discovered agent.checkList with
      | (after, some pair) =>
          { socket := after
            turn := none
            outcome := .ok { peerAddr := pair.remote.addr, relayUsed := false } }
      | (after, none) =>
          let (turn, outcome) := relayThrough md5 hmacSha1 network config peerPublicAddr
          { socket := after, turn := turn, outcome := outcome }

end Crypto

end TraversalEngine

/-! ### The calls on one socket -/

namespace StunClient

/-- The datagrams that wait on a socket before its call with this number. -/
def inboxAt (outside : Nat → Exchange) : Nat → List Bytes
  | 0 => []
  | number + 1 =>
      let queue := inboxAt outside number ++ (outside number).arrivals
      if (outside number).sendError = none ∧ (outside number).recvError = none then queue.tail
      else queue

/-- The address that the call with this number takes from the first datagram that
waits, whichever request that datagram answers. -/
def answerAt (outside : Nat → Exchange) (number : Nat) : Option SocketAddr :=
  if (outside number).sendError = none ∧ (outside number).recvError = none then
    (inboxAt outside number ++ (outside number).arrivals).head?.bind fun datagram =>
      (readResponse (datagram.take RECV_BUFFER)).toOption
  else none

/-- The first datagram that waits at the call with this number is this Binding
Success, and it has an address. -/
def Finds (outside : Nat → Exchange) (number : Nat) (message : StunMessage) : Prop :=
  (outside number).sendError = none ∧ (outside number).recvError = none ∧
    ∃ datagram, (inboxAt outside number ++ (outside number).arrivals).head? = some datagram ∧
      StunMessage.parse (datagram.take RECV_BUFFER) = .ok message ∧
      message.msgType = BINDING_SUCCESS ∧ message.mappedAddr.isSome = true

/-- The call finds the answer to its own request. -/
def FindsOwn (outside : Nat → Exchange) (number : Nat) : Prop :=
  ∃ message, Finds outside number message ∧
    message.transactionId = (outside number).transactionId

/-- The call finds the answer to another request. -/
def FindsForeign (outside : Nat → Exchange) (number : Nat) : Prop :=
  ∃ message, Finds outside number message ∧
    message.transactionId ≠ (outside number).transactionId

/-- The Binding Requests to these targets, without those that the socket refused. -/
def requestsFrom (outside : Nat → Exchange) : Nat → List SocketAddr → List (SocketAddr × Bytes)
  | _, [] => []
  | number, target :: rest =>
      (if (outside number).sendError = none then
        [(target, (StunMessage.newBindingRequest (outside number).transactionId).serialise)]
      else []) ++ requestsFrom outside (number + 1) rest

structure Reached (outside : Nat → Exchange) (number : Nat) (socket : Socket) : Prop where
  calls : socket.calls = number
  inbox : socket.inbox = inboxAt outside number

variable {outside : Nat → Exchange} {number : Nat} {socket : Socket}

theorem answerAt_isSome_iff (outside : Nat → Exchange) (number : Nat) :
    (answerAt outside number).isSome = true ↔
      FindsOwn outside number ∨ FindsForeign outside number := by
  have found : (answerAt outside number).isSome = true ↔
      ∃ message, Finds outside number message := by
    rw [answerAt]
    constructor
    · intro answered
      split at answered
      · rename_i works
        obtain ⟨addr, isAnswer⟩ := Option.isSome_iff_exists.mp answered
        obtain ⟨datagram, first, taken⟩ := Option.bind_eq_some_iff.mp isAnswer
        cases read : readResponse (datagram.take RECV_BUFFER) with
        | error causes =>
            rw [read] at taken
            cases taken
        | ok mappedTo =>
            obtain ⟨message, parsed, success, mapped⟩ := (readResponse_eq_ok_iff _ _).mp read
            refine ⟨message, works.1, works.2, datagram, first, parsed, success, ?_⟩
            rw [mapped]
            rfl
      · cases answered
    · intro given
      obtain ⟨message, sends, receives, datagram, first, parsed, success, mapped⟩ := given
      obtain ⟨addr, isMapped⟩ := Option.isSome_iff_exists.mp mapped
      have read := (readResponse_eq_ok_iff _ addr).mpr ⟨message, parsed, success, isMapped⟩
      rw [if_pos ⟨sends, receives⟩, first, Option.bind_some, read]
      rfl
  rw [found]
  constructor
  · intro given
    obtain ⟨message, finds⟩ := given
    by_cases own : message.transactionId = (outside number).transactionId
    · exact .inl ⟨message, finds, own⟩
    · exact .inr ⟨message, finds, own⟩
  · intro given
    rcases given with ⟨message, finds, _⟩ | ⟨message, finds, _⟩
    · exact ⟨message, finds⟩
    · exact ⟨message, finds⟩

theorem reached_fresh (outside : Nat → Exchange) : Reached outside 0 Socket.fresh := ⟨rfl, rfl⟩

theorem discoverWithSocket_spec (reached : Reached outside number socket) (target : SocketAddr) :
    (discoverWithSocket outside socket target).2.toOption = answerAt outside number ∧
      Reached outside (number + 1) (discoverWithSocket outside socket target).1 ∧
      (discoverWithSocket outside socket target).1.sent =
        socket.sent ++ requestsFrom outside number [target] := by
  obtain ⟨isCall, queued⟩ := reached
  rw [discoverWithSocket, exchangeDatagram, isCall, queued, requestsFrom, requestsFrom,
    List.append_nil, answerAt]
  have left := inboxAt.eq_2 outside number
  dsimp only at left ⊢
  cases sendError : (outside number).sendError with
  | some cause =>
      rw [if_neg (by simp [sendError])] at left
      rw [if_neg (by simp), if_neg (by simp), List.append_nil]
      exact ⟨rfl, ⟨rfl, left.symm⟩, rfl⟩
  | none =>
      rw [if_pos rfl]
      cases recvError : (outside number).recvError with
      | some cause =>
          rw [if_neg (by simp [recvError])] at left
          rw [if_neg (by simp)]
          exact ⟨rfl, ⟨rfl, left.symm⟩, rfl⟩
      | none =>
          rw [if_pos ⟨sendError, recvError⟩] at left
          rw [if_pos ⟨rfl, rfl⟩]
          cases queue : inboxAt outside number ++ (outside number).arrivals with
          | nil =>
              rw [queue] at left
              exact ⟨rfl, ⟨rfl, left.symm⟩, rfl⟩
          | cons datagram rest =>
              rw [queue] at left
              exact ⟨rfl, ⟨rfl, left.symm⟩, rfl⟩

def ask (outside : Nat → Exchange) (socket : Socket) (target : SocketAddr) :
    Socket × Option SocketAddr :=
  ((discoverWithSocket outside socket target).1,
    (discoverWithSocket outside socket target).2.toOption)

theorem ask_counts (outside : Nat → Exchange) (number : Nat) (socket : Socket)
    (target : SocketAddr) (reached : Reached outside number socket) :
    (ask outside socket target).2 = answerAt outside number ∧
      Reached outside (number + 1) (ask outside socket target).1 :=
  ⟨(discoverWithSocket_spec reached target).1, (discoverWithSocket_spec reached target).2.1⟩

theorem sent_final_ask (reached : Reached outside number socket) (targets : List SocketAddr) :
    (final (ask outside) socket targets).sent =
      socket.sent ++ requestsFrom outside number targets := by
  induction targets generalizing number socket with
  | nil => exact (List.append_nil _).symm
  | cons target rest ih =>
      obtain ⟨_, next, sent⟩ := discoverWithSocket_spec reached target
      have later := ih next
      rw [sent, List.append_assoc] at later
      rw [requestsFrom]
      rw [requestsFrom, requestsFrom, List.append_nil] at later
      exact later

end StunClient

/-! ### The punch as a search -/

namespace HolePuncher

open StunClient

theorem discoverPublic_eq_search (outside : Nat → Exchange) (socket : Socket)
    (servers : List SocketAddr) :
    discoverPublic (discoverWithSocket outside) socket servers =
      search (ask outside) socket servers := by
  induction servers generalizing socket with
  | nil => rfl
  | cons server rest ih =>
      rw [discoverPublic, search, ask]
      rcases discoverWithSocket outside socket server with ⟨next, causes | addr⟩
      · exact ih next
      · rfl

/-- A round over pairs that all wait for the same remote address. -/
theorem runChecks_eq_search (outside : Nat → Exchange) (socket : Socket) {peer : SocketAddr}
    {checkList : List CandidatePair}
    (fresh : ∀ pair, pair ∈ checkList → pair.state = .waiting ∧ pair.remote.addr = peer) :
    let round := IceAgent.runChecks (checkPair outside) socket checkList
    let found := search (ask outside) socket (List.replicate checkList.length peer)
    round.connection = found.1 ∧ round.found.isSome = found.2.isSome := by
  induction checkList generalizing socket with
  | nil => exact ⟨rfl, rfl⟩
  | cons pair rest ih =>
      obtain ⟨waiting, isPeer⟩ := fresh pair List.mem_cons_self
      have later := fun next : Socket =>
        ih next fun other member => fresh other (List.mem_cons_of_mem pair member)
      dsimp only at later ⊢
      rw [List.length_cons, List.replicate_succ, search, ask]
      rcases answer : discoverWithSocket outside socket peer with ⟨next, causes | addr⟩
      · have checked : checkPair outside socket { pair with state := .inProgress } =
            (next, .error ("ICE connectivity check failed" :: causes)) := by
          rw [checkPair, stunCheck, isPeer, answer]
          rfl
        rw [IceAgent.runChecks_cons_error rest waiting checked]
        exact later next
      · have checked : checkPair outside socket { pair with state := .inProgress } =
            (next, .ok addr) := by
          rw [checkPair, stunCheck, isPeer, answer]
          rfl
        rw [IceAgent.runChecks_cons_ok rest waiting checked]
        exact ⟨rfl, rfl⟩

section Attempts

variable {σ τ : Type} {outside : Surroundings σ τ}
  (still : ∀ intervalMs connection, outside.sleep intervalMs connection = connection)

include still

theorem tryChecks_settled (intervalMs attempts : Nat) (connection : σ)
    {checkList : List CandidatePair}
    (settled : ∀ pair, pair ∈ checkList → pair.state ≠ .waiting) :
    tryChecks outside intervalMs attempts connection checkList = (connection, none) := by
  induction attempts with
  | zero => rfl
  | succ attempts ih =>
      rw [tryChecks, IceAgent.runChecks_of_settled outside.check connection settled]
      dsimp only
      rw [still]
      exact ih

/-- Where pauses change nothing, all attempts together are the first one. -/
theorem tryChecks_succ (intervalMs attempts : Nat) (connection : σ)
    (checkList : List CandidatePair) :
    tryChecks outside intervalMs (attempts + 1) connection checkList =
      ((IceAgent.runChecks outside.check connection checkList).connection,
        (IceAgent.runChecks outside.check connection checkList).found) := by
  rw [tryChecks]
  cases isFound : (IceAgent.runChecks outside.check connection checkList).found with
  | some pair => rfl
  | none =>
      dsimp only
      rw [still]
      exact tryChecks_settled still intervalMs attempts _
        (IceAgent.settled_of_runChecks outside.check isFound)

end Attempts

/-- How many of our addresses can be paired with the peer. -/
def pairCount (localAddr : SocketAddr) (publicAddr : Option SocketAddr) (peer : SocketAddr) :
    Nat :=
  ((localAddr :: publicAddr.toList).filter fun addr => addr.isIpv4 == peer.isIpv4).length

theorem pairCount_le (localAddr : SocketAddr) (publicAddr : Option SocketAddr)
    (peer : SocketAddr) : pairCount localAddr publicAddr peer ≤ 2 := by
  have all := List.length_filter_le (fun addr : SocketAddr => addr.isIpv4 == peer.isIpv4)
    (localAddr :: publicAddr.toList)
  have few : (localAddr :: publicAddr.toList).length ≤ 2 := by
    cases publicAddr with
    | none => exact Nat.le_succ 1
    | some addr => exact Nat.le_refl 2
  exact Nat.le_trans all few

theorem length_formPairs (agent : IceAgent) {remote : Candidate}
    (single : agent.remoteCands = [remote]) :
    agent.formPairs.length =
      (agent.localCands.filter fun l => l.addr.isIpv4 == remote.addr.isIpv4).length := by
  rw [IceAgent.formPairs, single]
  induction agent.localCands with
  | nil => rfl
  | cons l rest ih =>
      rw [List.flatMap_cons, List.length_append, ih, List.filter_cons, List.filter_cons]
      by_cases family : (l.addr.isIpv4 == remote.addr.isIpv4) = true
      · rw [if_pos family, if_pos family]
        exact Nat.add_comm _ _
      · rw [if_neg family, if_neg family]
        exact Nat.zero_add _

theorem length_checkList (localAddr : SocketAddr) (publicAddr : Option SocketAddr)
    (peer : SocketAddr) :
    (buildAgent localAddr publicAddr peer).checkList.length =
      pairCount localAddr publicAddr peer := by
  have listed : (buildAgent localAddr publicAddr peer).checkList.length = _ :=
    (List.length_insertionSort _ _).trans (length_formPairs _ rfl)
  rw [listed, pairCount, ← List.countP_eq_length_filter, ← List.countP_eq_length_filter]
  cases publicAddr with
  | none => rfl
  | some addr => rfl

end HolePuncher

/-! ### The course of a call -/

namespace TraversalEngine

open StunClient HolePuncher

/-- How many STUN servers are asked, and the public address that the last of them
gives. -/
def serversAsked (network : Network) (config : HolePunchConfig) : Nat :=
  asked (answerAt network.stun) 0 config.stunServers.length

def publicAddr (network : Network) (config : HolePunchConfig) : Option SocketAddr :=
  answer (answerAt network.stun) 0 config.stunServers.length

def checksMade (network : Network) (config : HolePunchConfig) (localAddr peer : SocketAddr) :
    Nat :=
  if config.attempts = 0 then 0
  else asked (answerAt network.stun) (serversAsked network config)
    (pairCount localAddr (publicAddr network config) peer)

/-- The call on the shared socket with this number is one of the checks. -/
def IsCheck (network : Network) (config : HolePunchConfig) (localAddr peer : SocketAddr)
    (number : Nat) : Prop :=
  serversAsked network config ≤ number ∧
    number < serversAsked network config + checksMade network config localAddr peer

/-- One of the checks takes a Binding Success, be it the answer of the peer or a
late one of a server. -/
def TakesSuccess (network : Network) (config : HolePunchConfig) (localAddr peer : SocketAddr) :
    Prop :=
  ∃ number, IsCheck network config localAddr peer number ∧
    (FindsOwn network.stun number ∨ FindsForeign network.stun number)

/-- One of the checks is answered. -/
def Answered (network : Network) (config : HolePunchConfig) (localAddr peer : SocketAddr) :
    Prop :=
  ∃ number, IsCheck network config localAddr peer number ∧ FindsOwn network.stun number

theorem takesSuccess_iff_answered {network : Network} {config : HolePunchConfig}
    {localAddr peer : SocketAddr}
    (noForeign : ∀ number, IsCheck network config localAddr peer number →
      ¬ FindsForeign network.stun number) :
    TakesSuccess network config localAddr peer ↔ Answered network config localAddr peer := by
  constructor
  · intro given
    obtain ⟨number, isCheck, found⟩ := given
    exact ⟨number, isCheck, found.resolve_right (noForeign number isCheck)⟩
  · intro given
    obtain ⟨number, isCheck, own⟩ := given
    exact ⟨number, isCheck, .inl own⟩

def targets (network : Network) (config : HolePunchConfig) (localAddr peer : SocketAddr) :
    List SocketAddr :=
  config.stunServers.take (serversAsked network config) ++
    List.replicate (checksMade network config localAddr peer) peer

section Crypto

variable (md5 : Bytes → Bytes) (hmacSha1 : Bytes → Bytes → Mac)

def discovered (network : Network) (config : HolePunchConfig) : Socket :=
  final (ask network.stun) Socket.fresh (config.stunServers.take (serversAsked network config))

theorem discoverPublic_eq (network : Network) (config : HolePunchConfig) :
    discoverPublic (discoverWithSocket network.stun) Socket.fresh config.stunServers =
      (discovered network config, publicAddr network config) := by
  rw [discoverPublic_eq_search]
  exact search_eq (ask_counts network.stun) (reached_fresh network.stun) config.stunServers

theorem reached_discovered (network : Network) (config : HolePunchConfig) :
    Reached network.stun (serversAsked network config) (discovered network config) := by
  have reached := reached_final (fun number socket target reached =>
    (ask_counts network.stun number socket target reached).2) (reached_fresh network.stun)
    (config.stunServers.take (serversAsked network config))
  have few : serversAsked network config ≤ config.stunServers.length := asked_le _ _
  rw [List.length_take, Nat.min_eq_left few, Nat.zero_add] at reached
  exact reached

theorem runChecks_spec (network : Network) (config : HolePunchConfig)
    (localAddr peer : SocketAddr) :
    let pairs := pairCount localAddr (publicAddr network config) peer
    let round := IceAgent.runChecks (checkPair network.stun) (discovered network config)
      (buildAgent localAddr (publicAddr network config) peer).checkList
    round.connection = final (ask network.stun) (discovered network config)
        (List.replicate (asked (answerAt network.stun) (serversAsked network config) pairs) peer) ∧
      (round.found.isSome = true ↔ ∃ number, serversAsked network config ≤ number ∧
        number < serversAsked network config +
          asked (answerAt network.stun) (serversAsked network config) pairs ∧
        (answerAt network.stun number).isSome = true) := by
  intro pairs round
  have few : asked (answerAt network.stun) (serversAsked network config) pairs ≤ pairs :=
    asked_le _ _
  obtain ⟨connection, found⟩ := runChecks_eq_search network.stun (discovered network config)
    fun pair (member : pair ∈ (buildAgent localAddr (publicAddr network config) peer).checkList) =>
      of_mem_buildAgent member
  rw [length_checkList, search_eq (ask_counts network.stun) (reached_discovered network config),
    List.length_replicate] at connection found
  rw [List.take_replicate, Nat.min_eq_left few] at connection
  refine ⟨connection, ?_⟩
  rw [← answer_isSome_iff_asked, ← found]

/-- All attempts together: the socket has asked the peer that often, and a pair is
found exactly when a check takes a success. -/
theorem tryChecks_spec (network : Network) (config : HolePunchConfig)
    (localAddr peer : SocketAddr) :
    let tried := tryChecks (surroundings md5 hmacSha1 network) config.attemptIntervalMs
      config.attempts (discovered network config)
      (buildAgent localAddr (publicAddr network config) peer).checkList
    tried.1 = final (ask network.stun) Socket.fresh (targets network config localAddr peer) ∧
      (tried.2.isSome = true ↔ TakesSuccess network config localAddr peer) ∧
      ∀ pair, tried.2 = some pair → pair.remote.addr = peer := by
  obtain ⟨connection, found⟩ := runChecks_spec network config localAddr peer
  rw [targets, final_append, TakesSuccess]
  simp only [IsCheck, checksMade, ← answerAt_isSome_iff, and_assoc]
  cases config.attempts with
  | zero =>
      refine ⟨rfl, iff_of_false Bool.false_ne_true ?_, ?_⟩
      · intro given
        obtain ⟨number, later, before, _⟩ := given
        exact Nat.not_lt.mpr later before
      · intro pair impossible
        cases impossible
  | succ attempts =>
      rw [tryChecks_succ fun _ _ => rfl, if_neg (Nat.succ_ne_zero attempts)]
      refine ⟨connection, found, ?_⟩
      intro pair isFound
      obtain ⟨original, member, rfl⟩ := IceAgent.mem_of_runChecks_found _ isFound
      exact (of_mem_buildAgent member).2

/-- A direct path exactly when a check takes a success, and the fallback otherwise. -/
theorem connect_cases {network : Network} {localAddr : SocketAddr}
    (bound : network.bind = .ok localAddr) (config : HolePunchConfig) (peer : SocketAddr) :
    let socket := final (ask network.stun) Socket.fresh (targets network config localAddr peer)
    (TakesSuccess network config localAddr peer ∧ connect md5 hmacSha1 network config peer =
        { socket := socket, turn := none
          outcome := .ok { peerAddr := peer, relayUsed := false } }) ∨
      (¬ TakesSuccess network config localAddr peer ∧ connect md5 hmacSha1 network config peer =
        { socket := socket
          turn := (relayThrough md5 hmacSha1 network config peer).1
          outcome := (relayThrough md5 hmacSha1 network config peer).2 }) := by
  obtain ⟨connection, found, isPeer⟩ := tryChecks_spec md5 hmacSha1 network config localAddr peer
  rw [connect, bound]
  dsimp only
  rw [discoverPublic_eq]
  dsimp only
  rcases tried : tryChecks (surroundings md5 hmacSha1 network) config.attemptIntervalMs
      config.attempts (discovered network config)
      (buildAgent localAddr (publicAddr network config) peer).checkList with ⟨after, _ | pair⟩
  · rw [tried] at connection found
    refine .inr ⟨fun takes => Bool.false_ne_true (found.mpr takes), ?_⟩
    rw [← connection]
  · rw [tried] at connection found isPeer
    refine .inl ⟨found.mp rfl, ?_⟩
    rw [← connection]
    dsimp only
    rw [isPeer pair rfl]

end Crypto

end TraversalEngine

end Udpix.Traversal

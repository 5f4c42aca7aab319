/-
What a call of `connect` sends and returns.

Where no check takes a success the call falls back to the TURN server, whose
rounds decide the rest: the call leaves a buffer exactly on an answer without a
header, and it returns a relayed address exactly when the server challenged,
granted the address and confirmed the permission.
-/

import Udpix.Traversal.Connect
import Udpix.Traversal.RelayRuns

namespace Udpix.Traversal

open BoundsCheck Fallible FirstAnswer Simulation
open Udpix.Protocol (Bytes)

/-! ### The two answers of an allocation -/

theorem TransactionId.eq_of_bytes {tid other : TransactionId} (same : tid.bytes = other.bytes) :
    tid = other := by
  cases tid
  cases other
  cases same
  rfl

theorem grants_unique {r2 : Bytes} {addr other : SocketAddr} (grants : Grants r2 addr)
    (also : Grants r2 other) : addr = other := by
  obtain ⟨_, tid, attr, isTid, isFirst, reads⟩ := grants
  obtain ⟨_, tid', attr', isTid', isFirst', reads'⟩ := also
  have sameTid : tid = tid' := TransactionId.eq_of_bytes (isTid.trans isTid'.symm)
  have sameAttr : attr = attr' := Option.some.inj (isFirst.symm.trans isFirst')
  rw [sameTid, sameAttr] at reads
  exact Option.some.inj (reads.symm.trans reads')

theorem readAllocation_of_grants {r2 : Bytes} {addr : SocketAddr} (headed : 8 + 12 ≤ r2.length)
    (grants : Grants r2 addr) : ∃ alloc, readAllocation r2 = .ok alloc := by
  obtain ⟨success, tid, attr, isTid, isFirst, reads⟩ := grants
  have typed : 0 + 2 ≤ r2.length := Nat.le_trans (by decide) headed
  have sameTid : tid = ⟨slice r2 8 12, length_slice headed⟩ := TransactionId.eq_of_bytes isTid
  have found : ((parseRawAttrs (r2.drop HEADER_LEN)).find?
      (fun attr => attr.attrType == ATTR_XOR_RELAYED)).bind (fun attr =>
        parseXorMappedAddr attr.value ⟨slice r2 8 12, length_slice headed⟩) = some addr := by
    rw [isFirst, ← sameTid]
    exact reads
  obtain ⟨lifetime, lifetimeRead⟩ := lifetimeChecked_ok (parseRawAttrs (r2.drop HEADER_LEN))
  unfold readAllocation
  rw [u16Checked_of_le typed, ok_bind, if_neg (not_not.mpr success), ← bind_assoc,
    readTid_of_le headed, ok_bind, bodyAttrsChecked_of_le headed, ok_bind, firstAddrChecked_eq,
    ok_bind, found]
  dsimp only
  rw [firstAddrChecked_eq, ok_bind, lifetimeRead, ok_bind]
  exact ⟨_, rfl⟩

namespace TurnClient

/-- The two answers that the server gives for an allocation of this address. -/
def Granted (client : TurnClient) (first second : TurnExchange) (addr : SocketAddr) : Prop :=
  ∃ r1 r2, first.received = some r1 ∧ client.Challenges r1 ∧ second.received = some r2 ∧
    Grants r2 addr

theorem answersHeaded_iff {client : TurnClient} {first second : TurnExchange} {r1 : Bytes}
    (received : first.received = some r1) :
    client.AnswersHeaded first second ↔ HEADER_LEN ≤ r1.length ∧
      (client.Challenges r1 → ∀ r2, second.received = some r2 → HEADER_LEN ≤ r2.length) := by
  rw [AnswersHeaded, received]
  constructor
  · intro headed
    exact headed r1 rfl
  · intro headed other same
    cases same
    exact headed

theorem granted_iff {client : TurnClient} {first second : TurnExchange} {r1 : Bytes}
    (received : first.received = some r1) (addr : SocketAddr) :
    client.Granted first second addr ↔
      client.Challenges r1 ∧ ∃ r2, second.received = some r2 ∧ Grants r2 addr := by
  rw [Granted, received]
  constructor
  · intro given
    obtain ⟨other, r2, same, challenges, got, grants⟩ := given
    cases same
    exact ⟨challenges, r2, got, grants⟩
  · intro given
    obtain ⟨challenges, r2, got, grants⟩ := given
    exact ⟨r1, r2, rfl, challenges, got, grants⟩

theorem headed_of_challenges {client : TurnClient} {r1 : Bytes}
    (challenges : client.Challenges r1) : HEADER_LEN ≤ r1.length := by
  by_contra short
  have nothing : r1.drop HEADER_LEN = [] := List.drop_eq_nil_of_le (Nat.le_of_not_le short)
  rw [Challenges, nothing] at challenges
  exact absurd challenges.1 (by decide)

theorem headed_of_grants {r2 : Bytes} {addr : SocketAddr} (grants : Grants r2 addr) :
    HEADER_LEN ≤ r2.length := by
  by_contra short
  have nothing : r2.drop HEADER_LEN = [] := List.drop_eq_nil_of_le (Nat.le_of_not_le short)
  obtain ⟨_, _, attr, _, isFirst, _⟩ := grants
  rw [nothing] at isFirst
  cases isFirst

theorem Granted.headed {client : TurnClient} {first second : TurnExchange} {addr : SocketAddr}
    (granted : client.Granted first second addr) : client.AnswersHeaded first second := by
  obtain ⟨r1, r2, received, challenges, got, grants⟩ := granted
  rw [answersHeaded_iff received]
  refine ⟨headed_of_challenges challenges, ?_⟩
  intro _ other same
  rw [got] at same
  cases same
  exact headed_of_grants grants

theorem Granted.unique {client : TurnClient} {first second : TurnExchange}
    {addr other : SocketAddr} (granted : client.Granted first second addr)
    (also : client.Granted first second other) : addr = other := by
  obtain ⟨r1, r2, received, challenges, got, grants⟩ := granted
  obtain ⟨_, r2', got', grants'⟩ := (granted_iff received other).mp also
  rw [got] at got'
  cases got'
  exact grants_unique grants grants'

section Crypto

variable (md5 : Bytes → Bytes) (hmacSha1 : Bytes → Bytes → Mac)

theorem secondRound_cases (challenged : TurnClient) (second : TurnExchange) :
    (∃ again causes, challenged.sendAllocateRequest md5 hmacSha1 second true =
        (again, .error causes) ∧ second.received = none) ∨
      ∃ again r2, challenged.sendAllocateRequest md5 hmacSha1 second true = (again, .ok r2) ∧
        second.received = some r2 ∧
        ((r2.length < HEADER_LEN ∧ readAllocation r2 = .error .outOfRange) ∨
          (HEADER_LEN ≤ r2.length ∧ (∃ causes, readAllocation r2 = .error (.failed causes)) ∧
            ∀ addr, ¬ Grants r2 addr) ∨
          (HEADER_LEN ≤ r2.length ∧
            ∃ alloc, readAllocation r2 = .ok alloc ∧ Grants r2 alloc.relayedAddr)) := by
  rcases sendAllocateRequest_cases md5 hmacSha1 challenged second true with
    ⟨nothing, after, causes, failed, _⟩ | ⟨r2, sent, received, answered⟩
  · exact .inl ⟨after, causes, failed, nothing⟩
  · refine .inr ⟨_, r2, answered, received, ?_⟩
    rcases Nat.lt_or_ge r2.length HEADER_LEN with short | headed
    · exact .inl ⟨short, readAllocation_short short⟩
    · rcases readAllocation_cases headed with ⟨causes, failed⟩ | granted
      · refine .inr (.inl ⟨headed, ⟨causes, failed⟩, ?_⟩)
        intro addr grants
        obtain ⟨alloc, allocated⟩ := readAllocation_of_grants headed grants
        rw [failed] at allocated
        cases allocated
      · exact .inr (.inr ⟨headed, granted⟩)

theorem allocate_cases (client : TurnClient) (first second : TurnExchange) :
    (¬ client.AnswersHeaded first second ∧ ∃ after,
        client.allocate md5 hmacSha1 first second = (after, .error .outOfRange)) ∨
      (client.AnswersHeaded first second ∧
        ((∃ after causes, client.allocate md5 hmacSha1 first second =
            (after, .error (.failed causes)) ∧ ∀ addr, ¬ client.Granted first second addr) ∨
          ∃ after alloc, client.allocate md5 hmacSha1 first second = (after, .ok alloc) ∧
            client.Granted first second alloc.relayedAddr)) := by
  rw [allocate]
  rcases sendAllocateRequest_cases md5 hmacSha1 client first false with
    ⟨nothing, after, causes, failed, _⟩ | ⟨r1, sent, received, answered⟩
  · rw [failed]
    have noFirst : ∀ r1, first.received ≠ some r1 := by
      intro r1 got
      rw [nothing] at got
      cases got
    refine .inr ⟨?_, .inl ⟨after, causes, rfl, ?_⟩⟩
    · intro r1 got
      exact absurd got (noFirst r1)
    · intro addr granted
      obtain ⟨r1, _, got, _⟩ := granted
      exact noFirst r1 got
  · rw [answered, answersHeaded_iff received]
    simp only [granted_iff received]
    rcases Nat.lt_or_ge r1.length HEADER_LEN with short | headed
    · rw [readChallenge_short _ short]
      exact .inl ⟨fun both => Nat.not_lt.mpr both.1 short, _, rfl⟩
    · rcases readChallenge_cases { client with sent := sent } headed with
        ⟨challenges, challenged, read, _⟩ | ⟨noChallenge, after, causes, read, _⟩
      · rw [read]
        dsimp only
        rcases secondRound_cases md5 hmacSha1 challenged second with
          ⟨again, causes, failed, nothing⟩ | ⟨again, r2, answered, got, outcome⟩
        · rw [failed, nothing]
          refine .inr ⟨⟨headed, ?_⟩, .inl ⟨_, _, rfl, ?_⟩⟩
          · intro _ r2 impossible
            cases impossible
          · intro addr granted
            obtain ⟨_, r2, impossible, _⟩ := granted
            cases impossible
        · rw [answered, got]
          dsimp only
          rcases outcome with ⟨short, stopped⟩ | ⟨long, ⟨causes, failed⟩, none⟩ |
            ⟨long, alloc, granted, grants⟩
          · rw [stopped]
            exact .inl ⟨fun both => Nat.not_lt.mpr (both.2 challenges r2 rfl) short, _, rfl⟩
          · rw [failed]
            refine .inr ⟨⟨headed, fun _ other same => ?_⟩, .inl ⟨_, _, rfl, ?_⟩⟩
            · cases same
              exact long
            · intro addr given
              obtain ⟨_, other, same, grants⟩ := given
              cases same
              exact none addr grants
          · rw [granted]
            refine .inr ⟨⟨headed, fun _ other same => ?_⟩,
              .inr ⟨_, alloc, rfl, challenges, r2, rfl, grants⟩⟩
            cases same
            exact long
      · rw [read]
        exact .inr ⟨⟨headed, fun challenges => absurd challenges noChallenge⟩,
          .inl ⟨_, _, rfl, fun addr both => noChallenge both.1⟩⟩

end Crypto

end TurnClient

/-! ### The fallback -/

namespace TraversalEngine

open StunClient HolePuncher

section Crypto

variable (md5 : Bytes → Bytes) (hmacSha1 : Bytes → Bytes → Mac)

/-- The server confirms the permission. -/
def Permits (exchange : TurnExchange) : Prop :=
  exchange.sendError = none ∧ ∃ answer, exchange.answer = .datagram answer ∧
    replyType answer = TURN_CREATE_PERM_SUCCESS

theorem createPermission_cases (client : ChannelClient) (exchange : TurnExchange)
    (peer : SocketAddr) :
    (¬ Permits exchange ∧ ∃ last causes,
        client.createPermission md5 hmacSha1 exchange peer = (last, .error causes)) ∨
      (Permits exchange ∧ client.createPermission md5 hmacSha1 exchange peer =
        (client.push (client.permissionRequest md5 hmacSha1 exchange.transactionId peer),
          .ok ())) := by
  rw [ChannelClient.createPermission]
  rcases ChannelClient.request_cases client exchange
      (client.permissionRequest md5 hmacSha1 exchange.transactionId peer) "CreatePermission"
      TURN_CREATE_PERM_SUCCESS with
    ⟨causes, unsent, refused⟩ | ⟨causes, failed, other⟩ | ⟨answered, sent, answer, got, right⟩
  · exact .inl ⟨fun permits => refused permits.1, _, _, unsent⟩
  · refine .inl ⟨?_, _, _, failed⟩
    intro given
    obtain ⟨_, answer, got, right⟩ := given
    exact other answer got right
  · exact .inr ⟨⟨sent, answer, got, right⟩, answered⟩

/-- The TURN client is made. -/
def FallsBack (network : Network) (config : HolePunchConfig) (turnCfg : TurnConfig) : Prop :=
  config.turn = some turnCfg ∧ network.turnBind = none

theorem FallsBack.unique {network : Network} {config : HolePunchConfig}
    {turnCfg other : TurnConfig} (first : FallsBack network config turnCfg)
    (second : FallsBack network config other) : turnCfg = other :=
  Option.some.inj (first.1.symm.trans second.1)

inductive Fallback (network : Network) (config : HolePunchConfig) (peer : SocketAddr) :
    Option ChannelClient × Except (Stop Error) HolePunchResult → Prop where
  | missing {causes : Error} (absent : ∀ turnCfg, ¬ FallsBack network config turnCfg) :
      Fallback network config peer (none, .error (.failed causes))
  | leaves {turnCfg : TurnConfig} {after : ChannelClient}
      (falls : FallsBack network config turnCfg)
      (short : ¬ turnCfg.client.AnswersHeaded network.first network.second) :
      Fallback network config peer (some after, .error .outOfRange)
  | fails {turnCfg : TurnConfig} {last : ChannelClient} {causes : Error}
      (falls : FallsBack network config turnCfg)
      (headed : turnCfg.client.AnswersHeaded network.first network.second)
      (refused : ¬ Permits network.permission ∨
        ∀ addr, ¬ turnCfg.client.Granted network.first network.second addr) :
      Fallback network config peer (some last, .error (.failed causes))
  | relays {turnCfg : TurnConfig} {after : ChannelClient} {addr : SocketAddr}
      (falls : FallsBack network config turnCfg)
      (granted : turnCfg.client.Granted network.first network.second addr)
      (permits : Permits network.permission) :
      Fallback network config peer
        (some (after.push (after.permissionRequest md5 hmacSha1
          network.permission.transactionId peer)),
          .ok { peerAddr := addr, relayUsed := true })

theorem fallback_relayThrough (network : Network) (config : HolePunchConfig)
    (peer : SocketAddr) :
    Fallback md5 hmacSha1 network config peer
      (relayThrough md5 hmacSha1 network config peer) := by
  rw [relayThrough]
  cases configured : config.turn with
  | none =>
      refine .missing ?_
      intro turnCfg given
      obtain ⟨impossible, _⟩ := given
      rw [configured] at impossible
      cases impossible
  | some turnCfg =>
      cases bindError : network.turnBind with
      | some cause =>
          refine .missing ?_
          intro other given
          obtain ⟨_, impossible⟩ := given
          rw [bindError] at impossible
          cases impossible
      | none =>
          have falls : FallsBack network config turnCfg := ⟨configured, bindError⟩
          dsimp only
          rw [ChannelClient.allocate]
          rcases TurnClient.allocate_cases md5 hmacSha1 turnCfg.client.toTurnClient network.first
              network.second with
            ⟨short, after, stopped⟩ | ⟨headed, ⟨after, causes, failed, nothing⟩ |
              ⟨after, alloc, allocated, granted⟩⟩
          · rw [stopped]
            exact .leaves falls short
          · rw [failed]
            exact .fails falls headed (.inr nothing)
          · rw [allocated]
            dsimp only
            rcases createPermission_cases md5 hmacSha1
                { turnCfg.client with toTurnClient := after } network.permission peer with
              ⟨refused, last, causes, failed⟩ | ⟨permits, permitted⟩
            · rw [failed]
              exact .fails falls headed (.inl refused)
            · rw [permitted]
              exact .relays falls granted permits

section Outcomes

variable {md5 hmacSha1} {network : Network} {config : HolePunchConfig} {peer : SocketAddr}
  {result : Option ChannelClient × Except (Stop Error) HolePunchResult}

theorem Fallback.falls (fallback : Fallback md5 hmacSha1 network config peer result)
    {client : ChannelClient} (made : result.1 = some client) :
    ∃ turnCfg, FallsBack network config turnCfg := by
  cases fallback with
  | missing absent => cases made
  | leaves falls short => exact ⟨_, falls⟩
  | fails falls headed refused => exact ⟨_, falls⟩
  | relays falls granted permits => exact ⟨_, falls⟩

theorem Fallback.not_direct (fallback : Fallback md5 hmacSha1 network config peer result)
    (addr : SocketAddr) : result.2 ≠ .ok { peerAddr := addr, relayUsed := false } := by
  cases fallback with
  | missing absent => exact nofun
  | leaves falls short => exact nofun
  | fails falls headed refused => exact nofun
  | relays falls granted permits =>
      intro impossible
      cases impossible

theorem Fallback.relayed_iff (fallback : Fallback md5 hmacSha1 network config peer result)
    (addr : SocketAddr) :
    result.2 = .ok { peerAddr := addr, relayUsed := true } ↔
      Permits network.permission ∧ ∃ turnCfg, FallsBack network config turnCfg ∧
        turnCfg.client.Granted network.first network.second addr := by
  cases fallback with
  | missing absent =>
      refine iff_of_false nofun ?_
      intro given
      obtain ⟨_, turnCfg, falls, _⟩ := given
      exact absent turnCfg falls
  | leaves falls short =>
      refine iff_of_false nofun ?_
      intro given
      obtain ⟨_, other, also, granted⟩ := given
      cases falls.unique also
      exact short granted.headed
  | fails falls headed refused =>
      refine iff_of_false nofun ?_
      intro given
      obtain ⟨permits, other, also, granted⟩ := given
      cases falls.unique also
      exact refused.elim (fun denied => denied permits) fun nothing => nothing addr granted
  | relays falls granted permits =>
      constructor
      · intro same
        cases same
        exact ⟨permits, _, falls, granted⟩
      · intro given
        obtain ⟨_, other, also, second⟩ := given
        cases falls.unique also
        rw [granted.unique second]

theorem Fallback.stopped_iff (fallback : Fallback md5 hmacSha1 network config peer result) :
    result.2 = .error .outOfRange ↔ ∃ turnCfg, FallsBack network config turnCfg ∧
      ¬ turnCfg.client.AnswersHeaded network.first network.second := by
  cases fallback with
  | missing absent =>
      refine iff_of_false nofun ?_
      intro given
      obtain ⟨turnCfg, falls, _⟩ := given
      exact absent turnCfg falls
  | leaves falls short => exact iff_of_true rfl ⟨_, falls, short⟩
  | fails falls headed refused =>
      refine iff_of_false nofun ?_
      intro given
      obtain ⟨other, also, short⟩ := given
      cases falls.unique also
      exact short headed
  | relays falls granted permits =>
      refine iff_of_false nofun ?_
      intro given
      obtain ⟨other, also, short⟩ := given
      cases falls.unique also
      exact short granted.headed

theorem Fallback.permission (fallback : Fallback md5 hmacSha1 network config peer result)
    {addr : SocketAddr} (relayed : result.2 = .ok { peerAddr := addr, relayUsed := true }) :
    ∃ client, result.1 = some client ∧ client.sent.getLast? = some (client.serverAddr,
      client.permissionRequest md5 hmacSha1 network.permission.transactionId peer) := by
  cases fallback with
  | missing absent => cases relayed
  | leaves falls short => cases relayed
  | fails falls headed refused => cases relayed
  | relays falls granted permits => exact ⟨_, rfl, List.getLast?_concat⟩

end Outcomes

/-- A client without channels whose datagrams are requests to its server. -/
structure Asking (turnCfg : TurnConfig) (client : ChannelClient) : Prop where
  relaying : ChannelClient.Relaying md5 hmacSha1 turnCfg.server turnCfg.client.username
    turnCfg.client.password client
  channels : client.channels = ∅

variable {md5 hmacSha1}

theorem Asking.requests {turnCfg : TurnConfig} {client : ChannelClient}
    (asking : Asking md5 hmacSha1 turnCfg client) :
    ∀ item, item ∈ client.sent → item.1 = turnCfg.server ∧
      IsRequest md5 hmacSha1 turnCfg.client.username turnCfg.client.password item.2 := by
  intro item member
  obtain ⟨toServer, isRequest | ⟨channel, _, bound, _⟩⟩ := asking.relaying.sent item member
  · exact ⟨toServer, isRequest⟩
  · rw [asking.channels] at bound
    exact absurd bound (AList.notMem_empty channel)

theorem asking_relayThrough {network : Network} {config : HolePunchConfig}
    {turnCfg : TurnConfig} (falls : FallsBack network config turnCfg)
    (short : turnCfg.client.username.length ≤ 60000) (peer : SocketAddr) {client : ChannelClient}
    (made : (relayThrough md5 hmacSha1 network config peer).1 = some client) :
    Asking md5 hmacSha1 turnCfg client := by
  have start : ChannelClient.Relaying md5 hmacSha1 turnCfg.server turnCfg.client.username
      turnCfg.client.password turnCfg.client := ChannelClient.relaying_new _ short _
  have relaying := start.allocate network.first network.second
  have channels : (turnCfg.client.allocate md5 hmacSha1 network.first network.second).1.channels =
      ∅ := rfl
  rw [relayThrough, falls.1, falls.2] at made
  dsimp only at made
  rcases allocated : turnCfg.client.allocate md5 hmacSha1 network.first network.second with
    ⟨after, stop | alloc⟩
  · rw [allocated] at made relaying channels
    cases made
    exact ⟨relaying, channels⟩
  · rw [allocated] at made relaying channels
    dsimp only at made relaying channels
    have asked := relaying.request network.permission
      (relaying.permissionRequest network.permission.transactionId peer) "CreatePermission"
      TURN_CREATE_PERM_SUCCESS
    have untouched := ChannelClient.untouched_request after network.permission
      (after.permissionRequest md5 hmacSha1 network.permission.transactionId peer)
      "CreatePermission" TURN_CREATE_PERM_SUCCESS
    have isLast : (after.createPermission md5 hmacSha1 network.permission peer).1 = client := by
      rcases permitted : after.createPermission md5 hmacSha1 network.permission peer with
        ⟨last, causes | _⟩
      · rw [permitted] at made
        cases made
        rfl
      · rw [permitted] at made
        cases made
        rfl
    rw [← isLast]
    exact ⟨asked, untouched.channels.trans channels⟩

variable (md5 hmacSha1)

/-- Where the answers have headers, the fallback is the one of the punch over given
calls. -/
theorem relayThrough_eq_relay {network : Network} {config : HolePunchConfig}
    (headed : ∀ turnCfg, config.turn = some turnCfg →
      turnCfg.client.AnswersHeaded network.first network.second) (peer : SocketAddr) :
    (relayThrough md5 hmacSha1 network config peer).2 =
      inRange (relay (turnCalls md5 hmacSha1 network) config peer) := by
  rw [relayThrough, relay]
  cases configured : config.turn with
  | none => rfl
  | some turnCfg =>
      rw [turnCalls]
      cases bindError : network.turnBind with
      | some cause => rfl
      | none =>
          dsimp only
          have isHeaded := headed turnCfg configured
          rcases TurnClient.allocate_cases md5 hmacSha1 turnCfg.client.toTurnClient network.first
              network.second with
            ⟨short, _⟩ | ⟨_, ⟨after, causes, failed, _⟩ | ⟨after, alloc, allocated, _⟩⟩
          · exact absurd isHeaded short
          · have allocation : turnCfg.client.allocate md5 hmacSha1 network.first network.second =
                ({ turnCfg.client with toTurnClient := after }, .error (.failed causes)) := by
              rw [ChannelClient.allocate, failed]
            rw [allocation, context, ok_bind]
            dsimp only
            rw [allocation]
            rfl
          · have allocation : turnCfg.client.allocate md5 hmacSha1 network.first network.second =
                ({ turnCfg.client with toTurnClient := after }, .ok alloc) := by
              rw [ChannelClient.allocate, allocated]
            rw [allocation, context, ok_bind]
            dsimp only
            rw [allocation, context, ok_bind]
            dsimp only
            rcases ChannelClient.createPermission md5 hmacSha1
                { turnCfg.client with toTurnClient := after } network.permission peer with
              ⟨last, causes | _⟩
            · rfl
            · rfl

theorem connect_eq_punch {network : Network} {config : HolePunchConfig}
    (headed : ∀ turnCfg, config.turn = some turnCfg →
      turnCfg.client.AnswersHeaded network.first network.second) (peer : SocketAddr) :
    (connect md5 hmacSha1 network config peer).outcome =
      inRange (punch (surroundings md5 hmacSha1 network) config peer) := by
  have fallback := relayThrough_eq_relay md5 hmacSha1 headed peer
  rw [connect, punch]
  cases isBound : network.bind with
  | error causes =>
      rw [surroundings, isBound]
      rfl
  | ok localAddr =>
      have bound : (surroundings md5 hmacSha1 network).bind = .ok (Socket.fresh, localAddr) := by
        rw [surroundings, isBound]
        rfl
      have found : discoverPublic (surroundings md5 hmacSha1 network).discover Socket.fresh
          config.stunServers = (discovered network config, publicAddr network config) :=
        discoverPublic_eq network config
      rw [bound]
      dsimp only
      rw [found, discoverPublic_eq]
      dsimp only
      rcases tryChecks (surroundings md5 hmacSha1 network) config.attemptIntervalMs
        config.attempts (discovered network config)
        (buildAgent localAddr (publicAddr network config) peer).checkList with ⟨after, _ | pair⟩
      · exact fallback
      · rfl

structure Course (network : Network) (config : HolePunchConfig) (localAddr peer : SocketAddr)
    (result : Connected) : Prop where
  /-- Binding Requests to the servers up to the first that answers and then to the
  peer, however many attempts are allowed. -/
  requests : result.socket.sent =
    requestsFrom network.stun 0 (targets network config localAddr peer)
  fewChecks : checksMade network config localAddr peer ≤ 2
  direct : ∀ addr, result.outcome = .ok { peerAddr := addr, relayUsed := false } ↔
    addr = peer ∧ TakesSuccess network config localAddr peer
  /-- Where no check finds the answer to another request first, a direct path means
  that a check was answered. -/
  answered : (∀ number, IsCheck network config localAddr peer number →
      ¬ FindsForeign network.stun number) →
    ∀ addr, result.outcome = .ok { peerAddr := addr, relayUsed := false } ↔
      addr = peer ∧ Answered network config localAddr peer
  relayed : ∀ addr, result.outcome = .ok { peerAddr := addr, relayUsed := true } ↔
    ¬ TakesSuccess network config localAddr peer ∧ Permits network.permission ∧
      ∃ turnCfg, FallsBack network config turnCfg ∧
        turnCfg.client.Granted network.first network.second addr
  stopped : result.outcome = .error .outOfRange ↔
    ¬ TakesSuccess network config localAddr peer ∧ ∃ turnCfg, FallsBack network config turnCfg ∧
      ¬ turnCfg.client.AnswersHeaded network.first network.second
  /-- The TURN server hears nothing of a direct path. -/
  noRelay : TakesSuccess network config localAddr peer → result.turn = none
  turnRequests : ∀ turnCfg client, config.turn = some turnCfg →
    turnCfg.client.username.length ≤ 60000 → result.turn = some client →
    ∀ item, item ∈ client.sent → item.1 = turnCfg.server ∧
      IsRequest md5 hmacSha1 turnCfg.client.username turnCfg.client.password item.2
  /-- Before a relayed address is returned, the permission for the peer was asked. -/
  permission : ∀ addr, result.outcome = .ok { peerAddr := addr, relayUsed := true } →
    ∃ client, result.turn = some client ∧ client.sent.getLast? = some (client.serverAddr,
      client.permissionRequest md5 hmacSha1 network.permission.transactionId peer)
  punched : (∀ turnCfg, config.turn = some turnCfg →
      turnCfg.client.AnswersHeaded network.first network.second) →
    result.outcome = inRange (punch (surroundings md5 hmacSha1 network) config peer)

theorem checksMade_le (network : Network) (config : HolePunchConfig)
    (localAddr peer : SocketAddr) : checksMade network config localAddr peer ≤ 2 := by
  rw [checksMade]
  split
  · exact Nat.zero_le 2
  · exact Nat.le_trans (asked_le _ _) (pairCount_le _ _ _)

/-- Whatever the STUN servers, the peer and the TURN server answer: which requests
go out, and what the call returns. -/
theorem connect_course {network : Network} {localAddr : SocketAddr}
    (bound : network.bind = .ok localAddr) (config : HolePunchConfig) (peer : SocketAddr) :
    Course md5 hmacSha1 network config localAddr peer
      (connect md5 hmacSha1 network config peer) := by
  have sent := sent_final_ask (reached_fresh network.stun) (targets network config localAddr peer)
  have punched : _ → (connect md5 hmacSha1 network config peer).outcome = _ :=
    fun headed => connect_eq_punch md5 hmacSha1 headed peer
  rcases connect_cases md5 hmacSha1 bound config peer with ⟨takes, isDirect⟩ | ⟨fails, isRelay⟩
  · rw [isDirect] at punched ⊢
    have direct : ∀ addr, (Except.ok { peerAddr := peer, relayUsed := false } :
        Except (Stop Error) HolePunchResult) = .ok { peerAddr := addr, relayUsed := false } ↔
          addr = peer ∧ TakesSuccess network config localAddr peer := by
      intro addr
      constructor
      · intro same
        cases same
        exact ⟨rfl, takes⟩
      · intro given
        obtain ⟨rfl, _⟩ := given
        rfl
    exact
      { requests := sent
        fewChecks := checksMade_le network config localAddr peer
        direct := direct
        answered := fun noForeign addr =>
          (direct addr).trans (and_congr_right' (takesSuccess_iff_answered noForeign))
        relayed := fun addr => iff_of_false nofun fun both => both.1 takes
        stopped := iff_of_false nofun fun both => both.1 takes
        noRelay := fun _ => rfl
        turnRequests := fun _ _ _ _ impossible => nomatch impossible
        permission := fun _ impossible => nomatch impossible
        punched := punched }
  · have fallback := fallback_relayThrough md5 hmacSha1 network config peer
    rw [isRelay] at punched ⊢
    refine
      { requests := sent
        fewChecks := checksMade_le network config localAddr peer
        direct := fun addr => iff_of_false (fallback.not_direct addr) fun both => fails both.2
        answered := ?_
        relayed := fun addr => (fallback.relayed_iff addr).trans (and_iff_right fails).symm
        stopped := fallback.stopped_iff.trans (and_iff_right fails).symm
        noRelay := fun takes => absurd takes fails
        turnRequests := ?_
        permission := fun addr relayed => fallback.permission relayed
        punched := punched }
    · intro noForeign addr
      refine iff_of_false (fallback.not_direct addr) ?_
      intro both
      exact fails ((takesSuccess_iff_answered noForeign).mpr both.2)
    · intro turnCfg client configured short made
      obtain ⟨other, falls⟩ := fallback.falls made
      have same : other = turnCfg := Option.some.inj (falls.1.symm.trans configured)
      subst same
      exact (asking_relayThrough falls short peer made).requests

end Crypto

def numberedTid (number : UInt8) : TransactionId :=
  ⟨List.replicate 12 number, List.length_replicate⟩

/-- Nobody answers on the shared socket, and the TURN server challenges with the
realm `r` and the nonce `n` and then grants 198.51.100.2:50000. -/
def grantingServer : Network where
  bind := .ok (.v4 0x0A000002 5000)
  stun := fun number =>
    { transactionId := numberedTid number.toUInt8
      sendError := none
      arrivals := []
      recvError := none }
  turnBind := none
  first :=
    { transactionId := numberedTid 1
      sendError := none
      answer := .datagram ([0x01, 0x13, 0, 24, 0x21, 0x12, 0xA4, 0x42] ++ List.replicate 12 1 ++
        [0, 0x09, 0, 4, 0, 0, 4, 1] ++ [0, 0x14, 0, 1, 0x72, 0, 0, 0] ++
        [0, 0x15, 0, 1, 0x6E, 0, 0, 0]) }
  second :=
    { transactionId := numberedTid 2
      sendError := none
      answer := .datagram ([0x01, 0x03, 0, 12, 0x21, 0x12, 0xA4, 0x42] ++ List.replicate 12 2 ++
        [0, 0x16, 0, 8, 0, 1, 226, 66, 231, 33, 192, 64]) }
  permission :=
    { transactionId := numberedTid 3
      sendError := none
      answer := .datagram ([0x01, 0x08, 0, 0, 0x21, 0x12, 0xA4, 0x42] ++ List.replicate 12 3) }

theorem inboxAt_grantingServer (number : Nat) : inboxAt grantingServer.stun number = [] := by
  induction number with
  | zero => rfl
  | succ number ih =>
      rw [inboxAt, ih]
      rfl

theorem answerAt_grantingServer (number : Nat) : answerAt grantingServer.stun number = none := by
  rw [answerAt, inboxAt_grantingServer]
  rfl

/-- The user `u` with the password `p` gets a relayed address, under the key and
the codes that MD5 and HMAC-SHA1 give, after one request to the STUN server and
one to the peer. -/
theorem connect_course_grantingServer :
    let md5 : Bytes → Bytes := fun _ =>
      [68, 173, 210, 43, 111, 49, 121, 183, 81, 234, 253, 104, 238, 55, 15, 125]
    let hmacSha1 : Bytes → Bytes → Mac := fun _ message =>
      if message.length = 60 then
        ⟨[209, 83, 102, 107, 57, 86, 236, 139, 116, 15, 72, 232, 11, 35, 14, 110, 40, 210, 92, 213],
          rfl⟩
      else
        ⟨[32, 188, 195, 218, 100, 15, 202, 214, 205, 148, 86, 88, 106, 86, 114, 131, 84, 10, 212,
          137], rfl⟩
    let config : HolePunchConfig :=
      { HolePunchConfig.default with
        stunServers := [.v4 0xC6336401 3478]
        turn := some { server := .v4 0xC6336402 3478, username := "u", password := "p" } }
    let result := connect md5 hmacSha1 grantingServer config (.v4 0xCB007105 4000)
    result.outcome = .ok { peerAddr := .v4 0xC6336402 50000, relayUsed := true } ∧
      result.socket.sent.map Prod.fst = [.v4 0xC6336401 3478, .v4 0xCB007105 4000] := by
  intro md5 hmacSha1 config result
  have bound : grantingServer.bind = .ok (.v4 0x0A000002 5000) := rfl
  have course := connect_course md5 hmacSha1 bound config (.v4 0xCB007105 4000)
  constructor
  · rw [course.relayed]
    refine ⟨?_, ⟨rfl, _, rfl, rfl⟩, _, ⟨rfl, rfl⟩, _, _, rfl, ⟨rfl, by decide, by decide⟩, rfl, rfl,
      numberedTid 2, ⟨ATTR_XOR_RELAYED, [0, 1, 226, 66, 231, 33, 192, 64]⟩, rfl, rfl, rfl⟩
    intro given
    obtain ⟨number, _, found⟩ := given
    have answered := (answerAt_isSome_iff grantingServer.stun number).mpr found
    rw [answerAt_grantingServer] at answered
    cases answered
  · rw [course.requests]
    rfl

end TraversalEngine

end Udpix.Traversal
/-
A TURN client over its whole life.

The table of channels is what the client remembers of the answers, and everything
that it ever sends is kept beside it.  What one call can do is said once for each
of them, and a run is one call after the other.
-/

import Udpix.Traversal.Relay
import Mathlib.Data.List.Induction

namespace Udpix.Traversal

open BoundsCheck
open Udpix.Protocol (Bytes)

/-! ### What a call does -/

namespace ChannelClient

theorem request_cases (client : ChannelClient) (exchange : TurnExchange) (wire : Bytes)
    (label : String) (success : UInt16) :
    (∃ causes, client.request exchange wire label success = (client, .error causes) ∧
        exchange.sendError ≠ none) ∨
      (∃ causes, client.request exchange wire label success = (client.push wire, .error causes) ∧
        ∀ answer, exchange.answer = .datagram answer → replyType answer ≠ success) ∨
      (client.request exchange wire label success = (client.push wire, .ok ()) ∧
        exchange.sendError = none ∧
        ∃ answer, exchange.answer = .datagram answer ∧ replyType answer = success) := by
  rw [request]
  cases exchange.sendError with
  | some cause => exact .inl ⟨_, rfl, Option.some_ne_none cause⟩
  | none =>
      cases exchange.answer with
      | timeout => exact .inr (.inl ⟨_, rfl, fun _ impossible => nomatch impossible⟩)
      | recvError cause => exact .inr (.inl ⟨_, rfl, fun _ impossible => nomatch impossible⟩)
      | datagram answer =>
          dsimp only
          split
          · rename_i other
            refine .inr (.inl ⟨_, rfl, ?_⟩)
            intro same read
            cases read
            exact other
          · rename_i right
            exact .inr (.inr ⟨rfl, rfl, answer, rfl, not_not.mp right⟩)

section Crypto

variable (md5 : Bytes → Bytes) (hmacSha1 : Bytes → Bytes → Mac)

/-- A frame of a channel that is bound. -/
def IsFrame (client : ChannelClient) (bytes : Bytes) : Prop :=
  ∃ channel data, channel ∈ client.channels ∧ bytes = channelFrame channel data

structure Relaying (server : SocketAddr) (username password : Bytes) (client : ChannelClient) :
    Prop where
  sameServer : client.serverAddr = server
  sameUser : client.username = username
  samePassword : client.password = password
  bounded : client.Bounded
  inRange : ∀ channel, channel ∈ client.channels → InRange channel
  sent : ∀ item, item ∈ client.sent → item.1 = server ∧
    (IsRequest md5 hmacSha1 username password item.2 ∨ client.IsFrame item.2)

variable {md5 hmacSha1} {server : SocketAddr} {username password : Bytes} {client : ChannelClient}

theorem Relaying.push (relaying : Relaying md5 hmacSha1 server username password client)
    {wire : Bytes} (allowed : IsRequest md5 hmacSha1 username password wire ∨ client.IsFrame wire) :
    Relaying md5 hmacSha1 server username password (client.push wire) where
  sameServer := relaying.sameServer
  sameUser := relaying.sameUser
  samePassword := relaying.samePassword
  bounded := ⟨relaying.bounded.username, relaying.bounded.realm, relaying.bounded.nonce⟩
  inRange := relaying.inRange
  sent := by
    intro item member
    rcases List.mem_append.mp member with old | fresh
    · exact relaying.sent item old
    · rw [List.mem_singleton.mp fresh]
      exact ⟨relaying.sameServer, allowed⟩

theorem Relaying.signed (relaying : Relaying md5 hmacSha1 server username password client)
    {msgType : UInt16} (listed : msgType ∈ requestTypes) (tid : TransactionId)
    (own : List (UInt16 × Bytes))
    (typed : ∀ attr, attr ∈ own → attr.1 ≠ ATTR_MAPPED ∧ attr.1 ≠ ATTR_XOR_MAPPED)
    (small : paddedTotal own ≤ 64) :
    IsRequest md5 hmacSha1 username password
      (client.sign md5 hmacSha1 ((TurnMsg.new msgType tid).pushAll own)) := by
  have signed := signedRequest_of_pushAll md5 hmacSha1 relaying.bounded listed tid own typed small
  rw [TurnMsg.pushAll_append] at signed
  rw [← relaying.sameUser, ← relaying.samePassword]
  exact .inr signed

theorem length_encodeXorPeer_le (addr : SocketAddr) (tid : TransactionId) :
    (encodeXorPeer addr tid).length ≤ 20 := by
  cases addr with
  | v4 ip port =>
      rw [encodeXorPeer, List.length_append, List.length_append, length_toBeBytes,
        length_toBeBytes]
      decide
  | v6 ip port flowinfo scopeId =>
      rw [encodeXorPeer, List.length_append, List.length_append, length_toBeBytes,
        ip.length_octets]
      decide

theorem Relaying.request (relaying : Relaying md5 hmacSha1 server username password client)
    (exchange : TurnExchange) {wire : Bytes}
    (isRequest : IsRequest md5 hmacSha1 username password wire) (label : String)
    (success : UInt16) :
    Relaying md5 hmacSha1 server username password
      (client.request exchange wire label success).1 := by
  rcases request_cases client exchange wire label success with
    ⟨causes, unsent, _⟩ | ⟨causes, refused, _⟩ | ⟨answered, _⟩
  · rw [unsent]
    exact relaying
  · rw [refused]
    exact relaying.push (.inl isRequest)
  · rw [answered]
    exact relaying.push (.inl isRequest)

theorem Relaying.bind (relaying : Relaying md5 hmacSha1 server username password client)
    {channel : UInt16} (inRange : InRange channel) (peerAddr : SocketAddr) :
    Relaying md5 hmacSha1 server username password
      { client with channels := client.channels.insert channel peerAddr } where
  sameServer := relaying.sameServer
  sameUser := relaying.sameUser
  samePassword := relaying.samePassword
  bounded := relaying.bounded
  inRange := by
    intro other member
    rcases (AList.mem_insert _).mp member with rfl | older
    · exact inRange
    · exact relaying.inRange other older
  sent := by
    intro item member
    obtain ⟨toServer, kind⟩ := relaying.sent item member
    refine ⟨toServer, kind.imp_right ?_⟩
    rintro ⟨bound, data, present, framed⟩
    exact ⟨bound, data, (AList.mem_insert _).mpr (.inr present), framed⟩

theorem Relaying.allocate (relaying : Relaying md5 hmacSha1 server username password client)
    (first second : TurnExchange) :
    Relaying md5 hmacSha1 server username password
      (client.allocate md5 hmacSha1 first second).1 := by
  obtain ⟨keeps, _⟩ := TurnClient.keeps_allocate md5 hmacSha1 relaying.bounded first second
  refine
    { sameServer := keeps.serverAddr.trans relaying.sameServer
      sameUser := keeps.username.trans relaying.sameUser
      samePassword := keeps.password.trans relaying.samePassword
      bounded := keeps.bounded
      inRange := relaying.inRange
      sent := ?_ }
  obtain ⟨requests, sent, own⟩ := keeps.sent
  intro item member
  have split : item ∈ client.sent ++ requests := by
    rw [← sent]
    exact member
  rcases List.mem_append.mp split with old | fresh
  · exact relaying.sent item old
  · have answered := own item fresh
    rw [relaying.sameServer, relaying.sameUser, relaying.samePassword] at answered
    exact ⟨answered.1, .inl answered.2⟩

/-! The three requests besides the allocation. -/

theorem Relaying.permissionRequest
    (relaying : Relaying md5 hmacSha1 server username password client) (tid : TransactionId)
    (peerAddr : SocketAddr) :
    IsRequest md5 hmacSha1 username password
      (client.permissionRequest md5 hmacSha1 tid peerAddr) := by
  have short := length_encodeXorPeer_le peerAddr tid
  have padded := padding_lt (encodeXorPeer peerAddr tid).length
  have types : ∀ attrType, attrType ∈ [ATTR_XOR_PEER_ADDR] →
      attrType ≠ ATTR_MAPPED ∧ attrType ≠ ATTR_XOR_MAPPED := by
    rw [List.forall_mem_singleton]
    decide
  apply relaying.signed (by decide) tid [(ATTR_XOR_PEER_ADDR, encodeXorPeer peerAddr tid)]
  · intro attr member
    exact types attr.1 (List.mem_map_of_mem member)
  · simp only [paddedTotal, List.map_cons, List.map_nil, List.sum_cons, List.sum_nil, ATTR_HDR_LEN]
    omega

theorem Relaying.bindRequest (relaying : Relaying md5 hmacSha1 server username password client)
    (tid : TransactionId) (channel : UInt16) (peerAddr : SocketAddr) :
    IsRequest md5 hmacSha1 username password
      (client.bindRequest md5 hmacSha1 tid channel peerAddr) := by
  have short := length_encodeXorPeer_le peerAddr tid
  have padded := padding_lt (encodeXorPeer peerAddr tid).length
  have types : ∀ attrType, attrType ∈ [ATTR_CHANNEL_NUMBER, ATTR_XOR_PEER_ADDR] →
      attrType ≠ ATTR_MAPPED ∧ attrType ≠ ATTR_XOR_MAPPED := by
    rw [List.forall_mem_cons, List.forall_mem_singleton]
    decide
  apply relaying.signed (by decide) tid
    [(ATTR_CHANNEL_NUMBER, [(channel >>> 8).toUInt8, channel.toUInt8, 0, 0]),
      (ATTR_XOR_PEER_ADDR, encodeXorPeer peerAddr tid)]
  · intro attr member
    exact types attr.1 (List.mem_map_of_mem member)
  · have four : padding 4 = 0 := rfl
    simp only [paddedTotal, List.map_cons, List.map_nil, List.sum_cons, List.sum_nil, ATTR_HDR_LEN,
      List.length_cons, List.length_nil, four]
    omega

theorem Relaying.refreshRequest (relaying : Relaying md5 hmacSha1 server username password client)
    (tid : TransactionId) :
    IsRequest md5 hmacSha1 username password (client.refreshRequest md5 hmacSha1 tid) :=
  relaying.signed (by decide) tid [(ATTR_LIFETIME, toBeBytes 4 600)] (by decide) (by decide)

theorem Relaying.dispatch (relaying : Relaying md5 hmacSha1 server username password client)
    (sendError : Option String) {wire : Bytes}
    (allowed : IsRequest md5 hmacSha1 username password wire ∨ client.IsFrame wire)
    (label : String) :
    Relaying md5 hmacSha1 server username password
      (client.dispatch sendError wire label).1 := by
  cases sendError with
  | some cause => exact relaying
  | none => exact relaying.push allowed

theorem Relaying.sendChannelData (relaying : Relaying md5 hmacSha1 server username password client)
    (sendError : Option String) (channel : UInt16) (data : Bytes) :
    Relaying md5 hmacSha1 server username password
      (client.sendChannelData sendError channel data).1 := by
  rw [ChannelClient.sendChannelData]
  split
  · rename_i bound
    exact relaying.dispatch sendError (.inr ⟨channel, data, bound, rfl⟩) _
  · exact relaying

theorem Relaying.bindChannel (relaying : Relaying md5 hmacSha1 server username password client)
    (exchange : TurnExchange) (channel : UInt16) (peerAddr : SocketAddr) :
    Relaying md5 hmacSha1 server username password
      (client.bindChannel md5 hmacSha1 exchange channel peerAddr).1 := by
  have asked := relaying.request exchange
    (relaying.bindRequest exchange.transactionId channel peerAddr) "ChannelBind"
    TURN_CHANNEL_BIND_OK
  rw [ChannelClient.bindChannel]
  split
  · rename_i inRange
    cases answered : client.request exchange
        (client.bindRequest md5 hmacSha1 exchange.transactionId channel peerAddr) "ChannelBind"
        TURN_CHANNEL_BIND_OK with
    | mk waiting outcome =>
        rw [answered] at asked
        cases outcome with
        | error causes => exact asked
        | ok _ => exact asked.bind inRange peerAddr
  · exact relaying

theorem Relaying.call (relaying : Relaying md5 hmacSha1 server username password client)
    (call : TurnCall) :
    Relaying md5 hmacSha1 server username password (client.call md5 hmacSha1 call).1 := by
  cases call with
  | allocate first second => exact relaying.allocate first second
  | createPermission exchange peerAddr =>
      exact relaying.request exchange (relaying.permissionRequest _ peerAddr) _ _
  | bindChannel exchange channel peerAddr => exact relaying.bindChannel exchange channel peerAddr
  | sendChannelData sendError channel data => exact relaying.sendChannelData sendError channel data
  | refresh tid sendError =>
      exact relaying.dispatch sendError (.inl (relaying.refreshRequest tid)) _

theorem relaying_new (server : SocketAddr) {username : Bytes} (short : username.length ≤ 60000)
    (password : Bytes) :
    Relaying md5 hmacSha1 server username password (new server username password) where
  sameServer := rfl
  sameUser := rfl
  samePassword := rfl
  bounded := ⟨short, Nat.zero_le _, Nat.zero_le _⟩
  inRange := fun _ impossible => absurd impossible (AList.notMem_empty _)
  sent := fun _ impossible => nomatch impossible

theorem Relaying.run (relaying : Relaying md5 hmacSha1 server username password client)
    (calls : List TurnCall) :
    Relaying md5 hmacSha1 server username password (client.run md5 hmacSha1 calls) := by
  induction calls generalizing client with
  | nil => exact relaying
  | cons call rest ih => exact ih (relaying.call call)

/-! ### The table of channels -/

variable (md5 hmacSha1)

/-- The channels and the allocation stay as they are. -/
structure Untouched (before after : ChannelClient) : Prop where
  channels : after.channels = before.channels
  allocation : after.allocation = before.allocation

theorem untouched_request (client : ChannelClient) (exchange : TurnExchange) (wire : Bytes)
    (label : String) (success : UInt16) :
    Untouched client (client.request exchange wire label success).1 := by
  rcases request_cases client exchange wire label success with
    ⟨causes, unsent, _⟩ | ⟨causes, refused, _⟩ | ⟨answered, _⟩
  · rw [unsent]
    exact ⟨rfl, rfl⟩
  · rw [refused]
    exact ⟨rfl, rfl⟩
  · rw [answered]
    exact ⟨rfl, rfl⟩

theorem untouched_dispatch (client : ChannelClient) (sendError : Option String) (wire : Bytes)
    (label : String) : Untouched client (client.dispatch sendError wire label).1 := by
  cases sendError with
  | some cause => exact ⟨rfl, rfl⟩
  | none => exact ⟨rfl, rfl⟩

theorem untouched_sendChannelData (client : ChannelClient) (sendError : Option String)
    (channel : UInt16) (data : Bytes) :
    Untouched client (client.sendChannelData sendError channel data).1 := by
  rw [sendChannelData]
  split
  · exact untouched_dispatch client sendError _ _
  · exact ⟨rfl, rfl⟩

theorem lookup_bindChannel (client : ChannelClient) (exchange : TurnExchange) (bound : UInt16)
    (peerAddr : SocketAddr) (channel : UInt16) :
    (client.bindChannel md5 hmacSha1 exchange bound peerAddr).1.channels.lookup channel =
      ((TurnCall.bindChannel exchange bound peerAddr).confirms channel).or
        (client.channels.lookup channel) := by
  rw [bindChannel, TurnCall.confirms]
  split
  · rename_i inRange
    rcases request_cases client exchange
        (client.bindRequest md5 hmacSha1 exchange.transactionId bound peerAddr) "ChannelBind"
        TURN_CHANNEL_BIND_OK with
      ⟨causes, unsent, broken⟩ | ⟨causes, refused, wrong⟩ | ⟨answered, clear, answer, read, right⟩
    · rw [unsent]
      cases failed : exchange.sendError with
      | none => exact absurd failed broken
      | some cause => rfl
    · rw [refused]
      cases exchange.sendError with
      | some cause => rfl
      | none =>
          cases reply : exchange.answer with
          | timeout => rfl
          | recvError cause => rfl
          | datagram answer =>
              dsimp only
              rw [if_neg (fun all => wrong answer reply all.2.2), Option.none_or, push]
    · rw [answered, clear, read]
      dsimp only
      by_cases same : bound = channel
      · rw [if_pos ⟨same, inRange, right⟩, same, AList.lookup_insert, Option.some_or]
      · rw [if_neg (fun all => same all.1), Option.none_or,
          AList.lookup_insert_ne (Ne.symm same), push]
  · rename_i outside
    cases exchange.sendError with
    | some cause => rfl
    | none =>
        cases exchange.answer with
        | timeout => rfl
        | recvError cause => rfl
        | datagram answer =>
            dsimp only
            rw [if_neg (fun all => outside all.2.1), Option.none_or]

theorem lookup_call (client : ChannelClient) (call : TurnCall) (channel : UInt16) :
    (client.call md5 hmacSha1 call).1.channels.lookup channel =
      (call.confirms channel).or (client.channels.lookup channel) := by
  cases call with
  | allocate first second => rfl
  | createPermission exchange peerAddr =>
      exact congrArg (AList.lookup channel) (untouched_request client exchange _ _ _).channels
  | bindChannel exchange bound peerAddr =>
      exact lookup_bindChannel md5 hmacSha1 client exchange bound peerAddr channel
  | sendChannelData sendError bound data =>
      exact congrArg (AList.lookup channel)
        (untouched_sendChannelData client sendError bound data).channels
  | refresh tid sendError =>
      exact congrArg (AList.lookup channel) (untouched_dispatch client sendError _ _).channels

theorem lookup_run (client : ChannelClient) (calls : List TurnCall) (channel : UInt16) :
    (client.run md5 hmacSha1 calls).channels.lookup channel =
      (calls.filterMap (TurnCall.confirms channel)).getLast?.or
        (client.channels.lookup channel) := by
  induction calls using List.reverseRecOn with
  | nil => rfl
  | append_singleton calls call ih =>
      have last : client.run md5 hmacSha1 (calls ++ [call]) =
          ((client.run md5 hmacSha1 calls).call md5 hmacSha1 call).1 := List.foldl_concat _ _ _ _
      rw [last, lookup_call, ih, List.filterMap_append]
      cases confirmed : call.confirms channel with
      | none =>
          rw [List.filterMap_cons_none confirmed, List.filterMap_nil, List.append_nil,
            Option.none_or]
      | some peerAddr =>
          rw [List.filterMap_cons_some confirmed, List.filterMap_nil, List.getLast?_concat,
            Option.some_or, Option.some_or]

theorem untouched_of_bindChannel_error (client : ChannelClient) (exchange : TurnExchange)
    (channel : UInt16) (peerAddr : SocketAddr) {causes : Error}
    (failed : (client.bindChannel md5 hmacSha1 exchange channel peerAddr).2 = .error causes) :
    Untouched client (client.bindChannel md5 hmacSha1 exchange channel peerAddr).1 := by
  have asked := untouched_request client exchange
    (client.bindRequest md5 hmacSha1 exchange.transactionId channel peerAddr) "ChannelBind"
    TURN_CHANNEL_BIND_OK
  rw [bindChannel] at failed ⊢
  split at failed
  · rename_i inRange
    rw [if_pos inRange]
    cases answered : client.request exchange
        (client.bindRequest md5 hmacSha1 exchange.transactionId channel peerAddr) "ChannelBind"
        TURN_CHANNEL_BIND_OK with
    | mk waiting outcome =>
        rw [answered] at asked failed
        cases outcome with
        | error causes => exact asked
        | ok _ => cases failed
  · rename_i outside
    rw [if_neg outside]
    exact ⟨rfl, rfl⟩

theorem untouched_of_error {client : ChannelClient} (bounded : client.Bounded) (call : TurnCall)
    {stop : Stop Error} (failed : (client.call md5 hmacSha1 call).2 = .error stop) :
    Untouched client (client.call md5 hmacSha1 call).1 := by
  cases call with
  | allocate first second =>
      have kept := (TurnClient.keeps_allocate md5 hmacSha1 bounded first second).2
      change Except.map _ (client.toTurnClient.allocate md5 hmacSha1 first second).2 = _ at failed
      cases outcome : (client.toTurnClient.allocate md5 hmacSha1 first second).2 with
      | error reason => exact ⟨rfl, kept reason outcome⟩
      | ok alloc =>
          rw [outcome] at failed
          cases failed
  | createPermission exchange peerAddr => exact untouched_request client exchange _ _ _
  | bindChannel exchange channel peerAddr =>
      change returned (client.bindChannel md5 hmacSha1 exchange channel peerAddr).2 = _ at failed
      cases outcome : (client.bindChannel md5 hmacSha1 exchange channel peerAddr).2 with
      | error causes =>
          exact untouched_of_bindChannel_error md5 hmacSha1 client exchange channel peerAddr outcome
      | ok _ =>
          rw [outcome] at failed
          cases failed
  | sendChannelData sendError channel data =>
      exact untouched_sendChannelData client sendError channel data
  | refresh tid sendError => exact untouched_dispatch client sendError _ _

/-! ### Both kinds of datagrams -/

theorem u16At_channelFrame (channel : UInt16) (data : Bytes) :
    u16At (channelFrame channel data) 0 = channel := by
  rw [channelFrame, List.append_assoc]
  exact (u16At_append [] _ List.length_nil).trans UInt16.ofNat_toNat

theorem slice_channelFrame (channel : UInt16) {data : Bytes} (short : data.length < 2 ^ 16) :
    slice (channelFrame channel data) 4 (u16At (channelFrame channel data) 2).toNat = data := by
  have field : u16At (channelFrame channel data) 2 = UInt16.ofNat data.length := by
    rw [channelFrame, List.append_assoc]
    exact u16At_append _ _ (length_toBeBytes 2 _)
  have start : (toBeBytes 2 channel.toNat ++ toBeBytes 2 data.length).length = 4 := by
    rw [List.length_append, length_toBeBytes, length_toBeBytes]
  have counted : (UInt16.ofNat data.length).toNat = data.length := UInt16.toNat_ofNat_of_lt' short
  rw [field, counted, channelFrame, slice, List.drop_left' start, List.take_length]

theorem requestTypes_lt : ∀ msgType, msgType ∈ requestTypes → msgType < 0x4000 := by
  rw [requestTypes, List.forall_mem_cons, List.forall_mem_cons, List.forall_mem_cons,
    List.forall_mem_singleton]
  decide

theorem u16At_of_isRequest {username password bytes : Bytes}
    (isRequest : IsRequest md5 hmacSha1 username password bytes) : u16At bytes 0 < 0x4000 := by
  rcases isRequest with ⟨tid, attrs, written⟩ | ⟨msgType, tid, own, realm, nonce, listed, written⟩
  · rw [written.serialised, u16At_zero_serialise]
    exact requestTypes_lt _ List.mem_cons_self
  · rw [written.serialised, u16At_zero_serialise]
    exact requestTypes_lt _ listed

/-- Over every run of a new client: a channel is bound to the peer of its last
bind that the server confirmed, if there was one, and all bound channels are in
the range for channels.  Everything that was sent went to the server, and its
first two bytes say what it is: below 0x4000 a request, which reads back as the
message that was signed, and from there on data of a bound channel, which the
length field delimits.  A further call that fails changes neither the channels
nor the allocation. -/
theorem run_relays (server : SocketAddr) (username password : Bytes)
    (short : username.length ≤ 60000) (calls : List TurnCall) :
    let client := (new server username password).run md5 hmacSha1 calls
    (∀ channel, client.channels.lookup channel =
      (calls.filterMap (TurnCall.confirms channel)).getLast?) ∧
    (∀ channel, channel ∈ client.channels → InRange channel) ∧
    (∀ item, item ∈ client.sent → item.1 = server ∧
      ((u16At item.2 0 < 0x4000 ∧ IsRequest md5 hmacSha1 username password item.2) ∨
        (InRange (u16At item.2 0) ∧ u16At item.2 0 ∈ client.channels ∧
          ∃ data, item.2 = channelFrame (u16At item.2 0) data ∧
            (data.length < 2 ^ 16 → slice item.2 4 (u16At item.2 2).toNat = data)))) ∧
    ∀ call stop, (client.call md5 hmacSha1 call).2 = .error stop →
      Untouched client (client.call md5 hmacSha1 call).1 := by
  have relaying : Relaying md5 hmacSha1 server username password
      ((new server username password).run md5 hmacSha1 calls) :=
    (relaying_new server short password).run calls
  refine ⟨?_, relaying.inRange, ?_, ?_⟩
  · intro channel
    rw [lookup_run]
    exact Option.or_none
  · intro item member
    obtain ⟨toServer, isRequest | ⟨channel, data, bound, framed⟩⟩ := relaying.sent item member
    · exact ⟨toServer, .inl ⟨u16At_of_isRequest md5 hmacSha1 isRequest, isRequest⟩⟩
    · have isChannel : u16At item.2 0 = channel := by
        rw [framed]
        exact u16At_channelFrame channel data
      rw [isChannel]
      refine ⟨toServer, .inr ⟨relaying.inRange channel bound, bound, data, framed, ?_⟩⟩
      intro fits
      rw [framed]
      exact slice_channelFrame channel fits
  · intro call stop failed
    exact untouched_of_error md5 hmacSha1 relaying.bounded call failed

end Crypto

/-- The user `u` with the password `p` binds the channel 0x4000, under the key and
the code that MD5 and HMAC-SHA1 give, and sends a byte through it. -/
theorem run_relays_oneBind :
    let md5 : Bytes → Bytes := fun _ =>
      [188, 144, 32, 121, 145, 211, 254, 120, 36, 227, 174, 241, 238, 74, 150, 163]
    let hmacSha1 : Bytes → Bytes → Mac := fun _ _ =>
      ⟨[165, 59, 194, 155, 103, 52, 17, 182, 252, 38, 28, 11, 166, 76, 134, 254, 111, 210, 254,
        118], rfl⟩
    let exchange : TurnExchange :=
      { transactionId := ⟨[1, 2, 3, 4, 5, 6, 7, 8, 9, 10, 11, 12], rfl⟩
        sendError := none
        answer := .datagram [0x01, 0x09] }
    let client := (new (.v4 0x7F000001 3478) [0x75] [0x70]).run md5 hmacSha1
      [.bindChannel exchange 0x4000 (.v4 0x0A000001 9), .sendChannelData none 0x4000 [7]]
    client.channels.lookup 0x4000 = some (.v4 0x0A000001 9) ∧ InRange 0x4000 := by
  intro md5 hmacSha1 exchange client
  obtain ⟨channels, inRange, _⟩ := run_relays md5 hmacSha1 (.v4 0x7F000001 3478) [0x75] [0x70]
    (by decide)
    [.bindChannel exchange 0x4000 (.v4 0x0A000001 9), .sendChannelData none 0x4000 [7]]
  have bound := (channels 0x4000).trans
    (rfl : _ = some (SocketAddr.v4 0x0A000001 9))
  exact ⟨bound, inRange 0x4000 (AList.lookup_isSome.mp (Option.isSome_of_eq_some bound))⟩

end ChannelClient

end Udpix.Traversal

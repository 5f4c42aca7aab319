/-
The calls of a TURN client.

After the allocation the client installs permissions, binds channels, sends data
through them and refreshes.  Every call but the allocation talks to the socket
once; what the outside does then is an argument.  The requests are messages of
the STUN encoder, signed with the credentials that the last challenge gave.
-/

import Udpix.Library.AssocMap
import Udpix.Traversal.Allocation

namespace Udpix.Traversal

open BoundsCheck
open Udpix.Protocol (Bytes)

def TURN_REFRESH_REQUEST : UInt16 := 0x0004
def TURN_CREATE_PERM_REQUEST : UInt16 := 0x0008
def TURN_CREATE_PERM_SUCCESS : UInt16 := 0x0108
def TURN_CHANNEL_BIND : UInt16 := 0x0009
def TURN_CHANNEL_BIND_OK : UInt16 := 0x0109
def ATTR_CHANNEL_NUMBER : UInt16 := 0x000C
def ATTR_XOR_PEER_ADDR : UInt16 := 0x0012

structure ChannelClient extends TurnClient where
  channels : AssocMap UInt16 SocketAddr

def TURN_REPLY_BUFFER : Nat := 512

/-- The first two bytes of the buffer, which is full of zeros before the answer
is copied into it. -/
def replyType (answer : Bytes) : UInt16 :=
  let received := answer.take TURN_REPLY_BUFFER
  u16At (received ++ List.replicate (TURN_REPLY_BUFFER - received.length) 0) 0

/-- A frame of channel data: the channel, the length and the data. -/
def channelFrame (channel : UInt16) (data : Bytes) : Bytes :=
  toBeBytes 2 channel.toNat ++ toBeBytes 2 data.length ++ data

namespace ChannelClient

def new (server : SocketAddr) (username password : Bytes) : ChannelClient :=
  { serverAddr := server
    username := username
    password := password
    realm := []
    nonce := []
    allocation := none
    sent := []
    channels := ∅ }

def push (client : ChannelClient) (wire : Bytes) : ChannelClient :=
  { client with sent := client.sent ++ [(client.serverAddr, wire)] }

section Crypto

variable (md5 : Bytes → Bytes) (hmacSha1 : Bytes → Bytes → Mac)

/-- The message with the credentials and its code. -/
def sign (client : ChannelClient) (msg : TurnMsg) : Bytes :=
  let signed := ((msg.pushAttr ATTR_USERNAME client.username).pushAttr ATTR_REALM
    client.realm).pushAttr ATTR_NONCE client.nonce
  signed.buildWithIntegrity hmacSha1
    (TurnClient.deriveKey md5 client.username client.realm client.password)

def allocate (client : ChannelClient) (first second : TurnExchange) :
    ChannelClient × Except (Stop Error) TurnAllocation :=
  match client.toTurnClient.allocate md5 hmacSha1 first second with
  | (after, outcome) => ({ client with toTurnClient := after }, outcome)

/-- Send one request and look at the type of the answer.  `label` is the name of
the request in the errors. -/
def request (client : ChannelClient) (exchange : TurnExchange) (wire : Bytes) (label : String)
    (success : UInt16) : ChannelClient × Except Error Unit :=
  match exchange.sendError with
  | some cause => (client, .error ["TURN " ++ label ++ " send", cause])
  | none =>
      let waiting := client.push wire
      match exchange.answer with
      | .timeout => (waiting, .error ["TURN " ++ label ++ " timeout", "deadline has elapsed"])
      | .recvError cause => (waiting, .error ["TURN " ++ label ++ " recv", cause])
      | .datagram answer =>
          let msgType := replyType answer
          if msgType ≠ success then
            (waiting, .error ["TURN " ++ label ++ " failed: 0x" ++ hexUpper 4 msgType.toNat])
          else (waiting, .ok ())

def permissionRequest (client : ChannelClient) (tid : TransactionId) (peerAddr : SocketAddr) :
    Bytes :=
  client.sign md5 hmacSha1 ((TurnMsg.new TURN_CREATE_PERM_REQUEST tid).pushAttr
    ATTR_XOR_PEER_ADDR (encodeXorPeer peerAddr tid))

def createPermission (client : ChannelClient) (exchange : TurnExchange) (peerAddr : SocketAddr) :
    ChannelClient × Except Error Unit :=
  client.request exchange
    (client.permissionRequest md5 hmacSha1 exchange.transactionId peerAddr)
    "CreatePermission" TURN_CREATE_PERM_SUCCESS

def bindRequest (client : ChannelClient) (tid : TransactionId) (channel : UInt16)
    (peerAddr : SocketAddr) : Bytes :=
  client.sign md5 hmacSha1 (((TurnMsg.new TURN_CHANNEL_BIND tid).pushAttr ATTR_CHANNEL_NUMBER
    [(channel >>> 8).toUInt8, channel.toUInt8, 0, 0]).pushAttr
    ATTR_XOR_PEER_ADDR (encodeXorPeer peerAddr tid))

/-- The numbers that channels may have. -/
def InRange (channel : UInt16) : Prop := 0x4000 ≤ channel ∧ channel ≤ 0x7FFF

instance (channel : UInt16) : Decidable (InRange channel) := inferInstanceAs (Decidable (_ ∧ _))

def bindChannel (client : ChannelClient) (exchange : TurnExchange) (channel : UInt16)
    (peerAddr : SocketAddr) : ChannelClient × Except Error Unit :=
  if InRange channel then
    match client.request exchange
        (client.bindRequest md5 hmacSha1 exchange.transactionId channel peerAddr)
        "ChannelBind" TURN_CHANNEL_BIND_OK with
    | (waiting, .error causes) => (waiting, .error causes)
    | (waiting, .ok ()) =>
        ({ waiting with channels := waiting.channels.insert channel peerAddr }, .ok ())
  else
    (client, .error ["TURN channel number must be 0x4000–0x7FFF, got 0x" ++
      hexUpper 4 channel.toNat])

/-- Send without waiting for an answer. -/
def dispatch (client : ChannelClient) (sendError : Option String) (wire : Bytes)
    (label : String) : ChannelClient × Except Error Unit :=
  match sendError with
  | some cause => (client, .error ["TURN " ++ label ++ " send", cause])
  | none => (client.push wire, .ok ())

def sendChannelData (client : ChannelClient) (sendError : Option String) (channel : UInt16)
    (data : Bytes) : ChannelClient × Except Error Unit :=
  if channel ∈ client.channels then
    client.dispatch sendError (channelFrame channel data) "ChannelData"
  else (client, .error ["TURN channel 0x" ++ hexUpper 4 channel.toNat ++ " not bound"])

def refreshRequest (client : ChannelClient) (tid : TransactionId) : Bytes :=
  client.sign md5 hmacSha1 ((TurnMsg.new TURN_REFRESH_REQUEST tid).pushAttr ATTR_LIFETIME
    (toBeBytes 4 600))

def refresh (client : ChannelClient) (tid : TransactionId) (sendError : Option String) :
    ChannelClient × Except Error Unit :=
  client.dispatch sendError (client.refreshRequest md5 hmacSha1 tid) "Refresh"

end Crypto

end ChannelClient

inductive TurnCall where
  | allocate (first second : TurnExchange)
  | createPermission (exchange : TurnExchange) (peerAddr : SocketAddr)
  | bindChannel (exchange : TurnExchange) (channel : UInt16) (peerAddr : SocketAddr)
  | sendChannelData (sendError : Option String) (channel : UInt16) (data : Bytes)
  | refresh (tid : TransactionId) (sendError : Option String)

/-- A bind that the server confirmed, and of which channel. -/
def TurnCall.confirms (channel : UInt16) : TurnCall → Option SocketAddr
  | .bindChannel exchange bound peerAddr =>
      match exchange.sendError, exchange.answer with
      | none, .datagram answer =>
          if bound = channel ∧ ChannelClient.InRange bound ∧
              replyType answer = TURN_CHANNEL_BIND_OK then some peerAddr
          else none
      | _, _ => none
  | _ => none

namespace ChannelClient

section Crypto

variable (md5 : Bytes → Bytes) (hmacSha1 : Bytes → Bytes → Mac)

def returned : Except Error Unit → Except (Stop Error) Unit
  | .ok () => .ok ()
  | .error causes => .error (.failed causes)

def call (client : ChannelClient) : TurnCall → ChannelClient × Except (Stop Error) Unit
  | .allocate first second =>
      match client.allocate md5 hmacSha1 first second with
      | (after, outcome) => (after, outcome.map fun _ => ())
  | .createPermission exchange peerAddr =>
      match client.createPermission md5 hmacSha1 exchange peerAddr with
      | (after, outcome) => (after, returned outcome)
  | .bindChannel exchange channel peerAddr =>
      match client.bindChannel md5 hmacSha1 exchange channel peerAddr with
      | (after, outcome) => (after, returned outcome)
  | .sendChannelData sendError channel data =>
      match client.sendChannelData sendError channel data with
      | (after, outcome) => (after, returned outcome)
  | .refresh tid sendError =>
      match client.refresh md5 hmacSha1 tid sendError with
      | (after, outcome) => (after, returned outcome)

def run (client : ChannelClient) (calls : List TurnCall) : ChannelClient :=
  calls.foldl (fun current call => (current.call md5 hmacSha1 call).1) client

end Crypto

end ChannelClient

/-! ### The requests -/

namespace TurnMsg

variable (hmacSha1 : Bytes → Bytes → Mac)

theorem pushAll_append (msg : TurnMsg) (first second : List (UInt16 × Bytes)) :
    msg.pushAll (first ++ second) = (msg.pushAll first).pushAll second :=
  List.foldl_append

/-- A message with a code is read back as it was written. -/
theorem writtenAs_buildWithIntegrity (msgType : UInt16) (tid : TransactionId)
    (attrs : List (UInt16 × Bytes)) (key : Bytes)
    (typed : ∀ attr, attr ∈ attrs → attr.1 ≠ ATTR_MAPPED ∧ attr.1 ≠ ATTR_XOR_MAPPED)
    (fits : paddedTotal attrs + 24 ≤ 65535) :
    WrittenAs (((new msgType tid).pushAll attrs).buildWithIntegrity hmacSha1 key)
      ⟨msgType, tid, unknownAttrs attrs ++ [.unknown ATTR_MSG_INTEGRITY
        (hmacSha1 key ((new msgType tid).pushAll attrs).authenticated).bytes]⟩ := by
  rw [buildWithIntegrity_eq_serialise]
  apply writtenAs_serialise
  · rw [StunMessage.Fits, List.flatMap_append, List.flatMap_singleton, List.length_append,
      length_serialise_unknownAttrs, length_serialise_integrity]
    omega
  · intro attr member
    rcases List.mem_append.mp member with pushed | last
    · exact plain_unknownAttrs typed attr pushed
    · rw [List.mem_singleton.mp last]
      exact integrity_plain _

end TurnMsg

/-- The types of the requests that the client sends. -/
def requestTypes : List UInt16 :=
  [TURN_ALLOCATE_REQUEST, TURN_CREATE_PERM_REQUEST, TURN_CHANNEL_BIND, TURN_REFRESH_REQUEST]

section Crypto

variable (md5 : Bytes → Bytes) (hmacSha1 : Bytes → Bytes → Mac)

/-- The bytes are one STUN message that carries the user, and its code is made of
the bytes before it with the key of the realm that it carries. -/
def SignedRequest (username password bytes : Bytes) : Prop :=
  ∃ msgType tid own realm nonce, msgType ∈ requestTypes ∧ TurnMsg.WrittenAs bytes ⟨msgType, tid,
    unknownAttrs (own ++ [(ATTR_USERNAME, username), (ATTR_REALM, realm), (ATTR_NONCE, nonce)]) ++
      [.unknown ATTR_MSG_INTEGRITY (hmacSha1 (TurnClient.deriveKey md5 username realm password)
        (bytes.take (bytes.length - 24))).bytes]⟩

/-- The first request of an allocation, which carries no user. -/
def PlainRequest (bytes : Bytes) : Prop :=
  ∃ tid attrs, TurnMsg.WrittenAs bytes ⟨TURN_ALLOCATE_REQUEST, tid, unknownAttrs attrs⟩

/-- What goes to the server besides channel data. -/
def IsRequest (username password bytes : Bytes) : Prop :=
  PlainRequest bytes ∨ SignedRequest md5 hmacSha1 username password bytes

end Crypto

namespace TurnClient

/-- A user name that fits a message, and a realm and a nonce as one answer can
give them. -/
structure Bounded (client : TurnClient) : Prop where
  username : client.username.length ≤ 60000
  realm : client.realm.length ≤ 3072
  nonce : client.nonce.length ≤ 1024

end TurnClient

theorem padding_lt (length : Nat) : padding length < 4 := Nat.mod_lt _ (by decide)

theorem paddedTotal_append (first second : List (UInt16 × Bytes)) :
    paddedTotal (first ++ second) = paddedTotal first + paddedTotal second := by
  rw [paddedTotal, List.map_append, List.sum_append, paddedTotal, paddedTotal]

theorem u16At_zero_serialise (message : StunMessage) :
    u16At message.serialise 0 = message.msgType := by
  rw [← List.append_nil message.serialise, StunMessage.serialise_append]
  exact (u16At_append [] _ List.length_nil).trans UInt16.ofNat_toNat

section Requests

variable (md5 : Bytes → Bytes) (hmacSha1 : Bytes → Bytes → Mac)

theorem credential_types : ∀ attrType, attrType ∈ [ATTR_USERNAME, ATTR_REALM, ATTR_NONCE] →
    attrType ≠ ATTR_MAPPED ∧ attrType ≠ ATTR_XOR_MAPPED := by
  rw [List.forall_mem_cons, List.forall_mem_cons, List.forall_mem_singleton]
  decide

/-- A message of these types with credentials is a signed request. -/
theorem signedRequest_of_pushAll {client : TurnClient} (bounded : client.Bounded)
    {msgType : UInt16} (listed : msgType ∈ requestTypes) (tid : TransactionId)
    (own : List (UInt16 × Bytes))
    (typed : ∀ attr, attr ∈ own → attr.1 ≠ ATTR_MAPPED ∧ attr.1 ≠ ATTR_XOR_MAPPED)
    (small : paddedTotal own ≤ 64) :
    SignedRequest md5 hmacSha1 client.username client.password
      (((TurnMsg.new msgType tid).pushAll (own ++ [(ATTR_USERNAME, client.username),
        (ATTR_REALM, client.realm), (ATTR_NONCE, client.nonce)])).buildWithIntegrity hmacSha1
          (TurnClient.deriveKey md5 client.username client.realm client.password)) := by
  have fits : paddedTotal (own ++ [(ATTR_USERNAME, client.username),
      (ATTR_REALM, client.realm), (ATTR_NONCE, client.nonce)]) + 24 ≤ 65535 := by
    have userPadding := padding_lt client.username.length
    have realmPadding := padding_lt client.realm.length
    have noncePadding := padding_lt client.nonce.length
    have userShort := bounded.username
    have realmShort := bounded.realm
    have nonceShort := bounded.nonce
    rw [paddedTotal_append]
    simp only [paddedTotal, List.map_cons, List.map_nil, List.sum_cons, List.sum_nil,
      ATTR_HDR_LEN] at small ⊢
    omega
  have written := TurnMsg.writtenAs_buildWithIntegrity hmacSha1 msgType tid
    (own ++ [(ATTR_USERNAME, client.username), (ATTR_REALM, client.realm),
      (ATTR_NONCE, client.nonce)])
    (TurnClient.deriveKey md5 client.username client.realm client.password) ?_ fits
  · refine ⟨msgType, tid, own, client.realm, client.nonce, listed, ?_⟩
    rw [TurnMsg.take_buildWithIntegrity]
    exact written
  · intro attr member
    rcases List.mem_append.mp member with pushed | credential
    · exact typed attr pushed
    · have types : attr.1 ∈ [ATTR_USERNAME, ATTR_REALM, ATTR_NONCE] :=
        List.mem_map_of_mem credential
      exact credential_types attr.1 types

/-- The attributes of an allocation besides the credentials. -/
def allocateAttrs : List (UInt16 × Bytes) :=
  [(ATTR_REQ_TRANSPORT, [0x11, 0, 0, 0]), (ATTR_LIFETIME, toBeBytes 4 600)]

theorem allocateAttrs_typed :
    ∀ attr, attr ∈ allocateAttrs → attr.1 ≠ ATTR_MAPPED ∧ attr.1 ≠ ATTR_XOR_MAPPED := by
  decide

theorem plainRequest_build (tid : TransactionId) :
    PlainRequest ((TurnMsg.new TURN_ALLOCATE_REQUEST tid).pushAll allocateAttrs).build := by
  refine ⟨tid, allocateAttrs, ?_⟩
  rw [TurnMsg.build_eq_serialise]
  refine TurnMsg.writtenAs_serialise ?_ (plain_unknownAttrs allocateAttrs_typed)
  rw [StunMessage.Fits, length_serialise_unknownAttrs]
  decide

theorem isRequest_allocateRequest {client : TurnClient} (bounded : client.Bounded)
    (tid : TransactionId) (authenticated : Bool) :
    IsRequest md5 hmacSha1 client.username client.password
      (client.allocateRequest md5 hmacSha1 tid authenticated) := by
  cases authenticated with
  | true =>
      exact .inr (signedRequest_of_pushAll md5 hmacSha1 bounded List.mem_cons_self tid
        allocateAttrs allocateAttrs_typed (by decide))
  | false => exact .inl (plainRequest_build tid)

end Requests

/-! ### What an allocation does to the client -/

theorem length_value_of_mem_parseRawAttrsFrom (buf : Bytes) (fuel pos : Nat) {attr : RawAttr}
    (member : attr ∈ parseRawAttrsFrom buf fuel pos) : attr.value.length ≤ buf.length := by
  induction fuel generalizing pos with
  | zero => cases member
  | succ fuel ih =>
      rw [parseRawAttrsFrom] at member
      split at member
      · dsimp only at member
        split at member
        · cases member
        · rename_i inside
          rcases List.mem_cons.mp member with rfl | later
          · dsimp only
            rw [length_slice (Nat.not_lt.mp inside)]
            omega
          · exact ih _ later
      · cases member

theorem takeCredentials_le {bound : Nat} (attrs : List RawAttr)
    (short : ∀ attr, attr ∈ attrs → attr.value.length ≤ bound) (realm nonce : Bytes)
    (oldRealm : realm.length ≤ 3 * bound) (oldNonce : nonce.length ≤ bound) :
    (takeCredentials realm nonce attrs).1.length ≤ 3 * bound ∧
      (takeCredentials realm nonce attrs).2.length ≤ bound := by
  induction attrs generalizing realm nonce with
  | nil => exact ⟨oldRealm, oldNonce⟩
  | cons attr rest ih =>
      have first := short attr List.mem_cons_self
      have others := ih fun other member => short other (List.mem_cons_of_mem _ member)
      rw [takeCredentials]
      split
      · have lossy := Utf8.length_toStringLossy_le attr.value
        exact others _ _ (by omega) oldNonce
      · split
        · exact others _ _ oldRealm first
        · exact others _ _ oldRealm oldNonce

namespace TurnClient

section Crypto

variable (md5 : Bytes → Bytes) (hmacSha1 : Bytes → Bytes → Mac)

/-- The client stays who it is, and sends requests to its server only. -/
structure Keeps (before after : TurnClient) : Prop where
  serverAddr : after.serverAddr = before.serverAddr
  username : after.username = before.username
  password : after.password = before.password
  bounded : after.Bounded
  sent : ∃ requests, after.sent = before.sent ++ requests ∧ ∀ item, item ∈ requests →
    item.1 = before.serverAddr ∧ IsRequest md5 hmacSha1 before.username before.password item.2

variable {md5 hmacSha1}

theorem Keeps.refl {client : TurnClient} (bounded : client.Bounded) :
    Keeps md5 hmacSha1 client client := by
  refine ⟨rfl, rfl, rfl, bounded, [], (List.append_nil _).symm, ?_⟩
  intro item impossible
  cases impossible

theorem Keeps.trans {before middle after : TurnClient} (first : Keeps md5 hmacSha1 before middle)
    (second : Keeps md5 hmacSha1 middle after) : Keeps md5 hmacSha1 before after where
  serverAddr := second.serverAddr.trans first.serverAddr
  username := second.username.trans first.username
  password := second.password.trans first.password
  bounded := second.bounded
  sent := by
    obtain ⟨earlier, sentFirst, own⟩ := first.sent
    obtain ⟨later, sentSecond, next⟩ := second.sent
    refine ⟨earlier ++ later, ?_, ?_⟩
    · rw [sentSecond, sentFirst, List.append_assoc]
    · intro item member
      rcases List.mem_append.mp member with old | fresh
      · exact own item old
      · have answered := next item fresh
        rw [first.serverAddr, first.username, first.password] at answered
        exact answered

variable (md5 hmacSha1)

theorem keeps_sendAllocateRequest {client : TurnClient} (bounded : client.Bounded)
    (exchange : TurnExchange) (authenticated : Bool) :
    Keeps md5 hmacSha1 client
      (client.sendAllocateRequest md5 hmacSha1 exchange authenticated).1 ∧
    (client.sendAllocateRequest md5 hmacSha1 exchange authenticated).1.allocation =
      client.allocation := by
  rw [sendAllocateRequest]
  dsimp only
  have sends : Keeps md5 hmacSha1 client { client with
      sent := client.sent ++ [(client.serverAddr,
        client.allocateRequest md5 hmacSha1 exchange.transactionId authenticated)] } := by
    refine ⟨rfl, rfl, rfl, ⟨bounded.username, bounded.realm, bounded.nonce⟩, _, rfl, ?_⟩
    intro item member
    rw [List.mem_singleton.mp member]
    exact ⟨rfl, isRequest_allocateRequest md5 hmacSha1 bounded _ _⟩
  cases exchange.sendError with
  | some cause => exact ⟨.refl bounded, rfl⟩
  | none =>
      cases exchange.answer with
      | timeout => exact ⟨sends, rfl⟩
      | recvError cause => exact ⟨sends, rfl⟩
      | datagram bytes => exact ⟨sends, rfl⟩

theorem length_of_sendAllocateRequest {client after : TurnClient} {exchange : TurnExchange}
    {authenticated : Bool} {answer : Bytes}
    (answered : client.sendAllocateRequest md5 hmacSha1 exchange authenticated =
      (after, .ok answer)) : answer.length ≤ TURN_RECV_BUFFER := by
  rw [sendAllocateRequest] at answered
  dsimp only at answered
  cases failed : exchange.sendError with
  | some cause =>
      rw [failed] at answered
      cases answered
  | none =>
      rw [failed] at answered
      cases reply : exchange.answer with
      | timeout =>
          rw [reply] at answered
          cases answered
      | recvError cause =>
          rw [reply] at answered
          cases answered
      | datagram bytes =>
          rw [reply] at answered
          cases answered
          exact List.length_take_le _ _

theorem keeps_readChallenge {client : TurnClient} (bounded : client.Bounded) {r1 : Bytes}
    (short : r1.length ≤ TURN_RECV_BUFFER) :
    Keeps md5 hmacSha1 client (client.readChallenge r1).1 ∧
      (client.readChallenge r1).1.allocation = client.allocation := by
  by_cases headed : HEADER_LEN ≤ r1.length
  · have values : ∀ attr, attr ∈ parseRawAttrs (r1.drop HEADER_LEN) → attr.value.length ≤ 1024 := by
      intro attr member
      have inside := length_value_of_mem_parseRawAttrsFrom _ _ _ member
      rw [List.length_drop] at inside
      rw [TURN_RECV_BUFFER] at short
      omega
    obtain ⟨realm, nonce⟩ := takeCredentials_le _ values client.realm client.nonce
      bounded.realm bounded.nonce
    have challenged : Keeps md5 hmacSha1 client { client with
        realm := (takeCredentials client.realm client.nonce
          (parseRawAttrs (r1.drop HEADER_LEN))).1
        nonce := (takeCredentials client.realm client.nonce
          (parseRawAttrs (r1.drop HEADER_LEN))).2 } := by
      refine ⟨rfl, rfl, rfl, ⟨bounded.username, realm, nonce⟩, [], (List.append_nil _).symm, ?_⟩
      intro item impossible
      cases impossible
    rw [readChallenge, bodyAttrsChecked_of_le headed]
    dsimp only
    rw [errorCodeChecked_eq]
    dsimp only
    split
    · exact ⟨.refl bounded, rfl⟩
    · split
      · exact ⟨challenged, rfl⟩
      · exact ⟨challenged, rfl⟩
  · rw [readChallenge_short client (Nat.lt_of_not_le headed)]
    exact ⟨.refl bounded, rfl⟩

theorem keeps_allocate {client : TurnClient} (bounded : client.Bounded)
    (first second : TurnExchange) :
    Keeps md5 hmacSha1 client (client.allocate md5 hmacSha1 first second).1 ∧
      ∀ stop, (client.allocate md5 hmacSha1 first second).2 = .error stop →
        (client.allocate md5 hmacSha1 first second).1.allocation = client.allocation := by
  obtain ⟨asks, askedKept⟩ :=
    keeps_sendAllocateRequest md5 hmacSha1 bounded first false
  rw [allocate]
  cases asked : client.sendAllocateRequest md5 hmacSha1 first false with
  | mk waiting answer =>
      rw [asked] at asks askedKept
      cases answer with
      | error causes => exact ⟨asks, fun _ _ => askedKept⟩
      | ok r1 =>
          obtain ⟨reads, readKept⟩ := keeps_readChallenge md5 hmacSha1 asks.bounded
            (length_of_sendAllocateRequest md5 hmacSha1 asked)
          dsimp only
          cases read : waiting.readChallenge r1 with
          | mk challenged outcome =>
              rw [read] at reads readKept
              have kept := readKept.trans askedKept
              cases outcome with
              | error stop => exact ⟨asks.trans reads, fun _ _ => kept⟩
              | ok _ =>
                  obtain ⟨asksAgain, againKept⟩ := keeps_sendAllocateRequest md5 hmacSha1
                    reads.bounded second true
                  dsimp only
                  cases askedAgain : challenged.sendAllocateRequest md5 hmacSha1 second true with
                  | mk again answer =>
                      rw [askedAgain] at asksAgain againKept
                      have all := (asks.trans reads).trans asksAgain
                      cases answer with
                      | error causes => exact ⟨all, fun _ _ => againKept.trans kept⟩
                      | ok r2 =>
                          dsimp only
                          cases readAllocation r2 with
                          | error stop => exact ⟨all, fun _ _ => againKept.trans kept⟩
                          | ok alloc =>
                              refine ⟨⟨all.serverAddr, all.username, all.password,
                                ⟨all.bounded.username, all.bounded.realm, all.bounded.nonce⟩,
                                all.sent⟩, ?_⟩
                              intro stop impossible
                              cases impossible

end Crypto

end TurnClient

end Udpix.Traversal

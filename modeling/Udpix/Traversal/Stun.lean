/-
STUN messages and the client that sends a Binding Request.

A socket is the queue of datagrams that have reached it and were not read yet.
What the outside does during the calls on it is an argument: the random
transaction id of each request, the datagrams that arrive, and the errors of
the two system calls.
-/

import Udpix.Library.LittleEndian
import Udpix.Protocol.Packet
import Mathlib.Data.List.Basic

namespace Udpix.Traversal

open LittleEndian
open Udpix.Protocol (Bytes)

/-- An error with its contexts, outermost first and the cause last. -/
abbrev Error := List String

def context {α : Type} (text : String) : Except Error α → Except Error α
  | .ok value => .ok value
  | .error causes => .error (text :: causes)

def hexUpper (width value : Nat) : String :=
  let digits := (Nat.toDigits 16 value).map Char.toUpper
  String.ofList (List.replicate (width - digits.length) '0' ++ digits)

/-! ### Addresses -/

structure Ipv6Addr where
  octets : Bytes
  length_octets : octets.length = 16
deriving DecidableEq

inductive SocketAddr where
  | v4 (ip : UInt32) (port : UInt16)
  | v6 (ip : Ipv6Addr) (port : UInt16) (flowinfo scopeId : UInt32)
deriving DecidableEq

def SocketAddr.isIpv4 : SocketAddr → Bool
  | .v4 _ _ => true
  | .v6 _ _ _ _ => false

/-! ### Messages -/

def MAGIC_COOKIE : UInt32 := 0x2112A442
def BINDING_REQUEST : UInt16 := 0x0001
def BINDING_SUCCESS : UInt16 := 0x0101
def ATTR_MAPPED : UInt16 := 0x0001
def ATTR_XOR_MAPPED : UInt16 := 0x0020
def HEADER_LEN : Nat := 20
def ATTR_HDR_LEN : Nat := 4

structure TransactionId where
  bytes : Bytes
  length_bytes : bytes.length = 12
deriving DecidableEq

inductive StunAttribute where
  | xorMappedAddress (addr : SocketAddr)
  | mappedAddress (addr : SocketAddr)
  | unknown (attrType : UInt16) (data : Bytes)
deriving DecidableEq

structure StunMessage where
  msgType : UInt16
  transactionId : TransactionId
  attributes : List StunAttribute
deriving DecidableEq

/-! ### Big-endian fields -/

def toBeBytes (width value : Nat) : Bytes := (toLeBytes width value).reverse

def fromBeBytes (bytes : Bytes) : Nat := fromLeBytes bytes.reverse

def slice (buf : Bytes) (pos count : Nat) : Bytes := (buf.drop pos).take count

def u16At (buf : Bytes) (pos : Nat) : UInt16 := UInt16.ofNat (fromBeBytes (slice buf pos 2))

def u32At (buf : Bytes) (pos : Nat) : UInt32 := UInt32.ofNat (fromBeBytes (slice buf pos 4))

theorem length_slice {buf : Bytes} {pos count : Nat} (fits : pos + count ≤ buf.length) :
    (slice buf pos count).length = count := by
  rw [slice, List.length_take, List.length_drop]
  omega

def padding (length : Nat) : Nat := (4 - length % 4) % 4

/-! ### Writing -/

/-- The two address attributes are read-only in the client and write nothing. -/
def serialiseAttribute : StunAttribute → Bytes
  | .unknown attrType data =>
      toBeBytes 2 attrType.toNat ++ toBeBytes 2 data.length ++ data ++
        List.replicate (padding data.length) 0
  | .xorMappedAddress _ => []
  | .mappedAddress _ => []

namespace StunMessage

/-- A Binding Request with the transaction id drawn for it. -/
def newBindingRequest (tid : TransactionId) : StunMessage :=
  { msgType := BINDING_REQUEST, transactionId := tid, attributes := [] }

def serialise (message : StunMessage) : Bytes :=
  let attrs := message.attributes.flatMap serialiseAttribute
  toBeBytes 2 message.msgType.toNat ++ toBeBytes 2 attrs.length ++
    toBeBytes 4 MAGIC_COOKIE.toNat ++ message.transactionId.bytes ++ attrs

end StunMessage

/-! ### Reading -/

def cookiePort : UInt16 := (MAGIC_COOKIE >>> 16).toUInt16

def xorKey (tid : TransactionId) : Bytes := toBeBytes 4 MAGIC_COOKIE.toNat ++ tid.bytes

theorem length_xorKey (tid : TransactionId) : (xorKey tid).length = 16 := by
  rw [xorKey, List.length_append, tid.length_bytes, toBeBytes, List.length_reverse,
    toLeBytes_length]

def decodeXorMapped (val : Bytes) (tid : TransactionId) : Except Error SocketAddr :=
  if val.length < 4 then .error ["XOR-MAPPED too short"]
  else
    let family := val.getD 1 0
    let port := u16At val 2 ^^^ cookiePort
    if family = 0x01 then
      if val.length < 8 then .error ["XOR-MAPPED IPv4 too short"]
      else .ok (.v4 (u32At val 4 ^^^ MAGIC_COOKIE) port)
    else if family = 0x02 then
      if short : val.length < 20 then .error ["XOR-MAPPED IPv6 too short"]
      else
        have whole : (List.zipWith (· ^^^ ·) (slice val 4 16) (xorKey tid)).length = 16 := by
          rw [List.length_zipWith, length_slice (Nat.not_lt.mp short), length_xorKey]
          rfl
        .ok (.v6 ⟨List.zipWith (· ^^^ ·) (slice val 4 16) (xorKey tid), whole⟩ port 0 0)
    else .error ["unknown XOR-MAPPED address family: " ++ toString family.toNat]

def decodeMapped (val : Bytes) : Except Error SocketAddr :=
  if val.length < 4 then .error ["MAPPED-ADDRESS too short"]
  else if val.getD 1 0 = 0x01 then
    if val.length < 8 then .error ["MAPPED-ADDRESS IPv4 too short"]
    else .ok (.v4 (u32At val 4) (u16At val 2))
  else .error ["MAPPED-ADDRESS IPv6 not implemented"]

def decodeAttribute (attrType : UInt16) (val : Bytes) (tid : TransactionId) :
    Except Error StunAttribute :=
  if attrType = ATTR_XOR_MAPPED then
    (context "XOR-MAPPED-ADDRESS decode" (decodeXorMapped val tid)).map .xorMappedAddress
  else if attrType = ATTR_MAPPED then
    (context "MAPPED-ADDRESS decode" (decodeMapped val)).map .mappedAddress
  else .ok (.unknown attrType val)

/-- The attribute loop from position `pos` on.  Every round moves on by at least
the four bytes of the attribute header. -/
def parseAttributesFrom (buf : Bytes) (tid : TransactionId) :
    Nat → Nat → Except Error (List StunAttribute)
  | 0, _ => .ok []
  | fuel + 1, pos =>
      if pos + ATTR_HDR_LEN ≤ buf.length then
        let attrLen := (u16At buf (pos + 2)).toNat
        if buf.length < pos + ATTR_HDR_LEN + attrLen then
          .error ["STUN attribute length overflows buffer"]
        else do
          let attr ← decodeAttribute (u16At buf pos)
            (slice buf (pos + ATTR_HDR_LEN) attrLen) tid
          let attrs ← parseAttributesFrom buf tid fuel
            (pos + ATTR_HDR_LEN + (attrLen + padding attrLen))
          pure (attr :: attrs)
      else .ok []

def parseAttributes (buf : Bytes) (tid : TransactionId) : Except Error (List StunAttribute) :=
  parseAttributesFrom buf tid buf.length 0

namespace StunMessage

def parse (buf : Bytes) : Except Error StunMessage :=
  if short : buf.length < HEADER_LEN then
    .error ["STUN message too short: " ++ toString buf.length ++ " bytes"]
  else if u32At buf 4 ≠ MAGIC_COOKIE then
    .error ["STUN magic cookie mismatch: 0x" ++ hexUpper 8 (u32At buf 4).toNat]
  else
    let attrLen := (u16At buf 2).toNat
    let tid : TransactionId :=
      { bytes := slice buf 8 12
        length_bytes := length_slice (Nat.not_lt.mp short) }
    if buf.length < HEADER_LEN + attrLen then
      .error ["STUN buffer too short for declared attr_len"]
    else do
      let attributes ← parseAttributes (slice buf HEADER_LEN attrLen) tid
      pure { msgType := u16At buf 0, transactionId := tid, attributes := attributes }

/-- The loop of `mapped_addr` with its fallback. -/
def mappedAddrFrom (fallback : Option SocketAddr) : List StunAttribute → Option SocketAddr
  | [] => fallback
  | .xorMappedAddress addr :: _ => some addr
  | .mappedAddress addr :: rest => mappedAddrFrom (some addr) rest
  | .unknown _ _ :: rest => mappedAddrFrom fallback rest

def mappedAddr (message : StunMessage) : Option SocketAddr :=
  mappedAddrFrom none message.attributes

end StunMessage

/-! ### The client -/

/-- What the outside does during one call: the transaction id drawn for the
request, the datagrams that reach the socket until the receive ends, and the
errors of `send_to` and `recv`. -/
structure Exchange where
  transactionId : TransactionId
  sendError : Option String
  arrivals : List Bytes
  recvError : Option String

structure Socket where
  inbox : List Bytes
  calls : Nat
  sent : List (SocketAddr × Bytes)
deriving DecidableEq

namespace StunClient

def RECV_BUFFER : Nat := 512

def readResponse (datagram : Bytes) : Except Error SocketAddr := do
  let resp ← context "STUN parse response" (StunMessage.parse datagram)
  if resp.msgType ≠ BINDING_SUCCESS then
    .error ["STUN: expected Binding Success, got 0x" ++ hexUpper 4 resp.msgType.toNat]
  else
    match resp.mappedAddr with
    | some addr => .ok addr
    | none => .error ["STUN response has no MAPPED-ADDRESS"]

/-- Send one request and read the first datagram in the queue, cut to the
length of the buffer.  An empty queue is the timeout. -/
def exchangeDatagram (outside : Nat → Exchange) (socket : Socket) (stunAddr : SocketAddr) :
    Socket × Except Error Bytes :=
  let exchange := outside socket.calls
  let queue := socket.inbox ++ exchange.arrivals
  let wire := (StunMessage.newBindingRequest exchange.transactionId).serialise
  let called := { socket with inbox := queue, calls := socket.calls + 1 }
  match exchange.sendError with
  | some cause => (called, .error ["STUN send", cause])
  | none =>
      let sending := { called with sent := socket.sent ++ [(stunAddr, wire)] }
      match exchange.recvError with
      | some cause => (sending, .error ["STUN recv", cause])
      | none =>
          match queue with
          | [] => (sending, .error ["STUN response timeout", "deadline has elapsed"])
          | datagram :: rest => ({ sending with inbox := rest }, .ok (datagram.take RECV_BUFFER))

def discoverWithSocket (outside : Nat → Exchange) (socket : Socket) (stunAddr : SocketAddr) :
    Socket × Except Error SocketAddr :=
  let (after, received) := exchangeDatagram outside socket stunAddr
  (after, received >>= readResponse)

end StunClient

end Udpix.Traversal

/-
The messages of the TURN client.

`TurnMsg` writes its attributes, header and integrity by hand.  What it writes
is what the STUN encoder writes for the same attributes, so the STUN parser
reads it back.  HMAC-SHA1 is an argument: any function to twenty bytes.
-/

import Udpix.Traversal.StunRoundTrip

namespace Udpix.Traversal

open LittleEndian
open Udpix.Protocol (Bytes)

def ATTR_MSG_INTEGRITY : UInt16 := 0x0008

structure Mac where
  bytes : Bytes
  length_bytes : bytes.length = 20

structure TurnMsg where
  msgType : UInt16
  tid : TransactionId
  attrs : Bytes

namespace TurnMsg

def new (msgType : UInt16) (tid : TransactionId) : TurnMsg :=
  { msgType := msgType, tid := tid, attrs := [] }

def pushAttr (msg : TurnMsg) (attrType : UInt16) (value : Bytes) : TurnMsg :=
  { msg with
    attrs := msg.attrs ++ toBeBytes 2 attrType.toNat ++ toBeBytes 2 value.length ++ value ++
      List.replicate (padding value.length) 0 }

def build (msg : TurnMsg) : Bytes :=
  toBeBytes 2 msg.msgType.toNat ++ toBeBytes 2 msg.attrs.length ++
    toBeBytes 4 MAGIC_COOKIE.toNat ++ msg.tid.bytes ++ msg.attrs

section Integrity

variable (hmacSha1 : Bytes → Bytes → Mac)

def messageIntegrity (key msgBytes : Bytes) : Bytes := (hmacSha1 key msgBytes).bytes

/-- The code is computed over a header that already counts the attribute of the
code, followed by the attributes before it. -/
def buildWithIntegrity (msg : TurnMsg) (key : Bytes) : Bytes :=
  let attrLenWithMi := msg.attrs.length + 4 + 20
  let hdr := toBeBytes 2 msg.msgType.toNat ++ toBeBytes 2 attrLenWithMi ++
    toBeBytes 4 MAGIC_COOKIE.toNat ++ msg.tid.bytes
  let preMi := hdr ++ msg.attrs
  let mi := messageIntegrity hmacSha1 key preMi
  preMi ++ toBeBytes 2 ATTR_MSG_INTEGRITY.toNat ++ toBeBytes 2 20 ++ mi

end Integrity

end TurnMsg

/-! ### Pushed attributes -/

/-- A message with attributes pushed one after another. -/
def TurnMsg.pushAll (msg : TurnMsg) (attrs : List (UInt16 × Bytes)) : TurnMsg :=
  attrs.foldl (fun msg attr => msg.pushAttr attr.1 attr.2) msg

/-- The same attributes for the STUN encoder. -/
def unknownAttrs (attrs : List (UInt16 × Bytes)) : List StunAttribute :=
  attrs.map fun attr => .unknown attr.1 attr.2

/-- The bytes of the attributes with their headers and padding. -/
def paddedTotal (attrs : List (UInt16 × Bytes)) : Nat :=
  (attrs.map fun attr => ATTR_HDR_LEN + (attr.2.length + padding attr.2.length)).sum

theorem unknownAttrs_cons (attr : UInt16 × Bytes) (rest : List (UInt16 × Bytes)) :
    unknownAttrs (attr :: rest) = .unknown attr.1 attr.2 :: unknownAttrs rest := rfl

theorem length_serialise_unknownAttrs (attrs : List (UInt16 × Bytes)) :
    ((unknownAttrs attrs).flatMap serialiseAttribute).length = paddedTotal attrs := by
  induction attrs with
  | nil => rfl
  | cons attr rest ih =>
      rw [unknownAttrs_cons, List.flatMap_cons, List.length_append,
        length_serialiseAttribute_unknown, ih, paddedTotal, paddedTotal, List.map_cons,
        List.sum_cons]

theorem plain_unknownAttrs {attrs : List (UInt16 × Bytes)}
    (typed : ∀ attr, attr ∈ attrs → attr.1 ≠ ATTR_MAPPED ∧ attr.1 ≠ ATTR_XOR_MAPPED) :
    ∀ attr, attr ∈ unknownAttrs attrs → attr.Plain := by
  intro attr member
  obtain ⟨pushed, pushedMember, rfl⟩ := List.mem_map.mp member
  exact typed pushed pushedMember

namespace TurnMsg

theorem pushAll_attrs (msg : TurnMsg) (attrs : List (UInt16 × Bytes)) :
    msg.pushAll attrs =
      { msg with attrs := msg.attrs ++ (unknownAttrs attrs).flatMap serialiseAttribute } := by
  induction attrs generalizing msg with
  | nil =>
      rw [unknownAttrs, List.map_nil, List.flatMap_nil, List.append_nil]
      rfl
  | cons attr rest ih =>
      have pushed : msg.pushAll (attr :: rest) = (msg.pushAttr attr.1 attr.2).pushAll rest := rfl
      rw [pushed, ih, pushAttr, unknownAttrs_cons, List.flatMap_cons, serialiseAttribute]
      simp only [List.append_assoc]

theorem build_eq_serialise (msgType : UInt16) (tid : TransactionId)
    (attrs : List (UInt16 × Bytes)) :
    ((new msgType tid).pushAll attrs).build =
      StunMessage.serialise ⟨msgType, tid, unknownAttrs attrs⟩ := by
  rw [pushAll_attrs]
  rfl

section Integrity

variable (hmacSha1 : Bytes → Bytes → Mac)

theorem serialise_integrity (mac : Mac) :
    serialiseAttribute (.unknown ATTR_MSG_INTEGRITY mac.bytes) =
      toBeBytes 2 ATTR_MSG_INTEGRITY.toNat ++ toBeBytes 2 20 ++ mac.bytes := by
  rw [serialiseAttribute, mac.length_bytes]
  exact List.append_nil _

theorem integrity_plain (mac : Mac) :
    (StunAttribute.unknown ATTR_MSG_INTEGRITY mac.bytes).Plain :=
  ⟨by decide, by decide⟩

theorem length_serialise_integrity (mac : Mac) :
    (serialiseAttribute (.unknown ATTR_MSG_INTEGRITY mac.bytes)).length = 24 := by
  rw [length_serialiseAttribute_unknown, mac.length_bytes]
  rfl

/-- What is authenticated: everything before the last attribute, under a header
that counts it. -/
def authenticated (msg : TurnMsg) : Bytes :=
  toBeBytes 2 msg.msgType.toNat ++ toBeBytes 2 (msg.attrs.length + 4 + 20) ++
    toBeBytes 4 MAGIC_COOKIE.toNat ++ msg.tid.bytes ++ msg.attrs

theorem buildWithIntegrity_eq (msg : TurnMsg) (key : Bytes) :
    msg.buildWithIntegrity hmacSha1 key =
      msg.authenticated ++ serialiseAttribute
        (.unknown ATTR_MSG_INTEGRITY (hmacSha1 key msg.authenticated).bytes) := by
  rw [serialise_integrity, ← List.append_assoc, ← List.append_assoc]
  rfl

/-- The code covers the output without its last 24 bytes. -/
theorem take_buildWithIntegrity (msg : TurnMsg) (key : Bytes) :
    (msg.buildWithIntegrity hmacSha1 key).take
      ((msg.buildWithIntegrity hmacSha1 key).length - 24) = msg.authenticated := by
  rw [buildWithIntegrity_eq, List.length_append, length_serialise_integrity, Nat.add_sub_cancel]
  exact List.take_left

theorem buildWithIntegrity_eq_serialise (msgType : UInt16) (tid : TransactionId)
    (attrs : List (UInt16 × Bytes)) (key : Bytes) :
    ((new msgType tid).pushAll attrs).buildWithIntegrity hmacSha1 key =
      StunMessage.serialise ⟨msgType, tid, unknownAttrs attrs ++ [.unknown ATTR_MSG_INTEGRITY
        (hmacSha1 key ((new msgType tid).pushAll attrs).authenticated).bytes]⟩ := by
  generalize isMac : hmacSha1 key ((new msgType tid).pushAll attrs).authenticated = mac
  have bytes : (unknownAttrs attrs ++ [StunAttribute.unknown ATTR_MSG_INTEGRITY mac.bytes]).flatMap
      serialiseAttribute = ((new msgType tid).pushAll attrs).attrs ++
        serialiseAttribute (.unknown ATTR_MSG_INTEGRITY mac.bytes) := by
    rw [pushAll_attrs, List.flatMap_append, List.flatMap_singleton]
    rfl
  rw [buildWithIntegrity_eq, isMac, StunMessage.serialise]
  simp only [bytes, List.length_append, length_serialise_integrity, authenticated]
  rw [pushAll_attrs, List.append_assoc, List.append_assoc, List.append_assoc]
  simp only [List.append_assoc]
  rfl

/-- Bytes that are those of a STUN message: the STUN encoder writes them, the
length field counts what follows the header, and the parser reads the message
back whatever comes after them. -/
structure WrittenAs (out : Bytes) (message : StunMessage) : Prop where
  serialised : out = message.serialise
  headed : HEADER_LEN ≤ out.length
  lengthField : (u16At out 2).toNat = out.length - HEADER_LEN
  parsed : ∀ trailing, StunMessage.parse (out ++ trailing) = .ok message

theorem writtenAs_serialise {message : StunMessage} (fits : message.Fits)
    (plain : ∀ attr, attr ∈ message.attributes → attr.Plain) :
    WrittenAs message.serialise message := by
  constructor
  case serialised => rfl
  case headed =>
    rw [StunMessage.length_serialise]
    exact Nat.le_add_right _ _
  case lengthField =>
    have counted := StunMessage.u16At_two_serialise fits []
    rw [List.append_nil] at counted
    rw [counted, StunMessage.length_serialise, Nat.add_sub_cancel_left]
  case parsed => exact StunMessage.parse_serialise fits plain

/-- Both TURN encoders write the STUN message of the attributes that were pushed. -/
theorem turn_encoders_write_stun (msgType : UInt16) (tid : TransactionId)
    (attrs : List (UInt16 × Bytes)) (key : Bytes)
    (typed : ∀ attr, attr ∈ attrs → attr.1 ≠ ATTR_MAPPED ∧ attr.1 ≠ ATTR_XOR_MAPPED)
    (fits : paddedTotal attrs + 24 ≤ 65535) :
    let msg := (new msgType tid).pushAll attrs
    let out := msg.buildWithIntegrity hmacSha1 key
    WrittenAs msg.build ⟨msgType, tid, unknownAttrs attrs⟩ ∧
      WrittenAs out ⟨msgType, tid, unknownAttrs attrs ++
        [.unknown ATTR_MSG_INTEGRITY (hmacSha1 key (out.take (out.length - 24))).bytes]⟩ := by
  have plain := plain_unknownAttrs typed
  have bytes := length_serialise_unknownAttrs attrs
  constructor
  · rw [build_eq_serialise]
    have short : StunMessage.Fits ⟨msgType, tid, unknownAttrs attrs⟩ := by
      rw [StunMessage.Fits, bytes]
      omega
    exact writtenAs_serialise short plain
  · rw [take_buildWithIntegrity, buildWithIntegrity_eq_serialise]
    generalize hmacSha1 key ((new msgType tid).pushAll attrs).authenticated = mac
    apply writtenAs_serialise
    · rw [StunMessage.Fits, List.flatMap_append, List.flatMap_singleton, List.length_append, bytes,
        length_serialise_integrity]
      omega
    · intro attr member
      rcases List.mem_append.mp member with pushed | last
      · exact plain attr pushed
      · rw [List.mem_singleton.mp last]
        exact integrity_plain mac

end Integrity

/-- The second request of an allocation, under its key and with the code that
HMAC-SHA1 gives for it. -/
theorem turn_encoders_write_stun_allocate :
    let hmacSha1 : Bytes → Bytes → Mac := fun _ _ =>
      ⟨[28, 191, 42, 57, 190, 238, 226, 76, 18, 231, 145, 231, 183, 46, 4, 124, 151, 249, 180, 78],
        rfl⟩
    let key : Bytes := [225, 98, 51, 192, 155, 104, 94, 61, 213, 225, 118, 113, 81, 61, 179, 223]
    let attrs : List (UInt16 × Bytes) :=
      [(0x0019, [17, 0, 0, 0]), (0x0006, [97, 108, 105, 99, 101])]
    let msg := (new 0x0003 ⟨[1, 2, 3, 4, 5, 6, 7, 8, 9, 10, 11, 12], rfl⟩).pushAll attrs
    let out := msg.buildWithIntegrity hmacSha1 key
    WrittenAs msg.build ⟨0x0003, msg.tid, unknownAttrs attrs⟩ ∧
      WrittenAs out ⟨0x0003, msg.tid, unknownAttrs attrs ++
        [.unknown ATTR_MSG_INTEGRITY (hmacSha1 key (out.take (out.length - 24))).bytes]⟩ := by
  apply turn_encoders_write_stun
  · intro attr member
    rcases List.mem_cons.mp member with rfl | member
    · decide
    · rcases List.mem_cons.mp member with rfl | member
      · decide
      · cases member
  · decide

end TurnMsg

end Udpix.Traversal

/-
The attribute readers of the TURN client next to those of the STUN client.

Both walk over type, length and value with padding, but the TURN walk stops
where the STUN walk fails, and it keeps the values as they are.  Every index
and every slice of the four readers is also written with its bounds check.
-/

import Udpix.Library.BoundsCheck
import Udpix.Library.Fallible
import Udpix.Traversal.Turn
import Mathlib.Data.List.Forall2

namespace Udpix.Traversal

open BoundsCheck Fallible LittleEndian
open Udpix.Protocol (Bytes)

/-! ### The readers of the TURN client -/

structure RawAttr where
  attrType : UInt16
  value : Bytes
deriving DecidableEq

def parseRawAttrsFrom (buf : Bytes) : Nat → Nat → List RawAttr
  | 0, _ => []
  | fuel + 1, pos =>
      if pos + 4 ≤ buf.length then
        let l := (u16At buf (pos + 2)).toNat
        if buf.length < pos + 4 + l then []
        else
          { attrType := u16At buf pos, value := slice buf (pos + 4) l } ::
            parseRawAttrsFrom buf fuel (pos + 4 + (l + padding l))
      else []

def parseRawAttrs (buf : Bytes) : List RawAttr := parseRawAttrsFrom buf buf.length 0

def parseXorMappedAddr (val : Bytes) (tid : TransactionId) : Option SocketAddr :=
  if val.length < 8 then none
  else
    let family := val.getD 1 0
    let port := u16At val 2 ^^^ cookiePort
    if family = 0x01 then some (.v4 (u32At val 4 ^^^ MAGIC_COOKIE) port)
    else if long : family = 0x02 ∧ 20 ≤ val.length then
      have whole : (List.zipWith (· ^^^ ·) (slice val 4 16) (xorKey tid)).length = 16 := by
        rw [List.length_zipWith, length_slice long.2, length_xorKey]
        rfl
      some (.v6 ⟨List.zipWith (· ^^^ ·) (slice val 4 16) (xorKey tid), whole⟩ port 0 0)
    else none

/-- The value of an XOR-PEER-ADDRESS.  The bytes of an IPv6 address are written
as they are. -/
def encodeXorPeer (addr : SocketAddr) (_tid : TransactionId) : Bytes :=
  match addr with
  | .v4 ip port =>
      [0, 0x01] ++ toBeBytes 2 (port ^^^ cookiePort).toNat ++
        toBeBytes 4 (ip ^^^ MAGIC_COOKIE).toNat
  | .v6 ip port _ _ => [0, 0x02] ++ toBeBytes 2 (port ^^^ cookiePort).toNat ++ ip.octets

/-! ### The readers with their bounds checks -/

def u16Checked (buf : Bytes) (pos : Nat) : Except (Stop Error) UInt16 :=
  (items buf pos 2).map fun bytes => UInt16.ofNat (fromBeBytes bytes)

def u32Checked (buf : Bytes) (pos : Nat) : Except (Stop Error) UInt32 :=
  (items buf pos 4).map fun bytes => UInt32.ofNat (fromBeBytes bytes)

/-- Copy sixteen bytes and combine them with the key; another number of bytes
does not fit the array they are copied to. -/
def xorIpv6Checked (bytes : Bytes) (tid : TransactionId) : Except (Stop Error) Ipv6Addr :=
  if fits : bytes.length = 16 then
    have whole : (List.zipWith (· ^^^ ·) bytes (xorKey tid)).length = 16 := by
      rw [List.length_zipWith, fits, length_xorKey]
      rfl
    .ok ⟨List.zipWith (· ^^^ ·) bytes (xorKey tid), whole⟩
  else .error .outOfRange

def decodeXorMappedChecked (val : Bytes) (tid : TransactionId) :
    Except (Stop Error) SocketAddr :=
  if val.length < 4 then .error (.failed ["XOR-MAPPED too short"])
  else do
    let family ← index val 1
    let xPort ← u16Checked val 2
    if family = 0x01 then
      if val.length < 8 then .error (.failed ["XOR-MAPPED IPv4 too short"])
      else do
        let xIp ← u32Checked val 4
        .ok (.v4 (xIp ^^^ MAGIC_COOKIE) (xPort ^^^ cookiePort))
    else if family = 0x02 then
      if val.length < 20 then .error (.failed ["XOR-MAPPED IPv6 too short"])
      else do
        let bytes ← between val 4 20
        let ip ← xorIpv6Checked bytes tid
        .ok (.v6 ip (xPort ^^^ cookiePort) 0 0)
    else
      .error (.failed ["unknown XOR-MAPPED address family: " ++ toString family.toNat])

def decodeMappedChecked (val : Bytes) : Except (Stop Error) SocketAddr :=
  if val.length < 4 then .error (.failed ["MAPPED-ADDRESS too short"])
  else do
    let family ← index val 1
    let port ← u16Checked val 2
    if family = 0x01 then
      if val.length < 8 then .error (.failed ["MAPPED-ADDRESS IPv4 too short"])
      else do
        let ip ← u32Checked val 4
        .ok (.v4 ip port)
    else .error (.failed ["MAPPED-ADDRESS IPv6 not implemented"])

/-- A context does not reach a stop that is no error. -/
def contextChecked {α : Type} (text : String) : Except (Stop Error) α → Except (Stop Error) α
  | .error (.failed causes) => .error (.failed (text :: causes))
  | .error .outOfRange => .error .outOfRange
  | .error .unfinished => .error .unfinished
  | .ok value => .ok value

def decodeAttributeChecked (attrType : UInt16) (val : Bytes) (tid : TransactionId) :
    Except (Stop Error) StunAttribute :=
  if attrType = ATTR_XOR_MAPPED then
    (contextChecked "XOR-MAPPED-ADDRESS decode" (decodeXorMappedChecked val tid)).map
      .xorMappedAddress
  else if attrType = ATTR_MAPPED then
    (contextChecked "MAPPED-ADDRESS decode" (decodeMappedChecked val)).map .mappedAddress
  else .ok (.unknown attrType val)

/-- The STUN walk, which has not come to its end when its rounds are used up
before the loop condition fails. -/
def parseAttributesFromChecked (buf : Bytes) (tid : TransactionId) :
    Nat → Nat → Except (Stop Error) (List StunAttribute)
  | 0, pos => if pos + ATTR_HDR_LEN ≤ buf.length then .error .unfinished else .ok []
  | fuel + 1, pos =>
      if pos + ATTR_HDR_LEN ≤ buf.length then do
        let attrType ← u16Checked buf pos
        let attrLen ← u16Checked buf (pos + 2)
        if buf.length < pos + ATTR_HDR_LEN + attrLen.toNat then
          .error (.failed ["STUN attribute length overflows buffer"])
        else do
          let val ← between buf (pos + ATTR_HDR_LEN) (pos + ATTR_HDR_LEN + attrLen.toNat)
          let attr ← decodeAttributeChecked attrType val tid
          let attrs ← parseAttributesFromChecked buf tid fuel
            (pos + ATTR_HDR_LEN + (attrLen.toNat + padding attrLen.toNat))
          .ok (attr :: attrs)
      else .ok []

def parseAttributesChecked (buf : Bytes) (tid : TransactionId) :
    Except (Stop Error) (List StunAttribute) :=
  parseAttributesFromChecked buf tid buf.length 0

def parseRawAttrsFromChecked (buf : Bytes) : Nat → Nat → Except (Stop Error) (List RawAttr)
  | 0, pos => if pos + 4 ≤ buf.length then .error .unfinished else .ok []
  | fuel + 1, pos =>
      if pos + 4 ≤ buf.length then do
        let t ← u16Checked buf pos
        let l ← u16Checked buf (pos + 2)
        if buf.length < pos + 4 + l.toNat then .ok []
        else do
          let value ← between buf (pos + 4) (pos + 4 + l.toNat)
          let attrs ← parseRawAttrsFromChecked buf fuel (pos + 4 + (l.toNat + padding l.toNat))
          .ok ({ attrType := t, value := value } :: attrs)
      else .ok []

def parseRawAttrsChecked (buf : Bytes) : Except (Stop Error) (List RawAttr) :=
  parseRawAttrsFromChecked buf buf.length 0

def parseXorMappedAddrChecked (val : Bytes) (tid : TransactionId) :
    Except (Stop Error) (Option SocketAddr) :=
  if val.length < 8 then .ok none
  else do
    let family ← index val 1
    let xPort ← u16Checked val 2
    if family = 0x01 then do
      let xIp ← u32Checked val 4
      .ok (some (.v4 (xIp ^^^ MAGIC_COOKIE) (xPort ^^^ cookiePort)))
    else if family = 0x02 ∧ 20 ≤ val.length then do
      let bytes ← between val 4 20
      let ip ← xorIpv6Checked bytes tid
      .ok (some (.v6 ip (xPort ^^^ cookiePort) 0 0))
    else .ok none

/-! ### The checks never fire -/

theorem u16Checked_of_le {buf : Bytes} {pos : Nat} (inside : pos + 2 ≤ buf.length) :
    u16Checked buf pos = .ok (u16At buf pos) := by
  rw [u16Checked, items_of_le inside]
  rfl

theorem u32Checked_of_le {buf : Bytes} {pos : Nat} (inside : pos + 4 ≤ buf.length) :
    u32Checked buf pos = .ok (u32At buf pos) := by
  rw [u32Checked, items_of_le inside]
  rfl

theorem readIpv6_of_le {val : Bytes} (tid : TransactionId) (inside : 4 + 16 ≤ val.length)
    (whole : (List.zipWith (· ^^^ ·) (slice val 4 16) (xorKey tid)).length = 16) :
    (between val 4 20 >>= fun bytes => xorIpv6Checked bytes tid) =
      .ok ⟨List.zipWith (· ^^^ ·) (slice val 4 16) (xorKey tid), whole⟩ := by
  have copied : (between val 4 20 : Except (Stop Error) Bytes) = .ok (slice val 4 16) :=
    between_of_le inside
  rw [copied]
  exact dif_pos (length_slice inside)

theorem decodeXorMappedChecked_eq (val : Bytes) (tid : TransactionId) :
    decodeXorMappedChecked val tid = inRange (decodeXorMapped val tid) := by
  unfold decodeXorMappedChecked decodeXorMapped
  split
  · rfl
  · rename_i headed
    rw [index_of_lt (by omega) 0, ok_bind, u16Checked_of_le (by omega), ok_bind]
    dsimp only
    split
    · split
      · rfl
      · rw [u32Checked_of_le (by omega)]
        rfl
    · split
      · split
        · rfl
        · rename_i long
          rw [← bind_assoc, readIpv6_of_le tid (by omega)]
          rfl
      · rfl

theorem decodeMappedChecked_eq (val : Bytes) :
    decodeMappedChecked val = inRange (decodeMapped val) := by
  unfold decodeMappedChecked decodeMapped
  split
  · rfl
  · rename_i headed
    rw [index_of_lt (by omega) 0, ok_bind, u16Checked_of_le (by omega), ok_bind]
    split
    · split
      · rfl
      · rw [u32Checked_of_le (by omega)]
        rfl
    · rfl

theorem contextChecked_inRange {α : Type} (text : String) (result : Except Error α) :
    contextChecked text (inRange result) = inRange (context text result) := by
  cases result with
  | error causes => rfl
  | ok value => rfl

theorem map_inRange {α β : Type} (f : α → β) (result : Except Error α) :
    (inRange result).map f = inRange (result.map f) := by
  cases result with
  | error causes => rfl
  | ok value => rfl

theorem decodeAttributeChecked_eq (attrType : UInt16) (val : Bytes) (tid : TransactionId) :
    decodeAttributeChecked attrType val tid = inRange (decodeAttribute attrType val tid) := by
  unfold decodeAttributeChecked decodeAttribute
  split
  · rw [decodeXorMappedChecked_eq, contextChecked_inRange, map_inRange]
  · split
    · rw [decodeMappedChecked_eq, contextChecked_inRange, map_inRange]
    · rfl

/-- The position grows by four at least in every round, so a round is left for
every position inside the buffer. -/
theorem parseAttributesFromChecked_eq (buf : Bytes) (tid : TransactionId) (fuel pos : Nat)
    (enough : buf.length ≤ pos + fuel) :
    parseAttributesFromChecked buf tid fuel pos =
      inRange (parseAttributesFrom buf tid fuel pos) := by
  induction fuel generalizing pos with
  | zero =>
      rw [parseAttributesFromChecked, if_neg (by rw [ATTR_HDR_LEN]; omega)]
      rfl
  | succ fuel ih =>
      rw [parseAttributesFromChecked, parseAttributesFrom]
      split
      · rename_i headed
        rw [ATTR_HDR_LEN] at headed
        rw [u16Checked_of_le (by omega), ok_bind, u16Checked_of_le (by omega), ok_bind]
        dsimp only
        split
        · rfl
        · rename_i valued
          rw [between_of_le (Nat.le_of_not_lt valued)]
          refine mapError_bind (decodeAttributeChecked_eq _ _ tid) ?_
          intro attr _
          refine mapError_bind (ih _ (by rw [ATTR_HDR_LEN]; omega)) ?_
          intro attrs _
          rfl
      · rfl

theorem parseAttributesChecked_eq (buf : Bytes) (tid : TransactionId) :
    parseAttributesChecked buf tid = inRange (parseAttributes buf tid) :=
  parseAttributesFromChecked_eq buf tid buf.length 0 (Nat.le_of_eq (Nat.zero_add _).symm)

theorem parseRawAttrsFromChecked_eq (buf : Bytes) (fuel pos : Nat)
    (enough : buf.length ≤ pos + fuel) :
    parseRawAttrsFromChecked buf fuel pos = .ok (parseRawAttrsFrom buf fuel pos) := by
  induction fuel generalizing pos with
  | zero =>
      rw [parseRawAttrsFromChecked, if_neg (by omega)]
      rfl
  | succ fuel ih =>
      rw [parseRawAttrsFromChecked, parseRawAttrsFrom]
      split
      · rw [u16Checked_of_le (by omega), ok_bind, u16Checked_of_le (by omega), ok_bind]
        dsimp only
        split
        · rfl
        · rename_i valued
          rw [between_of_le (Nat.le_of_not_lt valued), ih _ (by omega)]
          rfl
      · rfl

theorem parseRawAttrsChecked_eq (buf : Bytes) :
    parseRawAttrsChecked buf = .ok (parseRawAttrs buf) :=
  parseRawAttrsFromChecked_eq buf buf.length 0 (Nat.le_of_eq (Nat.zero_add _).symm)

theorem parseXorMappedAddrChecked_eq (val : Bytes) (tid : TransactionId) :
    parseXorMappedAddrChecked val tid = .ok (parseXorMappedAddr val tid) := by
  unfold parseXorMappedAddrChecked parseXorMappedAddr
  split
  · rfl
  · rename_i headed
    rw [index_of_lt (by omega) 0, ok_bind, u16Checked_of_le (by omega), ok_bind]
    dsimp only
    split
    · rw [u32Checked_of_le (by omega)]
      rfl
    · split
      · rename_i long
        rw [← bind_assoc, readIpv6_of_le tid long.2]
        rfl
      · rfl

/-! ### The two clients read the same -/

theorem parseXorMappedAddr_eq_toOption (val : Bytes) (tid : TransactionId) :
    parseXorMappedAddr val tid = (decodeXorMapped val tid).toOption := by
  unfold parseXorMappedAddr decodeXorMapped
  dsimp only
  by_cases brief : val.length < 8
  · -- no address fits into fewer than eight bytes
    rw [if_pos brief, if_pos brief, dif_pos (show val.length < 20 by omega)]
    split
    · rfl
    · split
      · rfl
      · split <;> rfl
  · rw [if_neg brief, if_neg brief, if_neg (show ¬ val.length < 4 by omega)]
    by_cases first : val.getD 1 0 = 0x01
    · rw [if_pos first, if_pos first]
      rfl
    · rw [if_neg first, if_neg first]
      by_cases second : val.getD 1 0 = 0x02
      · rw [if_pos second]
        by_cases long : 20 ≤ val.length
        · rw [dif_pos ⟨second, long⟩, dif_neg (Nat.not_lt.mpr long)]
          rfl
        · rw [dif_neg (fun both => long both.2), dif_pos (Nat.lt_of_not_le long)]
          rfl
      · rw [dif_neg (fun both => second both.1), if_neg second]
        rfl

theorem decodeXorMapped_eq_ok_iff (val : Bytes) (tid : TransactionId) (addr : SocketAddr) :
    decodeXorMapped val tid = .ok addr ↔ parseXorMappedAddr val tid = some addr := by
  rw [parseXorMappedAddr_eq_toOption]
  cases decodeXorMapped val tid with
  | error causes => exact iff_of_false (fun same => nomatch same) (fun same => nomatch same)
  | ok other =>
      constructor
      · intro same
        cases same
        rfl
      · intro same
        cases same
        rfl

/-- An attribute of the STUN walk and one of the TURN walk with the same type
and the same content. -/
def SameAttribute (tid : TransactionId) : StunAttribute → RawAttr → Prop
  | .xorMappedAddress addr, raw =>
      raw.attrType = ATTR_XOR_MAPPED ∧ parseXorMappedAddr raw.value tid = some addr
  | .mappedAddress addr, raw => raw.attrType = ATTR_MAPPED ∧ decodeMapped raw.value = .ok addr
  | .unknown attrType data, raw => raw.attrType = attrType ∧ raw.value = data

theorem context_eq_ok {α : Type} {text : String} {result : Except Error α} {value : α}
    (succeeds : context text result = .ok value) : result = .ok value := by
  cases result with
  | error causes => cases succeeds
  | ok other => exact succeeds

theorem map_eq_ok {α β : Type} {f : α → β} {result : Except Error α} {value : β}
    (succeeds : result.map f = .ok value) : ∃ before, result = .ok before ∧ f before = value := by
  cases result with
  | error causes => cases succeeds
  | ok before => exact ⟨before, rfl, Except.ok.inj succeeds⟩

theorem sameAttribute_of_decodeAttribute {attrType : UInt16} {val : Bytes} {tid : TransactionId}
    {attr : StunAttribute} (decoded : decodeAttribute attrType val tid = .ok attr) :
    SameAttribute tid attr { attrType := attrType, value := val } := by
  unfold decodeAttribute at decoded
  split at decoded
  · rename_i isXor
    obtain ⟨addr, read, rfl⟩ := map_eq_ok decoded
    exact ⟨isXor, (decodeXorMapped_eq_ok_iff val tid addr).mp (context_eq_ok read)⟩
  · split at decoded
    · rename_i isMapped
      obtain ⟨addr, read, rfl⟩ := map_eq_ok decoded
      exact ⟨isMapped, context_eq_ok read⟩
    · cases decoded
      exact ⟨rfl, rfl⟩

/-- Where the STUN walk succeeds, the TURN walk takes the same rounds. -/
theorem forall₂_sameAttribute (buf : Bytes) (tid : TransactionId) (fuel pos : Nat)
    (attrs : List StunAttribute) (parsed : parseAttributesFrom buf tid fuel pos = .ok attrs) :
    List.Forall₂ (SameAttribute tid) attrs (parseRawAttrsFrom buf fuel pos) := by
  induction fuel generalizing pos attrs with
  | zero =>
      cases parsed
      exact List.Forall₂.nil
  | succ fuel ih =>
      rw [parseAttributesFrom, ATTR_HDR_LEN] at parsed
      rw [parseRawAttrsFrom]
      split at parsed
      · rename_i headed
        rw [if_pos headed]
        dsimp only at parsed ⊢
        split at parsed
        · cases parsed
        · rename_i valued
          rw [if_neg valued]
          obtain ⟨attr, decoded, parsed⟩ := bind_eq_ok parsed
          obtain ⟨rest, later, parsed⟩ := bind_eq_ok parsed
          cases parsed
          exact List.Forall₂.cons (sameAttribute_of_decodeAttribute decoded) (ih _ rest later)
      · rename_i done
        cases parsed
        rw [if_neg done]
        exact List.Forall₂.nil

/-- What the two clients have in common on a buffer: the same addresses from the
same values, the same attributes in the same order where the stricter walk
succeeds, and walks that come to their end inside the buffer. -/
structure DecodersAgree (buf : Bytes) (tid : TransactionId) : Prop where
  addresses : ∀ val addr,
    decodeXorMapped val tid = .ok addr ↔ parseXorMappedAddr val tid = some addr
  attributes : ∀ attrs, parseAttributes buf tid = .ok attrs →
    List.Forall₂ (SameAttribute tid) attrs (parseRawAttrs buf)
  stunWalk : parseAttributesChecked buf tid = inRange (parseAttributes buf tid)
  turnWalk : parseRawAttrsChecked buf = .ok (parseRawAttrs buf)

theorem decoders_agree (buf : Bytes) (tid : TransactionId) : DecodersAgree buf tid where
  addresses := by
    intro val addr
    exact decodeXorMapped_eq_ok_iff val tid addr
  attributes := by
    intro attrs parsed
    exact forall₂_sameAttribute buf tid buf.length 0 attrs parsed
  stunWalk := parseAttributesChecked_eq buf tid
  turnWalk := parseRawAttrsChecked_eq buf

/-! ### Writing a peer address -/

theorem xorPort_cancel (port : UInt16) : port ^^^ cookiePort ^^^ cookiePort = port := by
  rw [UInt16.xor_assoc, UInt16.xor_self, UInt16.xor_zero]

theorem xorIp_cancel (ip : UInt32) : ip ^^^ MAGIC_COOKIE ^^^ MAGIC_COOKIE = ip := by
  rw [UInt32.xor_assoc, UInt32.xor_self, UInt32.xor_zero]

theorem parseXorMappedAddr_encodeXorPeer_v4 (ip : UInt32) (port : UInt16) (tid : TransactionId) :
    parseXorMappedAddr (encodeXorPeer (.v4 ip port) tid) tid = some (.v4 ip port) := by
  generalize written : encodeXorPeer (.v4 ip port) tid = val
  have fields : val = [0, 0x01] ++ (toBeBytes 2 (port ^^^ cookiePort).toNat ++
      (toBeBytes 4 (ip ^^^ MAGIC_COOKIE).toNat ++ [])) := by
    rw [← written, encodeXorPeer, List.append_nil, List.append_assoc]
  have length : val.length = 8 := by
    rw [fields]
    simp only [List.length_append, length_toBeBytes, List.length_cons, List.length_nil]
  have family : val.getD 1 0 = 0x01 := by
    rw [fields]
    rfl
  have readPort : u16At val 2 = port ^^^ cookiePort := by
    rw [fields, u16At_append [0, 0x01] _ (show [(0 : UInt8), 0x01].length = 2 from rfl),
      UInt16.ofNat_toNat]
  have readIp : u32At val 4 = ip ^^^ MAGIC_COOKIE := by
    rw [fields, ← List.append_assoc, u32At_append _ [] (by
      rw [List.length_append, length_toBeBytes]
      rfl), UInt32.ofNat_toNat]
  unfold parseXorMappedAddr
  rw [if_neg (by omega)]
  dsimp only
  rw [if_pos family, readPort, readIp, xorPort_cancel, xorIp_cancel]

theorem xor_cookie_ne (octet : UInt8) : octet ^^^ 0x21 ≠ octet := by
  intro same
  have cancelled : octet ^^^ (octet ^^^ 0x21) = octet ^^^ octet := by rw [same]
  rw [← UInt8.xor_assoc, UInt8.xor_self, UInt8.zero_xor] at cancelled
  exact absurd cancelled (by decide)

/-- The key changes the first byte of every address. -/
theorem zipWith_xorKey_ne (ip : Ipv6Addr) (tid : TransactionId) :
    List.zipWith (· ^^^ ·) ip.octets (xorKey tid) ≠ ip.octets := by
  obtain ⟨octets, whole⟩ := ip
  cases octets with
  | nil => cases whole
  | cons octet rest =>
      intro same
      exact xor_cookie_ne octet (List.cons.inj same).1

theorem slice_encodeXorPeer_v6 (ip : Ipv6Addr) (port : UInt16) (flowinfo scopeId : UInt32)
    (tid : TransactionId) :
    slice (encodeXorPeer (.v6 ip port flowinfo scopeId) tid) 4 16 = ip.octets := by
  have fields : encodeXorPeer (.v6 ip port flowinfo scopeId) tid =
      ([0, 0x02] ++ toBeBytes 2 (port ^^^ cookiePort).toNat) ++ (ip.octets ++ []) := by
    rw [encodeXorPeer, List.append_nil]
  rw [fields]
  apply slice_append _ _ _ _ ip.length_octets
  rw [List.length_append, length_toBeBytes]
  rfl

/-- A peer address is read back exactly when it is an IPv4 address. -/
theorem encodeXorPeer_readBack_iff (addr : SocketAddr) (tid : TransactionId) :
    parseXorMappedAddr (encodeXorPeer addr tid) tid = some addr ↔ addr.isIpv4 = true := by
  cases addr with
  | v4 ip port => exact iff_of_true (parseXorMappedAddr_encodeXorPeer_v4 ip port tid) rfl
  | v6 ip port flowinfo scopeId =>
      refine iff_of_false ?_ Bool.false_ne_true
      intro readBack
      have octets := slice_encodeXorPeer_v6 ip port flowinfo scopeId tid
      unfold parseXorMappedAddr at readBack
      split at readBack
      · cases readBack
      · dsimp only at readBack
        split at readBack
        · cases readBack
        · split at readBack
          · have same := SocketAddr.v6.inj (Option.some.inj readBack)
            have unchanged := congrArg Ipv6Addr.octets same.1
            dsimp only at unchanged
            rw [octets] at unchanged
            exact zipWith_xorKey_ne ip tid unchanged
          · cases readBack

/-- The loopback address `::1` comes back as another address. -/
theorem encodeXorPeer_loses_loopback :
    ¬ ∀ (addr : SocketAddr) (tid : TransactionId),
      parseXorMappedAddr (encodeXorPeer addr tid) tid = some addr := by
  intro inverse
  have readBack := inverse (.v6 ⟨[0, 0, 0, 0, 0, 0, 0, 0, 0, 0, 0, 0, 0, 0, 0, 1], rfl⟩ 3478 0 0)
    ⟨List.replicate 12 7, rfl⟩
  exact absurd readBack (by decide +kernel)

end Udpix.Traversal

/-
Reading back what `serialise` wrote.

The parser walks over positions of the buffer.  Its loop is followed from the
end of any bytes that were read before, and the bytes after a message are cut
off by the length field of the header.
-/

import Udpix.Traversal.Stun

namespace Udpix.Traversal

open LittleEndian
open Udpix.Protocol (Bytes)

/-! ### Fields -/

theorem length_toBeBytes (width value : Nat) : (toBeBytes width value).length = width := by
  rw [toBeBytes, List.length_reverse, toLeBytes_length]

theorem slice_append (before field after : Bytes) {pos count : Nat} (start : before.length = pos)
    (width : field.length = count) : slice (before ++ (field ++ after)) pos count = field := by
  rw [slice, List.drop_left' start, List.take_left' width]

theorem u16At_append (before after : Bytes) {pos value : Nat} (start : before.length = pos) :
    u16At (before ++ (toBeBytes 2 value ++ after)) pos = UInt16.ofNat value := by
  rw [u16At, slice_append before _ after start (length_toBeBytes 2 value), fromBeBytes, toBeBytes,
    List.reverse_reverse, fromLeBytes_toLeBytes]
  exact UInt16.ofNat_mod_size

theorem u32At_append (before after : Bytes) {pos value : Nat} (start : before.length = pos) :
    u32At (before ++ (toBeBytes 4 value ++ after)) pos = UInt32.ofNat value := by
  rw [u32At, slice_append before _ after start (length_toBeBytes 4 value), fromBeBytes, toBeBytes,
    List.reverse_reverse, fromLeBytes_toLeBytes]
  exact UInt32.ofNat_mod_size

/-! ### Attributes -/

/-- An attribute that `parse` keeps as it is: not one of the two addresses. -/
def StunAttribute.Plain : StunAttribute → Prop
  | .unknown attrType _ => attrType ≠ ATTR_MAPPED ∧ attrType ≠ ATTR_XOR_MAPPED
  | .xorMappedAddress _ => False
  | .mappedAddress _ => False

theorem length_serialiseAttribute_unknown (attrType : UInt16) (data : Bytes) :
    (serialiseAttribute (.unknown attrType data)).length =
      ATTR_HDR_LEN + (data.length + padding data.length) := by
  simp only [serialiseAttribute, List.length_append, length_toBeBytes, List.length_replicate,
    ATTR_HDR_LEN]
  omega

theorem decodeAttribute_plain {attrType : UInt16} {data : Bytes} (tid : TransactionId)
    (kept : (StunAttribute.unknown attrType data).Plain) :
    decodeAttribute attrType data tid = .ok (.unknown attrType data) := by
  rw [decodeAttribute, if_neg kept.2, if_neg kept.1]

theorem parseAttributesFrom_unknown (tid : TransactionId) {attrType : UInt16} {data : Bytes}
    (plain : (StunAttribute.unknown attrType data).Plain) (fits : data.length < 2 ^ 16)
    (before after : Bytes) {pos : Nat} (start : before.length = pos) (fuel : Nat) :
    parseAttributesFrom (before ++ (serialiseAttribute (.unknown attrType data) ++ after)) tid
        (fuel + 1) pos =
      (parseAttributesFrom (before ++ (serialiseAttribute (.unknown attrType data) ++ after)) tid
        fuel (pos + (ATTR_HDR_LEN + (data.length + padding data.length)))).map
          (StunAttribute.unknown attrType data :: ·) := by
  generalize laidOut : before ++ (serialiseAttribute (.unknown attrType data) ++ after) = buf
  have total : buf.length =
      pos + (ATTR_HDR_LEN + (data.length + padding data.length) + after.length) := by
    rw [← laidOut, List.length_append, List.length_append, length_serialiseAttribute_unknown, start]
  have fields : buf = before ++ (toBeBytes 2 attrType.toNat ++ (toBeBytes 2 data.length ++
      (data ++ (List.replicate (padding data.length) 0 ++ after)))) := by
    simp only [← laidOut, serialiseAttribute, List.append_assoc]
  have readType : u16At buf pos = attrType := by
    rw [fields, u16At_append before _ start, UInt16.ofNat_toNat]
  have readLength : (u16At buf (pos + 2)).toNat = data.length := by
    rw [fields, ← List.append_assoc before, u16At_append (before ++ _) _ (by
      rw [List.length_append, length_toBeBytes, start])]
    exact UInt16.toNat_ofNat_of_lt fits
  have readData : slice buf (pos + ATTR_HDR_LEN) data.length = data := by
    rw [fields, ← List.append_assoc before, ← List.append_assoc (before ++ _)]
    apply slice_append _ data _ _ rfl
    rw [List.length_append, List.length_append, length_toBeBytes, length_toBeBytes, start,
      ATTR_HDR_LEN]
  have hasHeader : pos + ATTR_HDR_LEN ≤ buf.length := by omega
  have hasData : ¬ buf.length < pos + ATTR_HDR_LEN + data.length := by omega
  rw [parseAttributesFrom, if_pos hasHeader]
  simp only [readType, readLength, readData, if_neg hasData, decodeAttribute_plain tid plain]
  rw [Nat.add_assoc]
  cases parseAttributesFrom buf tid fuel
      (pos + (ATTR_HDR_LEN + (data.length + padding data.length))) with
  | error causes => rfl
  | ok attrs => rfl

theorem parseAttributesFrom_serialise (tid : TransactionId) (attrs : List StunAttribute)
    (plain : ∀ attr, attr ∈ attrs → attr.Plain)
    (fits : (attrs.flatMap serialiseAttribute).length < 2 ^ 16)
    (before : Bytes) {fuel pos : Nat} (start : before.length = pos)
    (enough : attrs.length ≤ fuel) :
    parseAttributesFrom (before ++ attrs.flatMap serialiseAttribute) tid fuel pos = .ok attrs := by
  induction attrs generalizing before fuel pos with
  | nil =>
      cases fuel with
      | zero => rfl
      | succ fuel =>
          have done : ¬ pos + ATTR_HDR_LEN ≤ (before ++ ([] : Bytes)).length := by
            rw [List.append_nil, start, ATTR_HDR_LEN]
            omega
          rw [List.flatMap_nil, parseAttributesFrom, if_neg done]
  | cons attr rest ih =>
      cases attr with
      | xorMappedAddress addr => exact absurd (plain _ List.mem_cons_self) not_false
      | mappedAddress addr => exact absurd (plain _ List.mem_cons_self) not_false
      | unknown attrType data =>
          obtain ⟨less, rfl⟩ := Nat.exists_eq_succ_of_ne_zero
            (Nat.ne_of_gt (Nat.lt_of_lt_of_le (Nat.succ_pos rest.length) enough))
          rw [List.flatMap_cons, List.length_append, length_serialiseAttribute_unknown] at fits
          have later := ih (fun other member => plain other (List.mem_cons_of_mem _ member))
            (by omega) (before ++ serialiseAttribute (.unknown attrType data))
            (by rw [List.length_append, length_serialiseAttribute_unknown, start])
            (Nat.le_of_succ_le_succ enough)
          rw [List.append_assoc] at later
          rw [List.flatMap_cons, parseAttributesFrom_unknown tid (plain _ List.mem_cons_self)
            (by omega) before _ start, later]
          rfl

theorem length_le_serialise {attrs : List StunAttribute}
    (plain : ∀ attr, attr ∈ attrs → attr.Plain) :
    attrs.length ≤ (attrs.flatMap serialiseAttribute).length := by
  induction attrs with
  | nil => exact Nat.le_refl 0
  | cons attr rest ih =>
      have later := ih (fun other member => plain other (List.mem_cons_of_mem attr member))
      have written : 0 < (serialiseAttribute attr).length := by
        cases attr with
        | xorMappedAddress addr => exact absurd (plain _ List.mem_cons_self) not_false
        | mappedAddress addr => exact absurd (plain _ List.mem_cons_self) not_false
        | unknown attrType data =>
            rw [length_serialiseAttribute_unknown, ATTR_HDR_LEN]
            omega
      rw [List.flatMap_cons, List.length_append, List.length_cons]
      omega

/-! ### Messages -/

namespace StunMessage

/-- The attribute bytes fit the length field. -/
def Fits (message : StunMessage) : Prop :=
  (message.attributes.flatMap serialiseAttribute).length < 2 ^ 16

theorem length_serialise (message : StunMessage) :
    message.serialise.length =
      HEADER_LEN + (message.attributes.flatMap serialiseAttribute).length := by
  simp only [serialise, List.length_append, length_toBeBytes, message.transactionId.length_bytes,
    HEADER_LEN]

theorem serialise_append (message : StunMessage) (trailing : Bytes) :
    message.serialise ++ trailing =
      toBeBytes 2 message.msgType.toNat ++
        (toBeBytes 2 (message.attributes.flatMap serialiseAttribute).length ++
          (toBeBytes 4 MAGIC_COOKIE.toNat ++ (message.transactionId.bytes ++
            (message.attributes.flatMap serialiseAttribute ++ trailing)))) := by
  simp only [serialise, List.append_assoc]

theorem u16At_two_serialise {message : StunMessage} (fits : message.Fits) (trailing : Bytes) :
    (u16At (message.serialise ++ trailing) 2).toNat =
      (message.attributes.flatMap serialiseAttribute).length := by
  rw [serialise_append, u16At_append _ _ (length_toBeBytes 2 _)]
  exact UInt16.toNat_ofNat_of_lt fits

theorem parse_serialise {message : StunMessage} (fits : message.Fits)
    (plain : ∀ attr, attr ∈ message.attributes → attr.Plain) (trailing : Bytes) :
    parse (message.serialise ++ trailing) = .ok message := by
  have readLength := u16At_two_serialise fits trailing
  have total : (message.serialise ++ trailing).length = HEADER_LEN +
      (message.attributes.flatMap serialiseAttribute).length + trailing.length := by
    rw [List.length_append, length_serialise]
  have fields := serialise_append message trailing
  generalize message.serialise ++ trailing = buf at readLength total fields
  have readType : u16At buf 0 = message.msgType := by
    rw [fields, ← List.nil_append (toBeBytes 2 _ ++ _), u16At_append [] _ List.length_nil,
      UInt16.ofNat_toNat]
  have readCookie : u32At buf 4 = MAGIC_COOKIE := by
    rw [fields, ← List.append_assoc, u32At_append (toBeBytes 2 _ ++ toBeBytes 2 _) _ (by
      rw [List.length_append, length_toBeBytes, length_toBeBytes]), UInt32.ofNat_toNat]
  have readTid : slice buf 8 12 = message.transactionId.bytes := by
    rw [fields, ← List.append_assoc, ← List.append_assoc]
    apply slice_append _ _ _ _ message.transactionId.length_bytes
    simp only [List.length_append, length_toBeBytes]
  have readAttrs : slice buf HEADER_LEN (message.attributes.flatMap serialiseAttribute).length =
      message.attributes.flatMap serialiseAttribute := by
    rw [fields, ← List.append_assoc, ← List.append_assoc, ← List.append_assoc]
    apply slice_append _ _ _ _ rfl
    simp only [List.length_append, length_toBeBytes, message.transactionId.length_bytes, HEADER_LEN]
  have hasHeader : ¬ buf.length < HEADER_LEN := by omega
  have hasAttrs : ¬ buf.length < HEADER_LEN +
      (message.attributes.flatMap serialiseAttribute).length := by omega
  have parsed : parseAttributes (message.attributes.flatMap serialiseAttribute)
      message.transactionId = .ok message.attributes :=
    parseAttributesFrom_serialise message.transactionId message.attributes plain fits [] rfl
      (length_le_serialise plain)
  rw [parse, dif_neg hasHeader, if_neg (not_not_intro readCookie)]
  simp only [readLength, readType, readTid, readAttrs, if_neg hasAttrs, parsed]
  rfl

end StunMessage

end Udpix.Traversal

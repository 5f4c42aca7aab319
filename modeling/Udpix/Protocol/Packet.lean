/-
The 29-byte datagram header and its wire image.

The header is a packed little-endian structure, so its image is the
concatenation of its fields in declaration order.  Reading copies the first 29
bytes of a datagram back into the fields and ignores the rest.
-/

import Udpix.Library.LittleEndian
import Mathlib.Data.List.Basic

namespace Udpix.Protocol

open LittleEndian

abbrev Bytes := List UInt8

/-! ### Flag bits -/

namespace Flags

def fin : UInt8 := 0b00000010
def data : UInt8 := 0b00000100
def nak : UInt8 := 0b00010000
def ping : UInt8 := 0b00100000
def pong : UInt8 := 0b01000000

end Flags

structure RudpHeader where
  sessionId : UInt32
  sequenceNumber : UInt64
  timestampUs : UInt64
  flags : UInt8
  payloadLen : UInt16
  fecGroupId : UInt32
  fecIndex : UInt8
  fecGroupSize : UInt8
deriving DecidableEq, Repr

namespace RudpHeader

def SIZE : Nat := 29

/-! ### Constructors -/

/-- A header with the forward-error-correction fields zeroed, as every
constructor leaves them. -/
def build (flags : UInt8) (sessionId : UInt32) (seq tsUs : UInt64)
    (payloadLen : UInt16) : RudpHeader :=
  { sessionId := sessionId
    sequenceNumber := seq
    timestampUs := tsUs
    flags := flags
    payloadLen := payloadLen
    fecGroupId := 0
    fecIndex := 0
    fecGroupSize := 0 }

def newData (sessionId : UInt32) (seq tsUs : UInt64) (payloadLen : UInt16) : RudpHeader :=
  build Flags.data sessionId seq tsUs payloadLen

def newHeartbeatSack (sessionId : UInt32) (seq tsUs : UInt64)
    (payloadLen : UInt16) : RudpHeader :=
  build Flags.nak sessionId seq tsUs payloadLen

/-- Echoes the timestamp the sender wrote. -/
def newPong (sessionId : UInt32) (seq senderTsUs : UInt64) : RudpHeader :=
  build Flags.pong sessionId seq senderTsUs 0

def newFin (sessionId : UInt32) (seq tsUs : UInt64) : RudpHeader :=
  build Flags.fin sessionId seq tsUs 0

/-! ### Flag testers -/

def hasFlag (header : RudpHeader) (flag : UInt8) : Bool :=
  header.flags &&& flag != 0

def isFin (header : RudpHeader) : Bool := header.hasFlag Flags.fin
def isData (header : RudpHeader) : Bool := header.hasFlag Flags.data
def isPing (header : RudpHeader) : Bool := header.hasFlag Flags.ping
def isPong (header : RudpHeader) : Bool := header.hasFlag Flags.pong

/-! ### Wire image -/

/-- The memory of the packed structure on a little-endian machine. -/
def toBytes (header : RudpHeader) : Bytes :=
  toLeBytes 4 header.sessionId.toNat ++
  toLeBytes 8 header.sequenceNumber.toNat ++
  toLeBytes 8 header.timestampUs.toNat ++
  toLeBytes 1 header.flags.toNat ++
  toLeBytes 2 header.payloadLen.toNat ++
  toLeBytes 4 header.fecGroupId.toNat ++
  toLeBytes 1 header.fecIndex.toNat ++
  toLeBytes 1 header.fecGroupSize.toNat

/-- Overwrite the first bytes of a buffer.  The code asserts that the buffer
holds at least `SIZE` bytes; every caller allocates that many. -/
def writeTo (header : RudpHeader) (buf : Bytes) : Bytes :=
  header.toBytes ++ buf.drop SIZE

/-- The number stored in the `width` bytes at `offset`. -/
def fieldAt (buf : Bytes) (offset width : Nat) : Nat :=
  fromLeBytes ((buf.drop offset).take width)

def readFrom (buf : Bytes) : Option RudpHeader :=
  if buf.length < SIZE then none
  else some
    { sessionId := UInt32.ofNat (fieldAt buf 0 4)
      sequenceNumber := UInt64.ofNat (fieldAt buf 4 8)
      timestampUs := UInt64.ofNat (fieldAt buf 12 8)
      flags := UInt8.ofNat (fieldAt buf 20 1)
      payloadLen := UInt16.ofNat (fieldAt buf 21 2)
      fecGroupId := UInt32.ofNat (fieldAt buf 23 4)
      fecIndex := UInt8.ofNat (fieldAt buf 27 1)
      fecGroupSize := UInt8.ofNat (fieldAt buf 28 1) }

@[simp] theorem toBytes_length (header : RudpHeader) : header.toBytes.length = SIZE := by
  simp only [toBytes, List.length_append, toLeBytes_length]
  rfl

private theorem fieldAt_append (before after : Bytes) (offset width value : Nat)
    (place : before.length = offset) (fits : value < 256 ^ width) :
    fieldAt (before ++ (toLeBytes width value ++ after)) offset width = value := by
  unfold fieldAt
  rw [List.drop_left' place, List.take_left' (toLeBytes_length width value),
    fromLeBytes_toLeBytes_of_lt width value fits]

theorem readFrom_toBytes_append (header : RudpHeader) (rest : Bytes) :
    readFrom (header.toBytes ++ rest) = some header := by
  have longEnough : ¬ (header.toBytes ++ rest).length < SIZE := by
    rw [List.length_append, toBytes_length]
    omega
  have sessionRead : fieldAt (header.toBytes ++ rest) 0 4 = header.sessionId.toNat := by
    simpa only [toBytes, List.append_assoc, List.nil_append] using
      fieldAt_append [] _ 0 4 _ rfl header.sessionId.toNat_lt
  have sequenceRead :
      fieldAt (header.toBytes ++ rest) 4 8 = header.sequenceNumber.toNat := by
    simpa only [toBytes, List.append_assoc] using
      fieldAt_append (toLeBytes 4 header.sessionId.toNat) _ 4 8 _
        (by simp) header.sequenceNumber.toNat_lt
  have timestampRead :
      fieldAt (header.toBytes ++ rest) 12 8 = header.timestampUs.toNat := by
    simpa only [toBytes, List.append_assoc] using
      fieldAt_append (toLeBytes 4 header.sessionId.toNat ++
        toLeBytes 8 header.sequenceNumber.toNat) _ 12 8 _
        (by simp) header.timestampUs.toNat_lt
  have flagsRead : fieldAt (header.toBytes ++ rest) 20 1 = header.flags.toNat := by
    simpa only [toBytes, List.append_assoc] using
      fieldAt_append (toLeBytes 4 header.sessionId.toNat ++
        toLeBytes 8 header.sequenceNumber.toNat ++
        toLeBytes 8 header.timestampUs.toNat) _ 20 1 _
        (by simp) header.flags.toNat_lt
  have payloadRead : fieldAt (header.toBytes ++ rest) 21 2 = header.payloadLen.toNat := by
    simpa only [toBytes, List.append_assoc] using
      fieldAt_append (toLeBytes 4 header.sessionId.toNat ++
        toLeBytes 8 header.sequenceNumber.toNat ++
        toLeBytes 8 header.timestampUs.toNat ++
        toLeBytes 1 header.flags.toNat) _ 21 2 _
        (by simp) header.payloadLen.toNat_lt
  have groupRead : fieldAt (header.toBytes ++ rest) 23 4 = header.fecGroupId.toNat := by
    simpa only [toBytes, List.append_assoc] using
      fieldAt_append (toLeBytes 4 header.sessionId.toNat ++
        toLeBytes 8 header.sequenceNumber.toNat ++
        toLeBytes 8 header.timestampUs.toNat ++
        toLeBytes 1 header.flags.toNat ++
        toLeBytes 2 header.payloadLen.toNat) _ 23 4 _
        (by simp) header.fecGroupId.toNat_lt
  have indexRead : fieldAt (header.toBytes ++ rest) 27 1 = header.fecIndex.toNat := by
    simpa only [toBytes, List.append_assoc] using
      fieldAt_append (toLeBytes 4 header.sessionId.toNat ++
        toLeBytes 8 header.sequenceNumber.toNat ++
        toLeBytes 8 header.timestampUs.toNat ++
        toLeBytes 1 header.flags.toNat ++
        toLeBytes 2 header.payloadLen.toNat ++
        toLeBytes 4 header.fecGroupId.toNat) _ 27 1 _
        (by simp) header.fecIndex.toNat_lt
  have groupSizeRead :
      fieldAt (header.toBytes ++ rest) 28 1 = header.fecGroupSize.toNat := by
    simpa only [toBytes, List.append_assoc] using
      fieldAt_append (toLeBytes 4 header.sessionId.toNat ++
        toLeBytes 8 header.sequenceNumber.toNat ++
        toLeBytes 8 header.timestampUs.toNat ++
        toLeBytes 1 header.flags.toNat ++
        toLeBytes 2 header.payloadLen.toNat ++
        toLeBytes 4 header.fecGroupId.toNat ++
        toLeBytes 1 header.fecIndex.toNat) rest 28 1 _
        (by simp) header.fecGroupSize.toNat_lt
  unfold readFrom
  rw [if_neg longEnough, sessionRead, sequenceRead, timestampRead, flagsRead,
    payloadRead, groupRead, indexRead, groupSizeRead]
  simp only [UInt32.ofNat_toNat, UInt64.ofNat_toNat, UInt8.ofNat_toNat,
    UInt16.ofNat_toNat]

@[simp] theorem isData_newData (sessionId : UInt32) (seq tsUs : UInt64)
    (payloadLen : UInt16) :
    (newData sessionId seq tsUs payloadLen).isData = true := by
  change (Flags.data &&& Flags.data != 0) = true
  decide

end RudpHeader

/-- Header and payload in one freshly allocated buffer. -/
def datagram (header : RudpHeader) (chunk : Bytes) : Bytes :=
  let buf := header.writeTo (List.replicate (RudpHeader.SIZE + chunk.length) 0)
  buf.take RudpHeader.SIZE ++ chunk

theorem datagram_eq (header : RudpHeader) (chunk : Bytes) :
    datagram header chunk = header.toBytes ++ chunk := by
  unfold datagram RudpHeader.writeTo
  simp only [List.take_left' header.toBytes_length]

end Udpix.Protocol

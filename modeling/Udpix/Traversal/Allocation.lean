/-
Allocating a relay on a TURN server.

The client asks twice: the first answer is to be a 401 with REALM and NONCE, the
second one, to a request with credentials, the allocation.  Nothing is known of
the answers.  The allocation is followed with the bounds check of every index
and slice.  MD5 and HMAC-SHA1 are arguments, and so is what the socket does in
the two rounds.
-/

import Udpix.Library.Utf8
import Udpix.Traversal.TurnDecoding

namespace Udpix.Traversal

open BoundsCheck Fallible
open Udpix.Protocol (Bytes)

def TURN_ALLOCATE_REQUEST : UInt16 := 0x0003
def TURN_ALLOCATE_SUCCESS : UInt16 := 0x0103
def ATTR_USERNAME : UInt16 := 0x0006
def ATTR_ERROR_CODE : UInt16 := 0x0009
def ATTR_LIFETIME : UInt16 := 0x000D
def ATTR_REALM : UInt16 := 0x0014
def ATTR_NONCE : UInt16 := 0x0015
def ATTR_XOR_RELAYED : UInt16 := 0x0016
def ATTR_REQ_TRANSPORT : UInt16 := 0x0019

structure TurnAllocation where
  relayedAddr : SocketAddr
  mappedAddr : SocketAddr
  lifetimeSecs : UInt32
deriving DecidableEq

/-- Names and realm are the bytes of their strings; `sent` is what went out on
the socket. -/
structure TurnClient where
  serverAddr : SocketAddr
  username : Bytes
  password : Bytes
  realm : Bytes
  nonce : Bytes
  allocation : Option TurnAllocation
  sent : List (SocketAddr × Bytes)

inductive TurnAnswer where
  | timeout
  | recvError (cause : String)
  | datagram (bytes : Bytes)

structure TurnExchange where
  transactionId : TransactionId
  sendError : Option String
  answer : TurnAnswer

def TURN_RECV_BUFFER : Nat := 1024

/-- The bytes that a round hands to the client, cut to the length of the buffer. -/
def TurnExchange.received (exchange : TurnExchange) : Option Bytes :=
  match exchange.sendError, exchange.answer with
  | none, .datagram bytes => some (bytes.take TURN_RECV_BUFFER)
  | _, _ => none

/-! ### Reading the answers -/

def errorCode : List RawAttr → Option UInt16
  | [] => none
  | attr :: rest =>
      if attr.attrType = ATTR_ERROR_CODE ∧ 4 ≤ attr.value.length then
        some ((attr.value.getD 2 0 &&& 0x07).toUInt16 * 100 + (attr.value.getD 3 0).toUInt16)
      else errorCode rest

def errorCodeChecked : List RawAttr → Except (Stop Error) (Option UInt16)
  | [] => .ok none
  | attr :: rest =>
      if attr.attrType = ATTR_ERROR_CODE ∧ 4 ≤ attr.value.length then do
        let codeClass ← index attr.value 2
        let number ← index attr.value 3
        .ok (some ((codeClass &&& 0x07).toUInt16 * 100 + number.toUInt16))
      else errorCodeChecked rest

/-- The realm and the nonce after the attributes of a challenge: the last one of
each type counts. -/
def takeCredentials (realm nonce : Bytes) : List RawAttr → Bytes × Bytes
  | [] => (realm, nonce)
  | attr :: rest =>
      if attr.attrType = ATTR_REALM then
        takeCredentials (Utf8.toStringLossy attr.value) nonce rest
      else if attr.attrType = ATTR_NONCE then takeCredentials realm attr.value rest
      else takeCredentials realm nonce rest

def bodyAttrsChecked (answer : Bytes) : Except (Stop Error) (List RawAttr) := do
  let body ← between answer HEADER_LEN answer.length
  parseRawAttrsChecked body

def tidChecked (bytes : Bytes) : Except (Stop Error) TransactionId :=
  if fits : bytes.length = 12 then .ok ⟨bytes, fits⟩ else .error .outOfRange

def firstAddrChecked (attrType : UInt16) (attrs : List RawAttr) (tid : TransactionId) :
    Except (Stop Error) (Option SocketAddr) :=
  match attrs.find? (fun attr => attr.attrType == attrType) with
  | none => .ok none
  | some attr => parseXorMappedAddrChecked attr.value tid

/-- The lifetime of an allocation, ten minutes where none is given. -/
def lifetimeChecked (attrs : List RawAttr) : Except (Stop Error) UInt32 :=
  match attrs.find? (fun attr => attr.attrType == ATTR_LIFETIME && attr.value.length == 4) with
  | none => .ok 600
  | some attr => u32Checked attr.value 0

def readAllocation (r2 : Bytes) : Except (Stop Error) TurnAllocation := do
  let msgType ← u16Checked r2 0
  if msgType ≠ TURN_ALLOCATE_SUCCESS then
    let attrs2 ← bodyAttrsChecked r2
    let code2 ← errorCodeChecked attrs2
    .error (.failed ["TURN Allocate failed: msg_type=0x" ++ hexUpper 4 msgType.toNat ++
      ", error=" ++ toString (code2.getD 0).toNat])
  else
    let tidBytes ← between r2 8 20
    let tid ← tidChecked tidBytes
    let attrs2 ← bodyAttrsChecked r2
    let found ← firstAddrChecked ATTR_XOR_RELAYED attrs2 tid
    match found with
    | none => .error (.failed ["TURN Allocate missing XOR-RELAYED-ADDRESS"])
    | some relayed =>
        let mapped ← firstAddrChecked ATTR_XOR_MAPPED attrs2 tid
        let lifetime ← lifetimeChecked attrs2
        .ok { relayedAddr := relayed, mappedAddr := mapped.getD relayed, lifetimeSecs := lifetime }

namespace TurnClient

/-- What the first answer says; the credentials are stored before they are looked at. -/
def readChallenge (client : TurnClient) (r1 : Bytes) :
    TurnClient × Except (Stop Error) Unit :=
  match bodyAttrsChecked r1 with
  | .error stop => (client, .error stop)
  | .ok attrs1 =>
      match errorCodeChecked attrs1 with
      | .error stop => (client, .error stop)
      | .ok found =>
          let code := found.getD 0
          if code ≠ 401 then
            (client, .error (.failed
              ["TURN Allocate round-1: expected 401, got " ++ toString code.toNat]))
          else
            let credentials := takeCredentials client.realm client.nonce attrs1
            let challenged := { client with realm := credentials.1, nonce := credentials.2 }
            if challenged.realm = [] ∨ challenged.nonce = [] then
              (challenged, .error (.failed ["TURN 401 missing REALM or NONCE"]))
            else (challenged, .ok ())

section Crypto

variable (md5 : Bytes → Bytes) (hmacSha1 : Bytes → Bytes → Mac)

/-- `username:realm:password` under MD5. -/
def deriveKey (username realm password : Bytes) : Bytes :=
  md5 (username ++ [0x3A] ++ realm ++ [0x3A] ++ password)

def allocateRequest (client : TurnClient) (tid : TransactionId) (authenticated : Bool) : Bytes :=
  let msg := ((TurnMsg.new TURN_ALLOCATE_REQUEST tid).pushAttr ATTR_REQ_TRANSPORT
    [0x11, 0, 0, 0]).pushAttr ATTR_LIFETIME (toBeBytes 4 600)
  if authenticated then
    let signed := ((msg.pushAttr ATTR_USERNAME client.username).pushAttr ATTR_REALM
      client.realm).pushAttr ATTR_NONCE client.nonce
    signed.buildWithIntegrity hmacSha1
      (deriveKey md5 client.username client.realm client.password)
  else msg.build

def sendAllocateRequest (client : TurnClient) (exchange : TurnExchange) (authenticated : Bool) :
    TurnClient × Except Error Bytes :=
  let wire := client.allocateRequest md5 hmacSha1 exchange.transactionId authenticated
  match exchange.sendError with
  | some cause => (client, .error ["TURN send", cause])
  | none =>
      let waiting := { client with sent := client.sent ++ [(client.serverAddr, wire)] }
      match exchange.answer with
      | .timeout => (waiting, .error ["TURN response timeout", "deadline has elapsed"])
      | .recvError cause => (waiting, .error ["TURN recv", cause])
      | .datagram bytes => (waiting, .ok (bytes.take TURN_RECV_BUFFER))

def allocate (client : TurnClient) (first second : TurnExchange) :
    TurnClient × Except (Stop Error) TurnAllocation :=
  match client.sendAllocateRequest md5 hmacSha1 first false with
  | (waiting, .error causes) => (waiting, .error (.failed causes))
  | (waiting, .ok r1) =>
      match waiting.readChallenge r1 with
      | (challenged, .error stop) => (challenged, .error stop)
      | (challenged, .ok ()) =>
          match challenged.sendAllocateRequest md5 hmacSha1 second true with
          | (again, .error causes) => (again, .error (.failed causes))
          | (again, .ok r2) =>
              match readAllocation r2 with
              | .error stop => (again, .error stop)
              | .ok alloc => ({ again with allocation := some alloc }, .ok alloc)

end Crypto

end TurnClient

/-! ### What the answers must be -/

/-- The second answer grants the relayed address: it is an Allocate Success, and
its first XOR-RELAYED-ADDRESS reads as that address. -/
structure Grants (r2 : Bytes) (relayed : SocketAddr) : Prop where
  success : u16At r2 0 = TURN_ALLOCATE_SUCCESS
  address : ∃ tid attr, tid.bytes = slice r2 8 12 ∧
    (parseRawAttrs (r2.drop HEADER_LEN)).find? (fun attr => attr.attrType == ATTR_XOR_RELAYED) =
      some attr ∧ parseXorMappedAddr attr.value tid = some relayed

namespace TurnClient

/-- The first answer makes the client ask again. -/
def Challenges (client : TurnClient) (r1 : Bytes) : Prop :=
  let attrs1 := parseRawAttrs (r1.drop HEADER_LEN)
  let credentials := takeCredentials client.realm client.nonce attrs1
  (errorCode attrs1).getD 0 = 401 ∧ credentials.1 ≠ [] ∧ credentials.2 ≠ []

/-- Every answer that is read has the twenty bytes of a header. -/
def AnswersHeaded (client : TurnClient) (first second : TurnExchange) : Prop :=
  ∀ r1, first.received = some r1 → HEADER_LEN ≤ r1.length ∧
    (client.Challenges r1 → ∀ r2, second.received = some r2 → HEADER_LEN ≤ r2.length)

section Crypto

variable (md5 : Bytes → Bytes) (hmacSha1 : Bytes → Bytes → Mac)

/-- The allocation ends without leaving a buffer.  A failure keeps what was
allocated before, and a success is granted by the second answer. -/
def Survives (client : TurnClient) (first second : TurnExchange) : Prop :=
  match client.allocate md5 hmacSha1 first second with
  | (_, .error .outOfRange) => False
  | (_, .error .unfinished) => False
  | (after, .error (.failed _)) => after.allocation = client.allocation
  | (_, .ok alloc) => ∃ r2, second.received = some r2 ∧ Grants r2 alloc.relayedAddr

end Crypto

end TurnClient

/-! ### One answer -/

theorem errorCodeChecked_eq (attrs : List RawAttr) :
    errorCodeChecked attrs = .ok (errorCode attrs) := by
  induction attrs with
  | nil => rfl
  | cons attr rest ih =>
      rw [errorCodeChecked, errorCode]
      split
      · rename_i coded
        have long := coded.2
        rw [index_of_lt (by omega) 0, index_of_lt (by omega) 0]
        rfl
      · exact ih

theorem firstAddrChecked_eq (attrType : UInt16) (attrs : List RawAttr) (tid : TransactionId) :
    firstAddrChecked attrType attrs tid =
      .ok ((attrs.find? (fun attr => attr.attrType == attrType)).bind fun attr =>
        parseXorMappedAddr attr.value tid) := by
  unfold firstAddrChecked
  cases attrs.find? (fun attr => attr.attrType == attrType) with
  | none => rfl
  | some attr => exact parseXorMappedAddrChecked_eq attr.value tid

theorem lifetimeChecked_ok (attrs : List RawAttr) :
    ∃ lifetime, lifetimeChecked attrs = .ok lifetime := by
  unfold lifetimeChecked
  cases found : attrs.find? (fun attr => attr.attrType == ATTR_LIFETIME && attr.value.length == 4)
    with
  | none => exact ⟨600, rfl⟩
  | some attr =>
      have isLifetime := List.find?_some found
      have four : attr.value.length = 4 := eq_of_beq (Bool.and_eq_true_iff.mp isLifetime).2
      exact ⟨_, u32Checked_of_le (Nat.le_of_eq four.symm)⟩

theorem bodyAttrsChecked_of_le {answer : Bytes} (headed : HEADER_LEN ≤ answer.length) :
    bodyAttrsChecked answer = .ok (parseRawAttrs (answer.drop HEADER_LEN)) := by
  rw [bodyAttrsChecked, between_length_of_le headed]
  exact parseRawAttrsChecked_eq _

theorem bodyAttrsChecked_of_lt {answer : Bytes} (short : answer.length < HEADER_LEN) :
    bodyAttrsChecked answer = .error .outOfRange := by
  rw [bodyAttrsChecked, between_length_of_lt short]
  rfl

theorem readTid_of_le {r2 : Bytes} (headed : 8 + 12 ≤ r2.length) :
    (between r2 8 20 >>= tidChecked) = .ok ⟨slice r2 8 12, length_slice headed⟩ := by
  have copied : (between r2 8 (8 + 12) : Except (Stop Error) Bytes) = .ok (slice r2 8 12) :=
    between_of_le headed
  rw [copied]
  exact dif_pos (length_slice headed)

theorem readAllocation_short {r2 : Bytes} (short : r2.length < HEADER_LEN) :
    readAllocation r2 = .error .outOfRange := by
  unfold readAllocation
  by_cases typed : 0 + 2 ≤ r2.length
  · rw [u16Checked_of_le typed, ok_bind, bodyAttrsChecked_of_lt short,
      between_of_lt (show r2.length < 20 from short)]
    split <;> rfl
  · rw [u16Checked, items_of_lt (by decide) (Nat.lt_of_not_le typed)]
    rfl

theorem readAllocation_of_ne {r2 : Bytes} (headed : HEADER_LEN ≤ r2.length)
    (other : u16At r2 0 ≠ TURN_ALLOCATE_SUCCESS) :
    ∃ causes, readAllocation r2 = .error (.failed causes) := by
  have typed : 0 + 2 ≤ r2.length := Nat.le_trans (by decide) headed
  generalize isRead : readAllocation r2 = outcome
  unfold readAllocation at isRead
  rw [u16Checked_of_le typed, ok_bind, if_pos other, bodyAttrsChecked_of_le headed, ok_bind,
    errorCodeChecked_eq, ok_bind] at isRead
  exact ⟨_, isRead.symm⟩

theorem readAllocation_of_success {r2 : Bytes} (headed : 8 + 12 ≤ r2.length)
    (success : u16At r2 0 = TURN_ALLOCATE_SUCCESS) :
    (∃ causes, readAllocation r2 = .error (.failed causes)) ∨
      ∃ alloc, readAllocation r2 = .ok alloc ∧ Grants r2 alloc.relayedAddr := by
  have typed : 0 + 2 ≤ r2.length := Nat.le_trans (by decide) headed
  generalize isRead : readAllocation r2 = outcome
  unfold readAllocation at isRead
  rw [u16Checked_of_le typed, ok_bind, if_neg (not_not.mpr success), ← bind_assoc,
    readTid_of_le headed, ok_bind, bodyAttrsChecked_of_le headed, ok_bind, firstAddrChecked_eq,
    ok_bind] at isRead
  cases found : ((parseRawAttrs (r2.drop HEADER_LEN)).find?
      (fun attr => attr.attrType == ATTR_XOR_RELAYED)).bind fun attr =>
        parseXorMappedAddr attr.value ⟨slice r2 8 12, length_slice headed⟩ with
  | none =>
      rw [found] at isRead
      exact Or.inl ⟨_, isRead.symm⟩
  | some relayed =>
      rw [found] at isRead
      dsimp only at isRead
      obtain ⟨lifetime, lifetimeRead⟩ := lifetimeChecked_ok (parseRawAttrs (r2.drop HEADER_LEN))
      rw [firstAddrChecked_eq, ok_bind, lifetimeRead, ok_bind] at isRead
      obtain ⟨attr, isFirst, reads⟩ := Option.bind_eq_some_iff.mp found
      exact Or.inr ⟨_, isRead.symm, success, _, attr, rfl, isFirst, reads⟩

theorem readAllocation_cases {r2 : Bytes} (headed : HEADER_LEN ≤ r2.length) :
    (∃ causes, readAllocation r2 = .error (.failed causes)) ∨
      ∃ alloc, readAllocation r2 = .ok alloc ∧ Grants r2 alloc.relayedAddr := by
  by_cases success : u16At r2 0 = TURN_ALLOCATE_SUCCESS
  · exact readAllocation_of_success headed success
  · exact Or.inl (readAllocation_of_ne headed success)

namespace TurnClient

theorem readChallenge_short (client : TurnClient) {r1 : Bytes} (short : r1.length < HEADER_LEN) :
    client.readChallenge r1 = (client, .error .outOfRange) := by
  rw [readChallenge, bodyAttrsChecked_of_lt short]

theorem readChallenge_cases (client : TurnClient) {r1 : Bytes}
    (headed : HEADER_LEN ≤ r1.length) :
    (client.Challenges r1 ∧ ∃ after, client.readChallenge r1 = (after, .ok ()) ∧
        after.allocation = client.allocation) ∨
      (¬ client.Challenges r1 ∧ ∃ after causes,
        client.readChallenge r1 = (after, .error (.failed causes)) ∧
          after.allocation = client.allocation) := by
  rw [readChallenge, bodyAttrsChecked_of_le headed, Challenges]
  dsimp only
  rw [errorCodeChecked_eq]
  dsimp only
  split
  · rename_i other
    exact Or.inr ⟨fun challenges => other challenges.1, _, _, rfl, rfl⟩
  · rename_i unauthorized
    split
    · rename_i missing
      right
      refine ⟨?_, _, _, rfl, rfl⟩
      rintro ⟨_, hasRealm, hasNonce⟩
      exact missing.elim hasRealm hasNonce
    · rename_i complete
      obtain ⟨hasRealm, hasNonce⟩ := not_or.mp complete
      exact Or.inl ⟨⟨not_not.mp unauthorized, hasRealm, hasNonce⟩, _, rfl, rfl⟩

section Crypto

variable (md5 : Bytes → Bytes) (hmacSha1 : Bytes → Bytes → Mac)

theorem sendAllocateRequest_cases (client : TurnClient) (exchange : TurnExchange)
    (authenticated : Bool) :
    (exchange.received = none ∧ ∃ after causes,
        client.sendAllocateRequest md5 hmacSha1 exchange authenticated = (after, .error causes) ∧
          after.allocation = client.allocation) ∨
      ∃ answer sent, exchange.received = some answer ∧
        client.sendAllocateRequest md5 hmacSha1 exchange authenticated =
          ({ client with sent := sent }, .ok answer) := by
  unfold sendAllocateRequest TurnExchange.received
  dsimp only
  cases exchange.sendError with
  | some cause => exact Or.inl ⟨rfl, _, _, rfl, rfl⟩
  | none =>
      cases exchange.answer with
      | timeout => exact Or.inl ⟨rfl, _, _, rfl, rfl⟩
      | recvError cause => exact Or.inl ⟨rfl, _, _, rfl, rfl⟩
      | datagram bytes => exact Or.inr ⟨_, _, rfl, rfl⟩

theorem survives_of_challenged (client challenged waiting : TurnClient)
    (first second : TurnExchange) {r1 : Bytes}
    (asked : client.sendAllocateRequest md5 hmacSha1 first false = (waiting, .ok r1))
    (read : waiting.readChallenge r1 = (challenged, .ok ()))
    (kept : challenged.allocation = client.allocation) :
    client.Survives md5 hmacSha1 first second ↔
      ∀ r2, second.received = some r2 → HEADER_LEN ≤ r2.length := by
  unfold Survives allocate
  rw [asked]
  dsimp only
  rw [read]
  dsimp only
  rcases sendAllocateRequest_cases md5 hmacSha1 challenged second true with
    ⟨nothing, after, causes, failed, same⟩ | ⟨r2, sent, received, answered⟩
  · rw [failed, nothing]
    exact iff_of_true (same.trans kept) (fun _ impossible => nomatch impossible)
  · rw [answered, received]
    dsimp only
    by_cases headed : HEADER_LEN ≤ r2.length
    · refine iff_of_true ?_ ?_
      · rcases readAllocation_cases headed with ⟨causes, failed⟩ | ⟨alloc, granted, grants⟩
        · rw [failed]
          exact kept
        · rw [granted]
          exact ⟨r2, rfl, grants⟩
      · intro other same
        cases same
        exact headed
    · rw [readAllocation_short (Nat.lt_of_not_le headed)]
      exact iff_of_false id (fun everyHeaded => headed (everyHeaded r2 rfl))

/-- An allocation survives the answers of the server exactly when every answer
that is read has a header. -/
theorem allocate_survives_iff (client : TurnClient) (first second : TurnExchange) :
    client.Survives md5 hmacSha1 first second ↔ client.AnswersHeaded first second := by
  rcases sendAllocateRequest_cases md5 hmacSha1 client first false with
    ⟨nothing, after, causes, failed, same⟩ | ⟨r1, sent, received, answered⟩
  · refine iff_of_true ?_ ?_
    · unfold Survives allocate
      rw [failed]
      exact same
    · intro r1 some
      rw [nothing] at some
      cases some
  · have decided : client.AnswersHeaded first second ↔ HEADER_LEN ≤ r1.length ∧
        (client.Challenges r1 → ∀ r2, second.received = some r2 → HEADER_LEN ≤ r2.length) := by
      unfold AnswersHeaded
      rw [received]
      constructor
      · intro headed
        exact headed r1 rfl
      · intro headed other same
        cases same
        exact headed
    rw [decided]
    by_cases headed : HEADER_LEN ≤ r1.length
    · rcases readChallenge_cases { client with sent := sent } headed with
        ⟨challenges, challenged, read, kept⟩ | ⟨noChallenge, after, causes, read, kept⟩
      · rw [survives_of_challenged md5 hmacSha1 client challenged _ first second answered read kept]
        exact ⟨fun second => ⟨headed, fun _ => second⟩, fun both => both.2 challenges⟩
      · refine iff_of_true ?_ ⟨headed, fun challenges => absurd challenges noChallenge⟩
        unfold Survives allocate
        rw [answered]
        dsimp only
        rw [read]
        exact kept
    · refine iff_of_false ?_ (fun both => headed both.1)
      unfold Survives allocate
      rw [answered]
      dsimp only
      rw [readChallenge_short _ (Nat.lt_of_not_le headed)]
      exact id

theorem allocate_fails_on_empty_answer :
    ¬ ∀ (md5 : Bytes → Bytes) (hmacSha1 : Bytes → Bytes → Mac) (client : TurnClient)
      (first second : TurnExchange), client.Survives md5 hmacSha1 first second := by
  intro survives
  let tid : TransactionId := ⟨List.replicate 12 7, rfl⟩
  have stops := survives (fun _ => List.replicate 16 0) (fun _ _ => ⟨List.replicate 20 0, rfl⟩)
    { serverAddr := .v4 0x7F000001 3478
      username := []
      password := []
      realm := []
      nonce := []
      allocation := none
      sent := [] }
    { transactionId := tid, sendError := none, answer := .datagram [] }
    { transactionId := tid, sendError := none, answer := .datagram [] }
  exact stops

end Crypto

end TurnClient

end Udpix.Traversal

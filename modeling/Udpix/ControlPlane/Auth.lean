/-
Users and their tokens.

The key derivation and the token library are parameters.  What is assumed of the
library is written down as fields: it verifies a token exactly when the engine has
issued it and it has not expired.  The engine itself keeps no list of the claims
it has issued; it stands here for the tokens that are in the world.
-/

import Mathlib.Algebra.Order.Ring.Nat
import Udpix.Library.AssocMap

namespace Udpix.ControlPlane

abbrev Digest := Vector UInt8 32

structure StoredUser where
  hash : Digest
  salt : Digest
deriving DecidableEq

structure Claims where
  sub : String
  sid : String
  exp : Nat
deriving DecidableEq

/-- The key derivation, and the token library under a secret.  `decode` reads the
claims of a token whose signature is right; `verify` is the whole verification at
a time, when tokens have been issued for these claims. -/
structure Crypto (Token : Type) where
  pbkdf2 : String → Digest → Digest
  encode : List UInt8 → Claims → Token
  decode : List UInt8 → Token → Option Claims
  verify : List UInt8 → List Claims → Nat → Token → Option Claims
  decode_eq_some_iff : ∀ secret token claims,
    decode secret token = some claims ↔ encode secret claims = token
  unforgeable : ∀ secret issued now token claims,
    verify secret issued now token = some claims → claims ∈ issued ∧ encode secret claims = token
  expires : ∀ secret issued now token claims,
    verify secret issued now token = some claims → now ≤ claims.exp
  accepts : ∀ secret issued now claims, claims ∈ issued → now ≤ claims.exp →
    verify secret issued now (encode secret claims) = some claims

structure AuthEngine where
  users : AssocMap String StoredUser
  jwtSecret : List UInt8
  tokenTtlSecs : Nat
  issued : List Claims

namespace AuthEngine

variable {Token : Type} (crypto : Crypto Token)

def new (jwtSecret : List UInt8) (tokenTtlSecs : Nat) : AuthEngine :=
  { users := ∅
    jwtSecret := jwtSecret
    tokenTtlSecs := tokenTtlSecs
    issued := [] }

def addUser (engine : AuthEngine) (salt : Digest) (username password : String) : AuthEngine :=
  { engine with
    users := engine.users.insert username
      { hash := crypto.pbkdf2 password salt, salt := salt } }

/-- The bits in which two digests differ, folded into one byte. -/
def difference (candidate hash : Digest) : UInt8 :=
  (candidate.toList.zip hash.toList).foldl (fun acc pair => acc ||| (pair.1 ^^^ pair.2)) 0

def authenticate (engine : AuthEngine) (username password : String) : Bool :=
  match engine.users.lookup username with
  | none => false
  | some user => difference (crypto.pbkdf2 password user.salt) user.hash = 0

/-- `none` for a clock that stands before 1970. -/
def issueToken (engine : AuthEngine) (unixTime : Option Nat) (username sessionId : String) :
    Except String (Token × AuthEngine) :=
  match unixTime with
  | none => .error "system clock error"
  | some now =>
      let claims :=
        { sub := username
          sid := sessionId
          exp := min (now + engine.tokenTtlSecs) (2 ^ 64 - 1) }
      .ok (crypto.encode engine.jwtSecret claims,
        { engine with issued := engine.issued ++ [claims] })

/-- A clock that stands before 1970 verifies nothing. -/
def verifyToken (engine : AuthEngine) (unixTime : Option Nat) (token : Token) : Option Claims :=
  match unixTime with
  | none => none
  | some now => crypto.verify engine.jwtSecret engine.issued now token

/-- Exactly the unexpired tokens that were issued are verified. -/
theorem verifyToken_eq_some_iff (engine : AuthEngine) (unixTime : Option Nat) (token : Token)
    (claims : Claims) :
    engine.verifyToken crypto unixTime token = some claims ↔
      claims ∈ engine.issued ∧ crypto.encode engine.jwtSecret claims = token ∧
        ∃ now, unixTime = some now ∧ now ≤ claims.exp := by
  cases unixTime with
  | none => simp [verifyToken]
  | some now =>
      constructor
      · intro verified
        obtain ⟨wasIssued, encoded⟩ := crypto.unforgeable _ _ _ _ _ verified
        exact ⟨wasIssued, encoded, now, rfl, crypto.expires _ _ _ _ _ verified⟩
      · intro given
        obtain ⟨wasIssued, encoded, other, same, unexpired⟩ := given
        cases same
        rw [← encoded]
        exact crypto.accepts _ _ _ _ wasIssued unexpired

end AuthEngine

end Udpix.ControlPlane

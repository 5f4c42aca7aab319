/-
Whose requests change a session.

A token names the session it was issued for, and the service verifies the token
but does not compare that name with the session of the request.  Sessions are
isolated from each other exactly in the histories in which the two agree.
-/

import Udpix.ControlPlane.Server
import Udpix.Library.Unwinding

namespace Udpix.ControlPlane

open Protocol Unwinding

variable {Token : Type} (crypto : Crypto Token)

def Request.presented : Request Token → Option Token
  | .authenticate _ _ => none
  | .heartbeat _ jwtToken => some jwtToken
  | .terminate _ jwtToken => some jwtToken

/-- The request carries no token, or none that was issued for another session. -/
def concerns (secret : List UInt8) (uuid : String) (arrival : Arrival Token) : Bool :=
  match arrival.request.presented with
  | none => true
  | some token =>
      match crypto.decode secret token with
      | none => true
      | some claims => claims.sid = uuid

namespace ControlService

/-- A token changes no session but the one it was issued for. -/
def ChangesOwnOnly (service : ControlService) (arrival : Arrival Token) : Prop :=
  ∀ token, arrival.request.presented = some token → ∀ uuid,
    (service.next crypto arrival).sessions.getClone uuid ≠ service.sessions.getClone uuid →
      ∃ claims, service.auth.verifyToken crypto arrival.moment.unixTime token = some claims ∧
        claims.sid = uuid

/-- Every request with a token keeps to its session, and each session comes out
as if the requests with the tokens of other sessions had not been made. -/
def Isolated (service : ControlService) (history : List (Arrival Token)) : Prop :=
  EachStep (next crypto) (ChangesOwnOnly crypto) service history ∧
    ∀ uuid, (service.run crypto history).sessions.getClone uuid =
      (service.run crypto
        (history.filter (concerns crypto service.auth.jwtSecret uuid))).sessions.getClone uuid

/-- A verified request on a session in the table is on the session of its token,
or it is a heartbeat at the very instant of the last one. -/
def NamesOwnSession (service : ControlService) (arrival : Arrival Token) : Prop :=
  match arrival.request with
  | .authenticate _ _ => True
  | .heartbeat sessionId token =>
      ∀ claims info,
        service.auth.verifyToken crypto arrival.moment.unixTime token = some claims →
        service.sessions.getClone sessionId = some info →
        info.lastHeartbeat ≠ arrival.moment.now → claims.sid = sessionId
  | .terminate sessionId token =>
      ∀ claims info,
        service.auth.verifyToken crypto arrival.moment.unixTime token = some claims →
        service.sessions.getClone sessionId = some info → claims.sid = sessionId

/-! ### One request -/

/-- A request with a token does nothing unless the token is verified, and then
it updates one entry of the table. -/
structure Acts (arrival : Arrival Token) (named : String) (token : Token)
    (update : Option SessionInfo → Option SessionInfo) : Prop where
  presents : arrival.request.presented = some token
  rejected : ∀ service : ControlService,
    service.auth.verifyToken crypto arrival.moment.unixTime token = none →
      service.next crypto arrival = service
  accepted : ∀ (service : ControlService) (claims : Claims),
    service.auth.verifyToken crypto arrival.moment.unixTime token = some claims →
      ∃ sessions, service.next crypto arrival = { service with sessions := sessions } ∧
        sessions.nextId = service.sessions.nextId ∧
        ∀ uuid, sessions.getClone uuid =
          if uuid = named then update (service.sessions.getClone uuid)
          else service.sessions.getClone uuid

theorem acts_heartbeat (moment : Moment) (named : String) (token : Token) :
    Acts crypto ⟨moment, .heartbeat named token⟩ named token
      (Option.map (fun info => { info with lastHeartbeat := moment.now })) where
  presents := rfl
  rejected := by
    intro service unverified
    simp only [next, handle, heartbeat, unverified]
  accepted := by
    intro service claims verified
    refine ⟨(service.sessions.heartbeat moment.now named).2, ?_, ?_, ?_⟩
    · simp only [next, handle, heartbeat, verified]
    · unfold SessionManager.heartbeat
      split <;> rfl
    · exact service.sessions.getClone_heartbeat moment.now named

theorem acts_terminate (moment : Moment) (named : String) (token : Token) :
    Acts crypto ⟨moment, .terminate named token⟩ named token (fun _ => none) where
  presents := rfl
  rejected := by
    intro service unverified
    simp only [next, handle, terminate, unverified]
  accepted := by
    intro service claims verified
    refine ⟨(service.sessions.terminate named).2, ?_, rfl, ?_⟩
    · simp only [next, handle, terminate, verified]
    · exact service.sessions.getClone_terminate named

variable {crypto} {arrival : Arrival Token} {named : String} {token : Token}
  {update : Option SessionInfo → Option SessionInfo}

theorem Acts.changesOwnOnly_iff (acts : Acts crypto arrival named token update)
    (service : ControlService) :
    ChangesOwnOnly crypto service arrival ↔
      ∀ claims, service.auth.verifyToken crypto arrival.moment.unixTime token = some claims →
        update (service.sessions.getClone named) ≠ service.sessions.getClone named →
        claims.sid = named := by
  unfold ChangesOwnOnly
  constructor
  · intro ownOnly claims verified moved
    obtain ⟨sessions, nextEq, _, entries⟩ := acts.accepted service claims verified
    obtain ⟨found, foundVerified, own⟩ := ownOnly token acts.presents named (by
      rw [nextEq, entries, if_pos rfl]
      exact moved)
    rw [foundVerified] at verified
    rw [← Option.some.inj verified]
    exact own
  · intro namesOwn other presented uuid changed
    rw [acts.presents] at presented
    cases presented
    cases verified : service.auth.verifyToken crypto arrival.moment.unixTime token with
    | none =>
        rw [acts.rejected service verified] at changed
        exact absurd rfl changed
    | some claims =>
        refine ⟨claims, rfl, ?_⟩
        obtain ⟨sessions, nextEq, _, entries⟩ := acts.accepted service claims verified
        rw [nextEq, entries] at changed
        by_cases isNamed : uuid = named
        · rw [if_pos isNamed, isNamed] at changed
          rw [isNamed]
          exact namesOwn claims verified changed
        · rw [if_neg isNamed] at changed
          exact absurd rfl changed

variable (crypto)

theorem heartbeat_moves_iff (entry : Option SessionInfo) (now : Instant) :
    entry.map (fun info => { info with lastHeartbeat := now }) ≠ entry ↔
      ∃ info, entry = some info ∧ info.lastHeartbeat ≠ now := by
  cases entry with
  | none => simp
  | some info =>
      rw [Option.map_some]
      constructor
      · intro moved
        refine ⟨info, rfl, ?_⟩
        intro still
        apply moved
        rw [← still]
      · rintro ⟨other, same, moved⟩ unmoved
        cases same
        exact moved (congrArg SessionInfo.lastHeartbeat (Option.some.inj unmoved)).symm

theorem changesOwnOnly_iff_namesOwnSession (service : ControlService)
    (arrival : Arrival Token) :
    ChangesOwnOnly crypto service arrival ↔ NamesOwnSession crypto service arrival := by
  obtain ⟨moment, request⟩ := arrival
  cases request with
  | authenticate username password =>
      refine ⟨fun _ => trivial, ?_⟩
      intro _ token impossible
      cases impossible
  | heartbeat named token =>
      rw [(acts_heartbeat crypto moment named token).changesOwnOnly_iff service]
      unfold NamesOwnSession
      constructor
      · intro own claims info verified live moved
        exact own claims verified ((heartbeat_moves_iff _ _).mpr ⟨info, live, moved⟩)
      · intro own claims verified moves
        obtain ⟨info, live, moved⟩ := (heartbeat_moves_iff _ _).mp moves
        exact own claims info verified live moved
  | terminate named token =>
      rw [(acts_terminate crypto moment named token).changesOwnOnly_iff service]
      unfold NamesOwnSession
      constructor
      · intro own claims info verified live
        apply own claims verified
        rw [live]
        exact Option.some_ne_none info |>.symm
      · intro own claims verified moves
        obtain ⟨info, live⟩ := Option.ne_none_iff_exists'.mp (fun absent => moves absent.symm)
        exact own claims info verified live

/-! ### Whole histories -/

structure Agree (secret : List UInt8) (uuid : String) (left right : ControlService) : Prop where
  secret : left.auth.jwtSecret = secret
  auth : left.auth = right.auth
  policies : left.policies = right.policies
  nextId : left.sessions.nextId = right.sessions.nextId
  entry : left.sessions.getClone uuid = right.sessions.getClone uuid

variable {crypto} {secret : List UInt8} {uuid : String} {left right : ControlService}

theorem Agree.authenticate (agree : Agree secret uuid left right) (moment : Moment)
    (username password : String) :
    Agree secret uuid (left.authenticate crypto moment username password).1
      (right.authenticate crypto moment username password).1 := by
  obtain ⟨leftAuth, leftSessions, leftPolicies⟩ := left
  obtain ⟨rightAuth, rightSessions, rightPolicies⟩ := right
  obtain ⟨sameSecret, sameAuth, samePolicies, sameNextId, sameEntry⟩ := agree
  dsimp only at sameSecret sameAuth samePolicies sameNextId sameEntry
  subst sameAuth samePolicies
  have sameInfo : ∀ maxBps, (leftSessions.create moment.draw moment.now username maxBps).1 =
      (rightSessions.create moment.draw moment.now username maxBps).1 := by
    intro maxBps
    unfold SessionManager.create
    rw [sameNextId]
  have created : ∀ maxBps,
      (leftSessions.create moment.draw moment.now username maxBps).2.getClone uuid =
        (rightSessions.create moment.draw moment.now username maxBps).2.getClone uuid := by
    intro maxBps
    rw [SessionManager.getClone_create, SessionManager.getClone_create, sameInfo, sameEntry]
  have counted : ∀ maxBps,
      (leftSessions.create moment.draw moment.now username maxBps).2.nextId =
        (rightSessions.create moment.draw moment.now username maxBps).2.nextId := by
    intro maxBps
    exact congrArg (· + 1) sameNextId
  unfold ControlService.authenticate AuthEngine.issueToken
  cases leftAuth.authenticate crypto username password with
  | false => exact ⟨sameSecret, rfl, rfl, sameNextId, sameEntry⟩
  | true =>
      cases moment.unixTime with
      | none => exact ⟨sameSecret, rfl, rfl, counted _, created _⟩
      | some now => exact ⟨sameSecret, rfl, rfl, counted _, created _⟩

theorem Agree.acts (acts : Acts crypto arrival named token update)
    (agree : Agree secret uuid left right) :
    Agree secret uuid (left.next crypto arrival) (right.next crypto arrival) := by
  have sameVerdict := congrArg
    (fun auth => AuthEngine.verifyToken crypto auth arrival.moment.unixTime token) agree.auth
  cases verified : left.auth.verifyToken crypto arrival.moment.unixTime token with
  | none =>
      rw [acts.rejected left verified, acts.rejected right (sameVerdict ▸ verified)]
      exact agree
  | some claims =>
      obtain ⟨leftSessions, leftEq, leftId, leftEntries⟩ := acts.accepted left claims verified
      obtain ⟨rightSessions, rightEq, rightId, rightEntries⟩ :=
        acts.accepted right claims (sameVerdict ▸ verified)
      rw [leftEq, rightEq]
      refine ⟨agree.secret, agree.auth, agree.policies, ?_, ?_⟩
      · exact leftId.trans (agree.nextId.trans rightId.symm)
      · dsimp only
        rw [leftEntries, rightEntries, agree.entry]

theorem Agree.next (agree : Agree secret uuid left right) (arrival : Arrival Token) :
    Agree secret uuid (left.next crypto arrival) (right.next crypto arrival) := by
  obtain ⟨moment, request⟩ := arrival
  cases request with
  | authenticate username password => exact agree.authenticate moment username password
  | heartbeat named token => exact agree.acts (acts_heartbeat crypto moment named token)
  | terminate named token => exact agree.acts (acts_terminate crypto moment named token)

/-- A request with a token leaves all but the entries of the table. -/
theorem Acts.agree_of_entry (acts : Acts crypto arrival named token update)
    (agree : Agree secret uuid left right)
    (unchanged : (left.next crypto arrival).sessions.getClone uuid =
      left.sessions.getClone uuid) :
    Agree secret uuid (left.next crypto arrival) right := by
  cases verified : left.auth.verifyToken crypto arrival.moment.unixTime token with
  | none =>
      rw [acts.rejected left verified]
      exact agree
  | some claims =>
      obtain ⟨sessions, nextEq, sameId, _⟩ := acts.accepted left claims verified
      have sameEntry := unchanged.trans agree.entry
      rw [nextEq] at sameEntry ⊢
      exact ⟨agree.secret, agree.auth, agree.policies, sameId.trans agree.nextId, sameEntry⟩

theorem Agree.removed (agree : Agree secret uuid left right)
    (foreign : concerns crypto secret uuid arrival = false)
    (ownOnly : ChangesOwnOnly crypto left arrival) :
    Agree secret uuid (left.next crypto arrival) right := by
  have unchanged : (left.next crypto arrival).sessions.getClone uuid =
      left.sessions.getClone uuid := by
    by_contra changed
    unfold concerns at foreign
    cases presented : arrival.request.presented with
    | none =>
        rw [presented] at foreign
        cases foreign
    | some token =>
        obtain ⟨claims, verified, own⟩ := ownOnly token presented uuid changed
        have encoded := ((AuthEngine.verifyToken_eq_some_iff crypto _ _ _ _).mp verified).2.1
        rw [agree.secret] at encoded
        rw [presented] at foreign
        dsimp only at foreign
        rw [(crypto.decode_eq_some_iff secret token claims).mpr encoded] at foreign
        exact absurd own (of_decide_eq_false foreign)
  obtain ⟨moment, request⟩ := arrival
  cases request with
  | authenticate username password => cases foreign
  | heartbeat named token =>
      exact (acts_heartbeat crypto moment named token).agree_of_entry agree unchanged
  | terminate named token =>
      exact (acts_terminate crypto moment named token).agree_of_entry agree unchanged

/-- Sessions are isolated exactly in the histories whose verified requests are
each on the session of their token. -/
theorem isolated_iff (crypto : Crypto Token) (service : ControlService)
    (history : List (Arrival Token)) :
    Isolated crypto service history ↔
      EachStep (next crypto) (NamesOwnSession crypto) service history := by
  have stepwise : EachStep (next crypto) (ChangesOwnOnly crypto) service history ↔
      EachStep (next crypto) (NamesOwnSession crypto) service history :=
    eachStep_congr (changesOwnOnly_iff_namesOwnSession crypto) service history
  constructor
  · intro isolated
    exact stepwise.mp isolated.1
  · intro namesOwn
    have ownOnly := stepwise.mpr namesOwn
    refine ⟨ownOnly, ?_⟩
    intro uuid
    have agree : Agree service.auth.jwtSecret uuid service service :=
      ⟨rfl, rfl, rfl, rfl, rfl⟩
    exact (related_foldl_filter (fun _ _ arrival _ related => related.next arrival)
      (fun _ _ _ foreign own related => related.removed foreign own) service service agree
      history ownOnly).entry

/-! ### Two users -/

/-- Tokens that are their claims, and a key derivation that counts letters. -/
def plainCrypto : Crypto Claims where
  pbkdf2 := fun password _ => Vector.replicate 32 (UInt8.ofNat password.length)
  encode := fun _ claims => claims
  decode := fun _ token => some token
  verify := fun _ issued now token =>
    if token ∈ issued ∧ now ≤ token.exp then some token else none
  decode_eq_some_iff := by
    intro _ token claims
    exact ⟨fun same => (Option.some.inj same).symm, fun same => congrArg some same.symm⟩
  unforgeable := by
    intro _ issued now token claims verified
    split at verified
    · rename_i both
      cases verified
      exact ⟨both.1, rfl⟩
    · cases verified
  expires := by
    intro _ issued now token claims verified
    split at verified
    · rename_i both
      cases verified
      exact both.2
    · cases verified
  accepts := by
    intro _ issued now claims wasIssued unexpired
    exact if_pos ⟨wasIssued, unexpired⟩

def twoUsers : ControlService :=
  { auth := ((AuthEngine.new [] 3600).addUser plainCrypto (Vector.replicate 32 0) "alice"
      "s3cr3t").addUser plainCrypto (Vector.replicate 32 0) "bob" "hunter2"
    sessions := .new 60000000000
    policies := { defaultMaxBps := 100000000, perUser := ∅ } }

def drawing (uuid : String) : Moment :=
  { now := 0
    unixTime := some 1000
    draw := { keyBytes := Vector.replicate 32 0
              nonceBytes := Vector.replicate 12 0
              sessionUuid := uuid } }

/-- Alice and Bob log in, and Bob's token ends Alice's session. -/
def crossTermination : List (Arrival Claims) :=
  [⟨drawing "session-a", .authenticate "alice" "s3cr3t"⟩,
   ⟨drawing "session-b", .authenticate "bob" "hunter2"⟩,
   ⟨drawing "", .terminate "session-a" { sub := "bob", sid := "session-b", exp := 4600 }⟩]

theorem crossTermination_not_isolated : ¬ Isolated plainCrypto twoUsers crossTermination := by
  intro isolated
  have kept := isolated.2 "session-a"
  revert kept
  decide +kernel

end ControlService

end Udpix.ControlPlane

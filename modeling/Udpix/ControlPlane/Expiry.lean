/-
Heartbeats after the time to live.

`reap_expired` removes the sessions whose last heartbeat is too long ago, but
the server never calls it and a heartbeat does not look at the time to live.
So a run of the server is the requests alone, and a session that has outlived
its TTL is revived by the next heartbeat on it.
-/

import Udpix.ControlPlane.Isolation
import Mathlib.Data.List.Induction

namespace Udpix.ControlPlane

open Protocol Unwinding

variable {Token : Type} (crypto : Crypto Token)

namespace ControlService

def start (auth : AuthEngine) (policies : PolicyEngine) (sessionTtl : Nat) : ControlService :=
  { auth := auth, sessions := .new sessionTtl, policies := policies }

/-- The session that a request creates, also when no token can be issued for it,
or on which it is a successful heartbeat. -/
def contacted (service : ControlService) (arrival : Arrival Token) : Option String :=
  match arrival.request with
  | .authenticate username password =>
      if service.auth.authenticate crypto username password then
        some arrival.moment.draw.sessionUuid
      else none
  | .heartbeat sessionId _ =>
      match (service.handle crypto arrival).2 with
      | .ok (.heartbeat true) => some sessionId
      | _ => none
  | .terminate _ _ => none

/-- The service beside the time at which each session was created or had its
last successful heartbeat, whichever came later. -/
structure Observed where
  service : ControlService
  lastContact : String → Option Instant

def observe (state : Observed) (arrival : Arrival Token) : Observed where
  service := state.service.next crypto arrival
  lastContact := fun uuid =>
    if state.service.contacted crypto arrival = some uuid then some arrival.moment.now
    else state.lastContact uuid

def RevivesInTime (state : Observed) (arrival : Arrival Token) : Prop :=
  ∀ sessionId token, arrival.request = .heartbeat sessionId token →
    (state.service.handle crypto arrival).2 = .ok (.heartbeat true) →
    ∃ contact, state.lastContact sessionId = some contact ∧
      arrival.moment.now.elapsed contact < state.service.sessions.sessionTtl

/-- A reaping pass would leave the session of a heartbeat with a good token as
it is. -/
def NothingToReap (service : ControlService) (arrival : Arrival Token) : Prop :=
  ∀ sessionId token, arrival.request = .heartbeat sessionId token →
    service.auth.verifyToken crypto arrival.moment.unixTime token ≠ none →
    (service.sessions.reapExpired arrival.moment.now).2.getClone sessionId =
      service.sessions.getClone sessionId

/-! ### One request -/

/-- The table has the time of the last contact of each of its sessions. -/
def Recorded (state : Observed) : Prop :=
  ∀ uuid info, state.service.sessions.getClone uuid = some info →
    state.lastContact uuid = some info.lastHeartbeat

theorem handle_heartbeat_eq_true_iff (service : ControlService) (moment : Moment)
    (sessionId : String) (token : Token) :
    (service.handle crypto ⟨moment, .heartbeat sessionId token⟩).2 = .ok (.heartbeat true) ↔
      service.auth.verifyToken crypto moment.unixTime token ≠ none ∧
        service.sessions.getClone sessionId ≠ none := by
  simp only [handle, heartbeat]
  cases verified : service.auth.verifyToken crypto moment.unixTime token with
  | none => simp
  | some claims =>
      rw [SessionManager.heartbeat, SessionManager.getClone]
      cases found : service.sessions.sessions.lookup sessionId with
      | none => simp
      | some info => simp

theorem contacted_authenticate (service : ControlService) (moment : Moment)
    (username password uuid : String) :
    service.contacted crypto ⟨moment, .authenticate username password⟩ = some uuid ↔
      service.auth.authenticate crypto username password = true ∧
        uuid = moment.draw.sessionUuid := by
  simp only [contacted]
  cases service.auth.authenticate crypto username password with
  | false => simp
  | true => simp [eq_comm]

theorem contacted_heartbeat (service : ControlService) (moment : Moment) (sessionId : String)
    (token : Token) (uuid : String) :
    service.contacted crypto ⟨moment, .heartbeat sessionId token⟩ = some uuid ↔
      sessionId = uuid ∧
        (service.handle crypto ⟨moment, .heartbeat sessionId token⟩).2 = .ok (.heartbeat true) := by
  simp only [contacted]
  split
  · rename_i answer
    rw [answer]
    simp
  · rename_i other
    constructor
    · intro impossible
      cases impossible
    · rintro ⟨_, answer⟩
      exact absurd answer other

theorem getClone_next_authenticate (service : ControlService) (moment : Moment)
    (username password uuid : String) :
    (service.next crypto ⟨moment, .authenticate username password⟩).sessions.getClone uuid =
      if service.auth.authenticate crypto username password = true ∧
          uuid = moment.draw.sessionUuid then
        some (service.sessions.create moment.draw moment.now username
          (service.policies.resolve username)).1
      else service.sessions.getClone uuid := by
  have created := service.sessions.getClone_create moment.draw moment.now username
    (service.policies.resolve username) uuid
  simp only [next, handle, authenticate, AuthEngine.issueToken]
  cases service.auth.authenticate crypto username password with
  | false => simp only [Bool.false_eq_true, false_and, if_false]
  | true =>
      simp only [true_and]
      cases moment.unixTime with
      | none => exact created
      | some now => exact created

theorem Acts.getClone_next {crypto : Crypto Token} {arrival : Arrival Token} {named : String}
    {token : Token} {update : Option SessionInfo → Option SessionInfo}
    (acts : Acts crypto arrival named token update) (service : ControlService) (uuid : String) :
    (service.next crypto arrival).sessions.getClone uuid =
      if service.auth.verifyToken crypto arrival.moment.unixTime token ≠ none ∧ uuid = named then
        update (service.sessions.getClone uuid)
      else service.sessions.getClone uuid := by
  cases verified : service.auth.verifyToken crypto arrival.moment.unixTime token with
  | none =>
      rw [acts.rejected service verified, if_neg (fun both => both.1 rfl)]
  | some claims =>
      obtain ⟨sessions, nextEq, _, entries⟩ := acts.accepted service claims verified
      rw [nextEq, entries]
      exact if_congr (by simp) rfl rfl

/-! ### Whole runs -/

theorem lastContact_of_contacted {state : Observed} {arrival : Arrival Token} {uuid : String}
    (contact : state.service.contacted crypto arrival = some uuid) :
    (observe crypto state arrival).lastContact uuid = some arrival.moment.now :=
  if_pos contact

/-- A session that was not contacted and keeps its entry stays recorded. -/
theorem Recorded.of_kept {state : Observed} (recorded : Recorded state)
    {arrival : Arrival Token} {uuid : String} {info : SessionInfo}
    (kept : state.service.sessions.getClone uuid = some info)
    (notContacted : ¬ state.service.contacted crypto arrival = some uuid) :
    (observe crypto state arrival).lastContact uuid = some info.lastHeartbeat := by
  rw [← recorded uuid info kept]
  exact if_neg notContacted

theorem recorded_observe {state : Observed} (recorded : Recorded state)
    (arrival : Arrival Token) : Recorded (observe crypto state arrival) := by
  obtain ⟨moment, request⟩ := arrival
  intro uuid info found
  rw [observe] at found
  dsimp only at found
  cases request with
  | authenticate username password =>
      have contact := contacted_authenticate crypto state.service moment username password uuid
      rw [getClone_next_authenticate] at found
      split at found
      · rename_i created
        rw [lastContact_of_contacted crypto (contact.mpr created), ← Option.some.inj found]
        rfl
      · rename_i created
        exact recorded.of_kept crypto found (fun isContact => created (contact.mp isContact))
  | heartbeat sessionId token =>
      have contact := contacted_heartbeat crypto state.service moment sessionId token uuid
      have succeeds := handle_heartbeat_eq_true_iff crypto state.service moment sessionId token
      rw [(acts_heartbeat crypto moment sessionId token).getClone_next] at found
      split at found
      · rename_i named
        obtain ⟨old, present, rfl⟩ := Option.map_eq_some_iff.mp found
        have live : state.service.sessions.getClone sessionId ≠ none := by
          rw [← named.2, present]
          exact Option.some_ne_none old
        exact lastContact_of_contacted crypto
          (contact.mpr ⟨named.2.symm, succeeds.mpr ⟨named.1, live⟩⟩)
      · rename_i named
        apply recorded.of_kept crypto found
        intro isContact
        obtain ⟨same, answer⟩ := contact.mp isContact
        exact named ⟨(succeeds.mp answer).1, same.symm⟩
  | terminate sessionId token =>
      rw [(acts_terminate crypto moment sessionId token).getClone_next] at found
      split at found
      · cases found
      · exact recorded.of_kept crypto found (Option.some_ne_none uuid).symm

/-- A reaping pass leaves a session exactly when its last heartbeat is recent. -/
theorem getClone_reapExpired_eq_iff (sessions : SessionManager) (now : Instant) {uuid : String}
    {info : SessionInfo} (present : sessions.getClone uuid = some info) :
    (sessions.reapExpired now).2.getClone uuid = sessions.getClone uuid ↔
      now.elapsed info.lastHeartbeat < sessions.sessionTtl := by
  rw [SessionManager.getClone_reapExpired, present, Option.filter_some, SessionManager.alive]
  simp

theorem revivesInTime_iff {state : Observed} (recorded : Recorded state)
    (arrival : Arrival Token) :
    RevivesInTime crypto state arrival ↔ NothingToReap crypto state.service arrival := by
  obtain ⟨moment, request⟩ := arrival
  constructor
  · intro inTime sessionId token isHeartbeat verified
    dsimp only at isHeartbeat
    subst isHeartbeat
    cases found : state.service.sessions.getClone sessionId with
    | none => rw [SessionManager.getClone_reapExpired, found, Option.filter_none]
    | some info =>
        have live : state.service.sessions.getClone sessionId ≠ none := by
          rw [found]
          exact Option.some_ne_none info
        obtain ⟨contact, isContact, recent⟩ := inTime sessionId token rfl
          ((handle_heartbeat_eq_true_iff crypto _ _ _ _).mpr ⟨verified, live⟩)
        rw [recorded sessionId info found] at isContact
        rw [← found, getClone_reapExpired_eq_iff _ _ found, Option.some.inj isContact]
        exact recent
  · intro nothing sessionId token isHeartbeat answer
    dsimp only at isHeartbeat
    subst isHeartbeat
    obtain ⟨verified, live⟩ := (handle_heartbeat_eq_true_iff crypto _ _ _ _).mp answer
    obtain ⟨info, found⟩ := Option.ne_none_iff_exists'.mp live
    exact ⟨info.lastHeartbeat, recorded sessionId info found,
      (getClone_reapExpired_eq_iff _ _ found).mp (nothing sessionId token rfl verified)⟩

/-- In a run of the server no heartbeat revives a session that has outlived its
TTL exactly when a reaping pass before each heartbeat with a good token would
leave the session of the heartbeat as it is. -/
theorem revivesInTime_run_iff (auth : AuthEngine) (policies : PolicyEngine) (sessionTtl : Nat)
    (history : List (Arrival Token)) :
    EachStep (observe crypto) (RevivesInTime crypto)
        { service := start auth policies sessionTtl, lastContact := fun _ => none } history ↔
      EachStep (next crypto) (NothingToReap crypto) (start auth policies sessionTtl) history := by
  have initially : Recorded
      { service := start auth policies sessionTtl, lastContact := fun _ => none } := by
    intro uuid info found
    cases found
  have stepwise := eachStep_congr_of_invariant Recorded
    (fun _ arrival recorded => recorded_observe crypto recorded arrival)
    (fun _ arrival recorded => revivesInTime_iff crypto recorded arrival) initially history
  exact stepwise.trans (eachStep_map (fun _ _ => rfl) _ history)

/-! ### One user -/

/-- A login, and a heartbeat of the same user after the five minutes to live. -/
def lateHeartbeat : List (Arrival Claims) :=
  [⟨drawing "8c1f0f5e-3d0a-4a53-9d7b-0f6a5b1c2d3e", .authenticate "alice" "s3cr3t"⟩,
   ⟨{ drawing "" with now := 300000000000, unixTime := some 1300 },
     .heartbeat "8c1f0f5e-3d0a-4a53-9d7b-0f6a5b1c2d3e"
       { sub := "alice", sid := "8c1f0f5e-3d0a-4a53-9d7b-0f6a5b1c2d3e", exp := 4600 }⟩]

/-- The server of two users, with sessions that live five minutes. -/
def fiveMinutes : ControlService := start twoUsers.auth twoUsers.policies 300000000000

theorem lateHeartbeat_revives :
    ¬ EachStep (observe plainCrypto) (RevivesInTime plainCrypto)
      { service := fiveMinutes, lastContact := fun _ => none } lateHeartbeat := by
  rintro ⟨_, inTime, _⟩
  obtain ⟨contact, isContact, recent⟩ := inTime _ _ rfl
    ((handle_heartbeat_eq_true_iff plainCrypto _ _ _ _).mpr (by decide +kernel))
  have atLogin : contact = 0 := by
    apply Option.some.inj
    rw [← isContact]
    decide +kernel
  rw [atLogin] at recent
  revert recent
  decide +kernel

end ControlService

end Udpix.ControlPlane

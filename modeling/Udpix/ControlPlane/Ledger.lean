/-
What the control service is for: a ledger of sessions.

The ledger only grows.  It keeps every session that was ever opened, the ids of
those that were closed, the heartbeats in their order and the claims of all
tokens.  Who may log in is decided by the last password registered for the name.
The service, with its table that is overwritten in place, answers every history
of requests as the ledger does.
-/

import Udpix.ControlPlane.Expiry
import Udpix.Library.Unwinding

namespace Udpix.ControlPlane

open Protocol Unwinding Simulation

variable {Token : Type} (crypto : Crypto Token)

/-- A user as `add_user` gets it, with the salt drawn for it. -/
structure Account where
  salt : Digest
  username : String
  password : String

def AuthEngine.withAccounts (engine : AuthEngine) (accounts : List Account) : AuthEngine :=
  accounts.foldl (fun current account =>
    current.addUser crypto account.salt account.username account.password) engine

def accountOf (accounts : List Account) (username : String) : Option Account :=
  accounts.reverse.find? fun account => account.username = username

def Admits (accounts : List Account) (username password : String) : Prop :=
  ∃ account, accountOf accounts username = some account ∧
    crypto.pbkdf2 password account.salt = crypto.pbkdf2 account.password account.salt

noncomputable instance (accounts : List Account) (username password : String) :
    Decidable (Admits crypto accounts username password) := Classical.propDecidable _

/-! ### The two digests -/

theorem foldl_or_eq_zero_iff (pairs : List (UInt8 × UInt8)) (acc : UInt8) :
    pairs.foldl (fun acc pair => acc ||| (pair.1 ^^^ pair.2)) acc = 0 ↔
      acc = 0 ∧ ∀ pair, pair ∈ pairs → pair.1 = pair.2 := by
  induction pairs generalizing acc with
  | nil => simp
  | cons pair rest ih =>
      rw [List.foldl_cons, ih, List.forall_mem_cons]
      constructor
      · rintro ⟨both, others⟩
        obtain ⟨left, right⟩ := UInt8.or_eq_zero_iff.mp both
        exact ⟨left, UInt8.xor_eq_zero_iff.mp right, others⟩
      · rintro ⟨left, right, others⟩
        exact ⟨UInt8.or_eq_zero_iff.mpr ⟨left, UInt8.xor_eq_zero_iff.mpr right⟩, others⟩

theorem eq_of_forall_zip {first second : List UInt8} (sameLength : first.length = second.length)
    (same : ∀ pair, pair ∈ first.zip second → pair.1 = pair.2) : first = second := by
  induction first generalizing second with
  | nil => exact (List.length_eq_zero_iff.mp sameLength.symm).symm
  | cons head tail ih =>
      cases second with
      | nil => cases sameLength
      | cons other rest =>
          have heads : head = other := same (head, other) List.mem_cons_self
          have tails := ih (Nat.succ.inj sameLength)
            (fun pair member => same pair (List.mem_cons_of_mem _ member))
          rw [heads, tails]

theorem difference_eq_zero_iff (candidate hash : Digest) :
    AuthEngine.difference candidate hash = 0 ↔ candidate = hash := by
  rw [AuthEngine.difference, foldl_or_eq_zero_iff]
  constructor
  · rintro ⟨_, same⟩
    have lists := eq_of_forall_zip
      (by rw [Vector.length_toList, Vector.length_toList]) same
    exact Vector.toList_inj.mp lists
  · rintro rfl
    refine ⟨rfl, ?_⟩
    intro pair member
    rw [List.zip_eq_zipWith, List.zipWith_self] at member
    obtain ⟨byte, _, rfl⟩ := List.mem_map.mp member
    rfl

/-! ### Who may log in -/

theorem accountOf_concat (accounts : List Account) (account : Account) (username : String) :
    accountOf (accounts ++ [account]) username =
      if account.username = username then some account else accountOf accounts username := by
  rw [accountOf, List.reverse_append, List.reverse_singleton, List.singleton_append,
    List.find?_cons]
  split
  · rename_i same
    rw [if_pos (of_decide_eq_true same)]
  · rename_i other
    rw [if_neg (of_decide_eq_false other), accountOf]

theorem lookup_withAccounts (engine : AuthEngine) (accounts : List Account) (username : String) :
    (engine.withAccounts crypto accounts).users.lookup username =
      ((accountOf accounts username).map fun account =>
        { hash := crypto.pbkdf2 account.password account.salt, salt := account.salt }).or
          (engine.users.lookup username) := by
  induction accounts using List.reverseRecOn with
  | nil => rfl
  | append_singleton accounts account ih =>
      have last : engine.withAccounts crypto (accounts ++ [account]) =
          (engine.withAccounts crypto accounts).addUser crypto account.salt account.username
            account.password := List.foldl_concat _ _ _ _
      rw [last, AuthEngine.addUser, accountOf_concat]
      split
      · rename_i same
        rw [same, AList.lookup_insert, Option.map_some, Option.some_or]
      · rename_i other
        rw [AList.lookup_insert_ne (Ne.symm other), ih]

/-- A login succeeds with the last password registered for the name, or with one
that derives to the same digest, and for no other name. -/
theorem authenticate_iff_admits {engine : AuthEngine} {accounts : List Account}
    {jwtSecret : List UInt8} {tokenTtlSecs : Nat}
    (users : engine.users =
      ((AuthEngine.new jwtSecret tokenTtlSecs).withAccounts crypto accounts).users)
    (username password : String) :
    engine.authenticate crypto username password = true ↔
      Admits crypto accounts username password := by
  have empty : (AuthEngine.new jwtSecret tokenTtlSecs).users.lookup username = none := rfl
  rw [AuthEngine.authenticate, users, lookup_withAccounts, empty, Option.or_none, Admits]
  cases accountOf accounts username with
  | none =>
      constructor
      · intro impossible
        cases impossible
      · rintro ⟨account, impossible, _⟩
        cases impossible
  | some account =>
      rw [Option.map_some]
      dsimp only
      rw [decide_eq_true_iff, difference_eq_zero_iff]
      constructor
      · intro same
        exact ⟨account, rfl, same⟩
      · rintro ⟨other, isAccount, same⟩
        cases isAccount
        exact same

/-! ### The ledger -/

/-- What the operator of the server decides. -/
structure Rules where
  accounts : List Account
  policies : PolicyEngine
  jwtSecret : List UInt8
  tokenTtlSecs : Nat

structure Ledger where
  opened : List SessionInfo
  closed : List String
  beats : List (String × Instant)
  issued : List Claims

namespace Ledger

def empty : Ledger := { opened := [], closed := [], beats := [], issued := [] }

def ids (ledger : Ledger) : List String := ledger.opened.map SessionInfo.sessionUuid

def Live (ledger : Ledger) (uuid : String) : Prop := uuid ∈ ledger.ids ∧ uuid ∉ ledger.closed

instance (ledger : Ledger) (uuid : String) : Decidable (ledger.Live uuid) :=
  inferInstanceAs (Decidable (_ ∧ _))

def Good (rules : Rules) (ledger : Ledger) (unixTime : Option Nat) (token : Token) : Prop :=
  ∃ claims, claims ∈ ledger.issued ∧ crypto.encode rules.jwtSecret claims = token ∧
    ∃ now, unixTime = some now ∧ now ≤ claims.exp

noncomputable instance (rules : Rules) (ledger : Ledger) (unixTime : Option Nat) (token : Token) :
    Decidable (Good crypto rules ledger unixTime token) := Classical.propDecidable _

/-- The session that a login opens.  Its number is its place in the ledger. -/
def newSession (rules : Rules) (ledger : Ledger) (moment : Moment) (username : String) :
    SessionInfo :=
  { sessionUuid := moment.draw.sessionUuid
    numericId := UInt32.ofNat (1 + ledger.opened.length)
    username := username
    sessionKey := moment.draw.keyBytes
    sessionNonce := moment.draw.nonceBytes
    maxBps := rules.policies.resolve username
    createdAt := moment.now
    lastHeartbeat := moment.now }

noncomputable def handle (rules : Rules) (ledger : Ledger) (arrival : Arrival Token) :
    Ledger × Except Status (Response Token) :=
  match arrival.request with
  | .authenticate username password =>
      if Admits crypto rules.accounts username password then
        let session := newSession rules ledger arrival.moment username
        let opened := { ledger with opened := ledger.opened ++ [session] }
        match arrival.moment.unixTime with
        | none => (opened, .error { code := .internal, message := "system clock error" })
        | some now =>
            let claims :=
              { sub := username
                sid := session.sessionUuid
                exp := min (now + rules.tokenTtlSecs) (2 ^ 64 - 1) }
            ({ opened with issued := ledger.issued ++ [claims] },
              .ok (.authenticate
                { sessionId := session.sessionUuid
                  jwtToken := crypto.encode rules.jwtSecret claims
                  sessionKey := session.sessionKey.toList
                  sessionNonce := session.sessionNonce.toList
                  maxBps := session.maxBps }))
      else (ledger, .error { code := .unauthenticated, message := "invalid credentials" })
  | .heartbeat sessionId jwtToken =>
      if Good crypto rules ledger arrival.moment.unixTime jwtToken then
        if ledger.Live sessionId then
          ({ ledger with beats := ledger.beats ++ [(sessionId, arrival.moment.now)] },
            .ok (.heartbeat true))
        else (ledger, .ok (.heartbeat false))
      else (ledger, .error { code := .unauthenticated, message := "invalid token" })
  | .terminate sessionId jwtToken =>
      if Good crypto rules ledger arrival.moment.unixTime jwtToken then
        if ledger.Live sessionId then
          ({ ledger with closed := ledger.closed ++ [sessionId] }, .ok (.terminate true))
        else (ledger, .ok (.terminate false))
      else (ledger, .error { code := .unauthenticated, message := "invalid token" })

def lastSeen (ledger : Ledger) (info : SessionInfo) : Instant :=
  match ledger.beats.reverse.find? fun beat => beat.1 = info.sessionUuid with
  | some beat => beat.2
  | none => info.createdAt

def record (ledger : Ledger) (uuid : String) : Option SessionInfo :=
  if uuid ∈ ledger.closed then none
  else (ledger.opened.find? fun info => info.sessionUuid = uuid).map fun info =>
    { info with lastHeartbeat := ledger.lastSeen info }

/-! ### What the ledger records -/

/-- Only sessions that were opened are closed or have heartbeats. -/
structure Sound (ledger : Ledger) : Prop where
  closed : ∀ uuid, uuid ∈ ledger.closed → uuid ∈ ledger.ids
  beats : ∀ beat, beat ∈ ledger.beats → beat.1 ∈ ledger.ids

theorem find?_eq_none_iff (ledger : Ledger) (uuid : String) :
    (ledger.opened.find? fun info => info.sessionUuid = uuid) = none ↔ uuid ∉ ledger.ids := by
  rw [List.find?_eq_none, ids, List.mem_map]
  constructor
  · rintro none ⟨info, member, same⟩
    exact none info member (decide_eq_true same)
  · intro absent info member same
    exact absent ⟨info, member, of_decide_eq_true same⟩

theorem record_isSome_iff (ledger : Ledger) (uuid : String) :
    (ledger.record uuid).isSome = true ↔ ledger.Live uuid := by
  rw [record, Live]
  split
  · rename_i closed
    exact ⟨fun impossible => (nomatch impossible), fun live => absurd closed live.2⟩
  · rename_i unclosed
    rw [Option.isSome_map, ← Option.ne_none_iff_isSome, Ne, find?_eq_none_iff, not_not]
    exact ⟨fun opened => ⟨opened, unclosed⟩, And.left⟩

theorem record_eq_none {ledger : Ledger} {uuid : String} (dead : ¬ ledger.Live uuid) :
    ledger.record uuid = none := by
  cases found : ledger.record uuid with
  | none => rfl
  | some info =>
      exact absurd ((ledger.record_isSome_iff uuid).mp (by rw [found]; rfl)) dead

theorem lastSeen_of_no_beat {ledger : Ledger} (sound : ledger.Sound) {info : SessionInfo}
    (fresh : info.sessionUuid ∉ ledger.ids) : ledger.lastSeen info = info.createdAt := by
  have silent : (ledger.beats.reverse.find? fun beat => beat.1 = info.sessionUuid) = none := by
    rw [List.find?_eq_none]
    intro beat member same
    rw [← of_decide_eq_true same] at fresh
    exact fresh (sound.beats beat (List.mem_reverse.mp member))
  rw [lastSeen, silent]

theorem record_open {ledger : Ledger} (sound : ledger.Sound) (info : SessionInfo)
    (fresh : info.sessionUuid ∉ ledger.ids) (justCreated : info.lastHeartbeat = info.createdAt)
    (issued : List Claims) (uuid : String) :
    record { ledger with opened := ledger.opened ++ [info], issued := issued } uuid =
      if uuid = info.sessionUuid then some info else ledger.record uuid := by
  have seen : ∀ other, lastSeen { ledger with
      opened := ledger.opened ++ [info], issued := issued } other = ledger.lastSeen other :=
    fun _ => rfl
  rw [record]
  simp only [seen]
  rw [List.find?_append]
  by_cases same : uuid = info.sessionUuid
  · have unclosed : uuid ∉ ledger.closed := by
      intro closed
      exact fresh (same ▸ sound.closed uuid closed)
    have first : (ledger.opened.find? fun info => info.sessionUuid = uuid) = none := by
      rw [find?_eq_none_iff, same]
      exact fresh
    have second : ([info].find? fun info => info.sessionUuid = uuid) = some info := by
      simp [same]
    rw [if_neg unclosed, if_pos same, first, Option.none_or, second, Option.map_some,
      lastSeen_of_no_beat sound fresh]
    cases info
    cases justCreated
    rfl
  · have second : ([info].find? fun info => info.sessionUuid = uuid) = none := by
      simp [Ne.symm same]
    rw [if_neg same, second, Option.or_none, record]

theorem lastSeen_beat (ledger : Ledger) (sessionId : String) (now : Instant)
    (info : SessionInfo) :
    lastSeen { ledger with beats := ledger.beats ++ [(sessionId, now)] } info =
      if sessionId = info.sessionUuid then now else ledger.lastSeen info := by
  rw [lastSeen, List.reverse_append, List.reverse_singleton, List.singleton_append,
    List.find?_cons]
  split
  · rename_i found
    split at found
    · rename_i same
      cases found
      rw [if_pos (of_decide_eq_true same)]
    · rename_i other
      rw [if_neg (of_decide_eq_false other), lastSeen, found]
  · rename_i found
    split at found
    · cases found
    · rename_i other
      rw [if_neg (of_decide_eq_false other), lastSeen, found]

theorem record_beat (ledger : Ledger) (sessionId : String) (now : Instant) (uuid : String) :
    record { ledger with beats := ledger.beats ++ [(sessionId, now)] } uuid =
      if uuid = sessionId then
        (ledger.record uuid).map (fun info => { info with lastHeartbeat := now })
      else ledger.record uuid := by
  rw [record, record]
  simp only [lastSeen_beat]
  split
  · split
    · rfl
    · rfl
  · cases found : ledger.opened.find? fun info => info.sessionUuid = uuid with
    | none =>
        split
        · rfl
        · rfl
    | some info =>
        have isNamed := List.find?_some found
        have named := of_decide_eq_true isNamed
        rw [Option.map_some, Option.map_some, named, Option.map_some]
        by_cases same : uuid = sessionId
        · rw [if_pos same, if_pos same.symm]
        · rw [if_neg same, if_neg (Ne.symm same)]

theorem record_close (ledger : Ledger) (sessionId uuid : String) :
    record { ledger with closed := ledger.closed ++ [sessionId] } uuid =
      if uuid = sessionId then none else ledger.record uuid := by
  have seen : ∀ other, lastSeen { ledger with closed := ledger.closed ++ [sessionId] } other =
      ledger.lastSeen other := fun _ => rfl
  rw [record, record]
  simp only [seen, List.mem_append, List.mem_singleton]
  by_cases same : uuid = sessionId
  · rw [if_pos (Or.inr same), if_pos same]
  · rw [if_neg same]
    exact if_congr (or_iff_left same) rfl rfl

end Ledger

/-! ### The service keeps the ledger -/

namespace ControlService

def serving (rules : Rules) (sessionTtl : Nat) : ControlService :=
  start ((AuthEngine.new rules.jwtSecret rules.tokenTtlSecs).withAccounts crypto rules.accounts)
    rules.policies sessionTtl

/-- The service holds what the ledger records of the live sessions. -/
structure Keeps (rules : Rules) (ledger : Ledger) (service : ControlService) : Prop where
  sound : ledger.Sound
  users : service.auth.users =
    ((AuthEngine.new rules.jwtSecret rules.tokenTtlSecs).withAccounts crypto rules.accounts).users
  jwtSecret : service.auth.jwtSecret = rules.jwtSecret
  tokenTtlSecs : service.auth.tokenTtlSecs = rules.tokenTtlSecs
  issued : service.auth.issued = ledger.issued
  policies : service.policies = rules.policies
  nextId : service.sessions.nextId = UInt32.ofNat (1 + ledger.opened.length)
  table : ∀ uuid, service.sessions.getClone uuid = ledger.record uuid

theorem withAccounts_keeps (engine : AuthEngine) (accounts : List Account) :
    (engine.withAccounts crypto accounts).jwtSecret = engine.jwtSecret ∧
      (engine.withAccounts crypto accounts).tokenTtlSecs = engine.tokenTtlSecs ∧
      (engine.withAccounts crypto accounts).issued = engine.issued := by
  induction accounts generalizing engine with
  | nil => exact ⟨rfl, rfl, rfl⟩
  | cons account rest ih =>
      exact ih (engine.addUser crypto account.salt account.username account.password)

theorem keeps_serving (rules : Rules) (sessionTtl : Nat) :
    Keeps crypto rules .empty (serving crypto rules sessionTtl) := by
  obtain ⟨secret, ttl, issued⟩ := withAccounts_keeps crypto
    (AuthEngine.new rules.jwtSecret rules.tokenTtlSecs) rules.accounts
  exact
    { sound := ⟨fun _ impossible => (nomatch impossible), fun _ impossible => nomatch impossible⟩
      users := rfl
      jwtSecret := secret
      tokenTtlSecs := ttl
      issued := issued
      policies := rfl
      nextId := rfl
      table := fun _ => rfl }

variable {crypto} {rules : Rules} {ledger : Ledger} {service : ControlService}

theorem Keeps.verifyToken_ne_none_iff (keeps : Keeps crypto rules ledger service)
    (unixTime : Option Nat) (token : Token) :
    service.auth.verifyToken crypto unixTime token ≠ none ↔
      ledger.Good crypto rules unixTime token := by
  rw [Option.ne_none_iff_exists', Ledger.Good, ← keeps.jwtSecret, ← keeps.issued]
  exact exists_congr fun claims =>
    AuthEngine.verifyToken_eq_some_iff crypto service.auth unixTime token claims

theorem Keeps.isSome_getClone (keeps : Keeps crypto rules ledger service) (uuid : String) :
    (service.sessions.getClone uuid).isSome = decide (ledger.Live uuid) := by
  rw [keeps.table, Bool.eq_iff_iff, decide_eq_true_iff]
  exact ledger.record_isSome_iff uuid

theorem Keeps.of_acts (keeps : Keeps crypto rules ledger service) {arrival : Arrival Token}
    {named : String} {token : Token} {update : Option SessionInfo → Option SessionInfo}
    (acts : Acts crypto arrival named token update) {after : Ledger} (sound : after.Sound)
    (issued : after.issued = ledger.issued) (opened : after.opened = ledger.opened)
    (recorded : ∀ uuid, after.record uuid =
      if ledger.Good crypto rules arrival.moment.unixTime token ∧ uuid = named then
        update (ledger.record uuid)
      else ledger.record uuid) :
    Keeps crypto rules after (service.next crypto arrival) := by
  have table : ∀ uuid, (service.next crypto arrival).sessions.getClone uuid =
      after.record uuid := by
    intro uuid
    rw [acts.getClone_next, recorded, keeps.table]
    exact if_congr (and_congr_left' (keeps.verifyToken_ne_none_iff _ _)) rfl rfl
  cases verified : service.auth.verifyToken crypto arrival.moment.unixTime token with
  | none =>
      rw [acts.rejected service verified] at table ⊢
      exact
        { keeps with
          sound := sound
          issued := keeps.issued.trans issued.symm
          nextId := by rw [keeps.nextId, opened]
          table := table }
  | some claims =>
      obtain ⟨sessions, nextEq, nextId, _⟩ := acts.accepted service claims verified
      rw [nextEq] at table ⊢
      exact
        { sound := sound
          users := keeps.users
          jwtSecret := keeps.jwtSecret
          tokenTtlSecs := keeps.tokenTtlSecs
          issued := keeps.issued.trans issued.symm
          policies := keeps.policies
          nextId := by rw [nextId, keeps.nextId, opened]
          table := table }

theorem answer_heartbeat (service : ControlService) (moment : Moment) (sessionId : String)
    (token : Token) :
    (service.handle crypto ⟨moment, .heartbeat sessionId token⟩).2 =
      if service.auth.verifyToken crypto moment.unixTime token = none then
        .error { code := .unauthenticated, message := "invalid token" }
      else .ok (.heartbeat (service.sessions.getClone sessionId).isSome) := by
  simp only [handle, heartbeat, SessionManager.heartbeat, SessionManager.getClone]
  cases service.auth.verifyToken crypto moment.unixTime token with
  | none => rfl
  | some claims =>
      cases service.sessions.sessions.lookup sessionId with
      | none => rfl
      | some info => rfl

theorem answer_terminate (service : ControlService) (moment : Moment) (sessionId : String)
    (token : Token) :
    (service.handle crypto ⟨moment, .terminate sessionId token⟩).2 =
      if service.auth.verifyToken crypto moment.unixTime token = none then
        .error { code := .unauthenticated, message := "invalid token" }
      else .ok (.terminate (service.sessions.getClone sessionId).isSome) := by
  simp only [handle, terminate, SessionManager.terminate, SessionManager.getClone]
  cases service.auth.verifyToken crypto moment.unixTime token with
  | none => rfl
  | some claims => rfl

/-- The next login draws an id that no session has had. -/
def DrawsFresh (ledger : Ledger) (arrival : Arrival Token) : Prop :=
  ∀ username password, arrival.request = .authenticate username password →
    arrival.moment.draw.sessionUuid ∉ ledger.ids

theorem Keeps.heartbeat (keeps : Keeps crypto rules ledger service) (moment : Moment)
    (sessionId : String) (token : Token) :
    (service.handle crypto ⟨moment, .heartbeat sessionId token⟩).2 =
        (ledger.handle crypto rules ⟨moment, .heartbeat sessionId token⟩).2 ∧
      Keeps crypto rules (ledger.handle crypto rules ⟨moment, .heartbeat sessionId token⟩).1
        (service.handle crypto ⟨moment, .heartbeat sessionId token⟩).1 := by
  have good := keeps.verifyToken_ne_none_iff moment.unixTime token
  have acts := acts_heartbeat crypto moment sessionId token
  rw [answer_heartbeat, keeps.isSome_getClone, Ledger.handle]
  dsimp only
  by_cases isGood : ledger.Good crypto rules moment.unixTime token
  · rw [if_pos isGood, if_neg (good.mpr isGood)]
    by_cases live : ledger.Live sessionId
    · rw [if_pos live, decide_eq_true live]
      refine ⟨rfl, keeps.of_acts acts ⟨keeps.sound.closed, ?_⟩ rfl rfl ?_⟩
      · intro beat member
        rcases List.mem_append.mp member with old | fresh
        · exact keeps.sound.beats beat old
        · rw [List.mem_singleton.mp fresh]
          exact live.1
      · intro uuid
        rw [Ledger.record_beat]
        exact if_congr (and_iff_right isGood).symm rfl rfl
    · rw [if_neg live, decide_eq_false live]
      refine ⟨rfl, keeps.of_acts acts keeps.sound rfl rfl ?_⟩
      intro uuid
      split
      · rename_i both
        rw [both.2, Ledger.record_eq_none live]
        rfl
      · rfl
  · rw [if_neg isGood, if_pos (not_not.mp (mt good.mp isGood))]
    refine ⟨rfl, keeps.of_acts acts keeps.sound rfl rfl ?_⟩
    intro uuid
    rw [if_neg (fun both => isGood both.1)]

theorem Keeps.terminate (keeps : Keeps crypto rules ledger service) (moment : Moment)
    (sessionId : String) (token : Token) :
    (service.handle crypto ⟨moment, .terminate sessionId token⟩).2 =
        (ledger.handle crypto rules ⟨moment, .terminate sessionId token⟩).2 ∧
      Keeps crypto rules (ledger.handle crypto rules ⟨moment, .terminate sessionId token⟩).1
        (service.handle crypto ⟨moment, .terminate sessionId token⟩).1 := by
  have good := keeps.verifyToken_ne_none_iff moment.unixTime token
  have acts := acts_terminate crypto moment sessionId token
  rw [answer_terminate, keeps.isSome_getClone, Ledger.handle]
  dsimp only
  by_cases isGood : ledger.Good crypto rules moment.unixTime token
  · rw [if_pos isGood, if_neg (good.mpr isGood)]
    by_cases live : ledger.Live sessionId
    · rw [if_pos live, decide_eq_true live]
      refine ⟨rfl, keeps.of_acts acts ⟨?_, keeps.sound.beats⟩ rfl rfl ?_⟩
      · intro uuid member
        rcases List.mem_append.mp member with old | fresh
        · exact keeps.sound.closed uuid old
        · rw [List.mem_singleton.mp fresh]
          exact live.1
      · intro uuid
        rw [Ledger.record_close]
        exact if_congr (and_iff_right isGood).symm rfl rfl
    · rw [if_neg live, decide_eq_false live]
      refine ⟨rfl, keeps.of_acts acts keeps.sound rfl rfl ?_⟩
      intro uuid
      split
      · rename_i both
        rw [both.2, Ledger.record_eq_none live]
      · rfl
  · rw [if_neg isGood, if_pos (not_not.mp (mt good.mp isGood))]
    refine ⟨rfl, keeps.of_acts acts keeps.sound rfl rfl ?_⟩
    intro uuid
    rw [if_neg (fun both => isGood both.1)]

theorem Keeps.created (keeps : Keeps crypto rules ledger service) (moment : Moment)
    (username : String) :
    (service.sessions.create moment.draw moment.now username
      (service.policies.resolve username)).1 = ledger.newSession rules moment username := by
  rw [SessionManager.create, Ledger.newSession, keeps.nextId, keeps.policies]

theorem Keeps.opens (keeps : Keeps crypto rules ledger service) {moment : Moment}
    (fresh : moment.draw.sessionUuid ∉ ledger.ids) (username : String) (claims : List Claims) :
    Keeps crypto rules
      { ledger with
        opened := ledger.opened ++ [ledger.newSession rules moment username]
        issued := ledger.issued ++ claims }
      { service with
        sessions := (service.sessions.create moment.draw moment.now username
          (service.policies.resolve username)).2
        auth := { service.auth with issued := service.auth.issued ++ claims } } := by
  have grown : ∀ uuid, uuid ∈ ledger.ids →
      uuid ∈ (ledger.opened ++ [ledger.newSession rules moment username]).map
        SessionInfo.sessionUuid := by
    intro uuid member
    rw [List.map_append]
    exact List.mem_append_left _ member
  refine
    { sound := ⟨fun uuid closed => grown uuid (keeps.sound.closed uuid closed),
        fun beat member => grown beat.1 (keeps.sound.beats beat member)⟩
      users := keeps.users
      jwtSecret := keeps.jwtSecret
      tokenTtlSecs := keeps.tokenTtlSecs
      issued := by rw [keeps.issued]
      policies := keeps.policies
      nextId := ?_
      table := ?_ }
  · change service.sessions.nextId + 1 = _
    rw [keeps.nextId, List.length_append, List.length_singleton, ← Nat.add_assoc]
    exact (UInt32.ofNat_add _ 1).symm
  · intro uuid
    rw [SessionManager.getClone_create, keeps.created, keeps.table]
    exact (Ledger.record_open keeps.sound (ledger.newSession rules moment username) fresh rfl _
      uuid).symm

theorem Keeps.authenticate (keeps : Keeps crypto rules ledger service) (moment : Moment)
    (username password : String) (fresh : moment.draw.sessionUuid ∉ ledger.ids) :
    (service.handle crypto ⟨moment, .authenticate username password⟩).2 =
        (ledger.handle crypto rules ⟨moment, .authenticate username password⟩).2 ∧
      Keeps crypto rules (ledger.handle crypto rules ⟨moment, .authenticate username password⟩).1
        (service.handle crypto ⟨moment, .authenticate username password⟩).1 := by
  have admits := authenticate_iff_admits crypto keeps.users username password
  have created := keeps.created moment username
  simp only [handle, ControlService.authenticate, Ledger.handle, AuthEngine.issueToken]
  by_cases admitted : Admits crypto rules.accounts username password
  · rw [if_pos admitted, if_pos (admits.mpr admitted)]
    cases moment.unixTime with
    | none =>
        have opens := keeps.opens fresh username []
        rw [List.append_nil, List.append_nil] at opens
        exact ⟨rfl, opens⟩
    | some now =>
        dsimp only
        refine ⟨?_, ?_⟩
        · rw [created, keeps.jwtSecret, keeps.tokenTtlSecs]
        · rw [← keeps.tokenTtlSecs]
          exact keeps.opens fresh username _
  · rw [if_neg admitted, if_neg (fun granted => admitted (admits.mp granted))]
    exact ⟨rfl, keeps⟩

theorem Keeps.handle (keeps : Keeps crypto rules ledger service) (arrival : Arrival Token)
    (fresh : DrawsFresh ledger arrival) :
    (service.handle crypto arrival).2 = (ledger.handle crypto rules arrival).2 ∧
      Keeps crypto rules (ledger.handle crypto rules arrival).1
        (service.handle crypto arrival).1 := by
  obtain ⟨moment, request⟩ := arrival
  cases request with
  | authenticate username password =>
      exact keeps.authenticate moment username password (fresh username password rfl)
  | heartbeat sessionId token => exact keeps.heartbeat moment sessionId token
  | terminate sessionId token => exact keeps.terminate moment sessionId token

end ControlService

/-! ### Whole histories -/

def Arrival.drawn (arrival : Arrival Token) : Option String :=
  match arrival.request with
  | .authenticate _ _ => some arrival.moment.draw.sessionUuid
  | _ => none

namespace Ledger

theorem ids_handle (rules : Rules) (ledger : Ledger) (arrival : Arrival Token) :
    (ledger.handle crypto rules arrival).1.ids.Sublist (ledger.ids ++ arrival.drawn.toList) ∧
      ∀ uuid, uuid ∈ ledger.closed → uuid ∈ (ledger.handle crypto rules arrival).1.closed := by
  obtain ⟨moment, request⟩ := arrival
  cases request with
  | authenticate username password =>
      have grown : ∀ issued : List Claims,
          ids { ledger with
            opened := ledger.opened ++ [ledger.newSession rules moment username]
            issued := issued } = ledger.ids ++ [moment.draw.sessionUuid] := by
        intro issued
        rw [ids, List.map_append, ids]
        rfl
      simp only [handle, Arrival.drawn, Option.toList_some]
      split
      · split
        · exact ⟨grown _ ▸ List.Sublist.refl _, fun _ closed => closed⟩
        · exact ⟨grown _ ▸ List.Sublist.refl _, fun _ closed => closed⟩
      · exact ⟨List.sublist_append_left _ _, fun _ closed => closed⟩
  | heartbeat sessionId token =>
      simp only [handle, Arrival.drawn, Option.toList_none, List.append_nil]
      split
      · split
        · exact ⟨List.Sublist.refl _, fun _ closed => closed⟩
        · exact ⟨List.Sublist.refl _, fun _ closed => closed⟩
      · exact ⟨List.Sublist.refl _, fun _ closed => closed⟩
  | terminate sessionId token =>
      simp only [handle, Arrival.drawn, Option.toList_none, List.append_nil]
      split
      · split
        · exact ⟨List.Sublist.refl _, fun _ closed => List.mem_append_left _ closed⟩
        · exact ⟨List.Sublist.refl _, fun _ closed => closed⟩
      · exact ⟨List.Sublist.refl _, fun _ closed => closed⟩

theorem eachStep_drawsFresh (rules : Rules) {ledger : Ledger} {history : List (Arrival Token)}
    (fresh : (ledger.ids ++ history.filterMap Arrival.drawn).Nodup) :
    EachStep (fun current arrival => (current.handle crypto rules arrival).1)
      ControlService.DrawsFresh ledger history := by
  induction history generalizing ledger with
  | nil => trivial
  | cons arrival rest ih =>
      have split : (arrival :: rest).filterMap Arrival.drawn =
          arrival.drawn.toList ++ rest.filterMap Arrival.drawn := by
        cases drawn : arrival.drawn with
        | none => rw [List.filterMap_cons_none drawn, Option.toList_none, List.nil_append]
        | some uuid =>
            rw [List.filterMap_cons_some drawn, Option.toList_some, List.singleton_append]
      rw [split, ← List.append_assoc] at fresh
      refine ⟨?_, ih (fresh.sublist ((ids_handle crypto rules ledger arrival).1.append_right _))⟩
      intro username password isLogin known
      have drawn : arrival.drawn = some arrival.moment.draw.sessionUuid := by
        rw [Arrival.drawn, isLogin]
      rw [drawn, Option.toList_some] at fresh
      have apart := List.disjoint_of_nodup_append (List.nodup_append'.mp fresh).1
      exact apart known List.mem_cons_self

theorem mem_closed_final (rules : Rules) {ledger : Ledger} {uuid : String}
    (closed : uuid ∈ ledger.closed) (history : List (Arrival Token)) :
    uuid ∈ (final (handle crypto rules) ledger history).closed := by
  induction history generalizing ledger with
  | nil => exact closed
  | cons arrival rest ih => exact ih ((ids_handle crypto rules ledger arrival).2 uuid closed)

end Ledger

namespace ControlService

theorem answers_eq_of_fresh (rules : Rules) (sessionTtl : Nat) {history : List (Arrival Token)}
    (fresh : (history.filterMap Arrival.drawn).Nodup) :
    answers (handle crypto) (serving crypto rules sessionTtl) history =
        answers (Ledger.handle crypto rules) .empty history ∧
      Keeps crypto rules (final (Ledger.handle crypto rules) .empty history)
        (final (handle crypto) (serving crypto rules sessionTtl) history) :=
  answers_eq_of_related (fun _ _ arrival keeps fresh => keeps.handle arrival fresh)
    (keeps_serving crypto rules sessionTtl) (Ledger.eachStep_drawsFresh crypto rules fresh)

/-- On every history whose logins draw different ids, the service answers as the
ledger does, and its table is what the ledger records. -/
theorem handle_refines_ledger (rules : Rules) (sessionTtl : Nat) (history : List (Arrival Token))
    (fresh : (history.filterMap Arrival.drawn).Nodup) :
    answers (handle crypto) (serving crypto rules sessionTtl) history =
        answers (Ledger.handle crypto rules) .empty history ∧
      ∀ uuid, ((serving crypto rules sessionTtl).run crypto history).sessions.getClone uuid =
        (final (Ledger.handle crypto rules) .empty history).record uuid := by
  obtain ⟨same, keeps⟩ := answers_eq_of_fresh crypto rules sessionTtl fresh
  exact ⟨same, keeps.table⟩

/-- A server with one user and an hour for each token. -/
def aliceOnly : Rules :=
  { accounts := [⟨Vector.replicate 32 0, "alice", "s3cr3t"⟩]
    policies := { defaultMaxBps := 100000000, perUser := ∅ }
    jwtSecret := []
    tokenTtlSecs := 3600 }

theorem handle_refines_ledger_lateHeartbeat :
    answers (handle plainCrypto) (serving plainCrypto aliceOnly 300000000000) lateHeartbeat =
      answers (Ledger.handle plainCrypto aliceOnly) .empty lateHeartbeat :=
  (handle_refines_ledger plainCrypto aliceOnly 300000000000 lateHeartbeat (by decide)).1

theorem Keeps.mem_closed {crypto : Crypto Token} {rules : Rules} {ledger : Ledger}
    {service : ControlService} (keeps : Keeps crypto rules ledger service) {moment : Moment}
    {sessionId : String} {token : Token}
    (terminated : (service.handle crypto ⟨moment, .terminate sessionId token⟩).2 =
      .ok (.terminate true)) :
    sessionId ∈ (ledger.handle crypto rules ⟨moment, .terminate sessionId token⟩).1.closed := by
  rw [(keeps.terminate moment sessionId token).1, Ledger.handle] at terminated
  rw [Ledger.handle]
  dsimp only at terminated ⊢
  split at terminated
  · rename_i isGood
    rw [if_pos isGood]
    split at terminated
    · rename_i live
      rw [if_pos live]
      exact List.mem_append_right _ List.mem_cons_self
    · cases terminated
  · cases terminated

theorem Keeps.fails_of_closed {crypto : Crypto Token} {rules : Rules} {ledger : Ledger}
    {service : ControlService} (keeps : Keeps crypto rules ledger service) {sessionId : String}
    (closed : sessionId ∈ ledger.closed) (moment : Moment) (token : Token) :
    (service.handle crypto ⟨moment, .heartbeat sessionId token⟩).2 ≠ .ok (.heartbeat true) ∧
      (service.handle crypto ⟨moment, .terminate sessionId token⟩).2 ≠ .ok (.terminate true) := by
  have dead : ¬ ledger.Live sessionId := fun live => live.2 closed
  rw [answer_heartbeat, answer_terminate, keeps.isSome_getClone, decide_eq_false dead]
  split
  · exact ⟨fun impossible => (nomatch impossible), fun impossible => nomatch impossible⟩
  · exact ⟨fun impossible => (nomatch impossible), fun impossible => nomatch impossible⟩

/-- Once a session was terminated, no later request on it succeeds, whoever sends
it and whatever happens in between. -/
theorem terminated_stays_terminated (rules : Rules) (sessionTtl : Nat)
    (before between : List (Arrival Token)) (moment : Moment) (sessionId : String) (token : Token)
    (fresh : ((before ++ ⟨moment, .terminate sessionId token⟩ :: between).filterMap
      Arrival.drawn).Nodup)
    (terminated : (((serving crypto rules sessionTtl).run crypto before).handle crypto
      ⟨moment, .terminate sessionId token⟩).2 = .ok (.terminate true))
    (later : Moment) (other : Token) :
    (((serving crypto rules sessionTtl).run crypto
        (before ++ ⟨moment, .terminate sessionId token⟩ :: between)).handle crypto
          ⟨later, .heartbeat sessionId other⟩).2 ≠ .ok (.heartbeat true) ∧
      (((serving crypto rules sessionTtl).run crypto
        (before ++ ⟨moment, .terminate sessionId token⟩ :: between)).handle crypto
          ⟨later, .terminate sessionId other⟩).2 ≠ .ok (.terminate true) := by
  have freshBefore : (before.filterMap Arrival.drawn).Nodup := by
    rw [List.filterMap_append] at fresh
    exact fresh.sublist (List.sublist_append_left _ _)
  have keepsBefore := (answers_eq_of_fresh crypto rules sessionTtl freshBefore).2
  have keeps := (answers_eq_of_fresh crypto rules sessionTtl fresh).2
  refine keeps.fails_of_closed ?_ later other
  rw [final, List.foldl_append, List.foldl_cons]
  exact Ledger.mem_closed_final crypto rules (keepsBefore.mem_closed terminated) between

theorem logout_succeeds :
    (((serving plainCrypto aliceOnly 300000000000).run plainCrypto
        [⟨drawing "session-a", .authenticate "alice" "s3cr3t"⟩]).handle plainCrypto
      ⟨drawing "", .terminate "session-a" { sub := "alice", sid := "session-a", exp := 4600 }⟩).2 =
        .ok (.terminate true) := by
  rw [answer_terminate, if_neg (by decide +kernel)]
  exact congrArg (fun found => Except.ok (Response.terminate found)) (by decide +kernel)

theorem terminated_stays_terminated_loginLogout :
    (((serving plainCrypto aliceOnly 300000000000).run plainCrypto
        [⟨drawing "session-a", .authenticate "alice" "s3cr3t"⟩,
         ⟨drawing "", .terminate "session-a" { sub := "alice", sid := "session-a", exp := 4600 }⟩]
        ).handle plainCrypto ⟨drawing "", .heartbeat "session-a"
          { sub := "alice", sid := "session-a", exp := 4600 }⟩).2 ≠ .ok (.heartbeat true) :=
  (terminated_stays_terminated plainCrypto aliceOnly 300000000000
    [⟨drawing "session-a", .authenticate "alice" "s3cr3t"⟩] [] (drawing "") "session-a"
    { sub := "alice", sid := "session-a", exp := 4600 } (by decide) logout_succeeds
    (drawing "") { sub := "alice", sid := "session-a", exp := 4600 }).1

end ControlService

end Udpix.ControlPlane

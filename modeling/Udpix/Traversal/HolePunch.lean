/-
The hole-punch orchestrator.

`punch` is written over any connection: its state `σ`, the STUN discovery, the
check of one pair and the pause between two attempts are given, and so is the
TURN client that it falls back to.  The pairs keep their states from one attempt
to the next, so a pair that failed once is never checked again.
-/

import Udpix.Library.Fallible
import Udpix.Traversal.Ice

namespace Udpix.Traversal

open Fallible

structure TurnConfig where
  server : SocketAddr
  username : String
  password : String
deriving DecidableEq

structure HolePunchConfig where
  stunServers : List SocketAddr
  turn : Option TurnConfig
  attempts : Nat
  attemptIntervalMs : Nat
deriving DecidableEq

def HolePunchConfig.default : HolePunchConfig :=
  { stunServers := [], turn := none, attempts := 10, attemptIntervalMs := 250 }

structure NatEndpoint where
  localAddr : SocketAddr
  publicAddr : SocketAddr
deriving DecidableEq

/-- The result without the socket, which is the connection itself. -/
structure HolePunchResult where
  peerAddr : SocketAddr
  relayUsed : Bool
deriving DecidableEq

/-- The calls on a TURN client that the fallback makes.  An allocation is
represented by its relayed address. -/
structure TurnCalls (τ : Type) where
  new : TurnConfig → Except Error τ
  allocate : τ → Except Error (τ × SocketAddr)
  createPermission : τ → SocketAddr → Except Error Unit

structure Surroundings (σ τ : Type) where
  bind : Except Error (σ × SocketAddr)
  discover : σ → SocketAddr → σ × Except Error SocketAddr
  check : σ → CandidatePair → σ × Except Error SocketAddr
  sleep : Nat → σ → σ
  turn : TurnCalls τ

namespace HolePuncher

variable {σ τ : Type}

/-- Ask the STUN servers in order until one answers. -/
def discoverPublic (discover : σ → SocketAddr → σ × Except Error SocketAddr) :
    σ → List SocketAddr → σ × Option SocketAddr
  | connection, [] => (connection, none)
  | connection, server :: rest =>
      match discover connection server with
      | (connection, .ok addr) => (connection, some addr)
      | (connection, .error _) => discoverPublic discover connection rest

/-- Find the public address through the first STUN server that answers. -/
def discover (outside : Surroundings σ τ) (config : HolePunchConfig) :
    Except Error NatEndpoint :=
  match outside.bind with
  | .error causes => .error causes
  | .ok (connection, localAddr) =>
      match (discoverPublic outside.discover connection config.stunServers).2 with
      | some publicAddr => .ok { localAddr := localAddr, publicAddr := publicAddr }
      | none => .error ["all STUN servers failed or none configured"]

/-- The agent of a punch, its check list formed. -/
def buildAgent (localAddr : SocketAddr) (publicAddr : Option SocketAddr)
    (peerPublicAddr : SocketAddr) : IceAgent :=
  let agent := (IceAgent.new .controlling).addLocalCandidate (Candidate.new .host localAddr 65535)
  let agent := match publicAddr with
    | some addr => agent.addLocalCandidate (Candidate.new .serverReflexive addr 65535)
    | none => agent
  (agent.setRemoteCandidates [Candidate.new .host peerPublicAddr 65535]).formCheckList

def tryChecks (outside : Surroundings σ τ) (intervalMs : Nat) :
    Nat → σ → List CandidatePair → σ × Option CandidatePair
  | 0, connection, _ => (connection, none)
  | attempts + 1, connection, checkList =>
      let checked := IceAgent.runChecks outside.check connection checkList
      match checked.found with
      | some pair => (checked.connection, some pair)
      | none =>
          tryChecks outside intervalMs attempts (outside.sleep intervalMs checked.connection)
            checked.checkList

def relay (turn : TurnCalls τ) (config : HolePunchConfig) (peerPublicAddr : SocketAddr) :
    Except Error HolePunchResult :=
  match config.turn with
  | some turnCfg => do
      let client ← context "TURN client init" (turn.new turnCfg)
      let (client, relayedAddr) ← context "TURN allocate" (turn.allocate client)
      context "TURN create_permission" (turn.createPermission client peerPublicAddr)
      pure { peerAddr := relayedAddr, relayUsed := true }
  | none =>
      .error ["NAT traversal failed: ICE (" ++ toString config.attempts ++
        " attempts) and no TURN fallback configured"]

def punch (outside : Surroundings σ τ) (config : HolePunchConfig)
    (peerPublicAddr : SocketAddr) : Except Error HolePunchResult :=
  match outside.bind with
  | .error causes => .error causes
  | .ok (connection, localAddr) =>
      let (connection, publicAddr) := discoverPublic outside.discover connection config.stunServers
      let agent := buildAgent localAddr publicAddr peerPublicAddr
      match (tryChecks outside config.attemptIntervalMs config.attempts connection
          agent.checkList).2 with
      | some pair => .ok { peerAddr := pair.remote.addr, relayUsed := false }
      | none => relay outside.turn config peerPublicAddr

/-! ### A schedule of outcomes -/

/-- Surroundings in which the outcome of every check is fixed by the number of
the attempt and the pair.  The state counts the attempts. -/
def scheduled (localAddr : SocketAddr) (publicAddr : SocketAddr → Except Error SocketAddr)
    (schedule : Nat → Candidate → Candidate → Except Error SocketAddr) (turn : TurnCalls τ) :
    Surroundings Nat τ :=
  { bind := .ok (0, localAddr)
    discover := fun attempt server => (attempt, publicAddr server)
    check := fun attempt pair => (attempt, schedule attempt pair.localCand pair.remote)
    sleep := fun _ attempt => attempt + 1
    turn := turn }

/-- The check list that a punch in such surroundings works on. -/
def scheduledCheckList (localAddr : SocketAddr)
    (publicAddr : SocketAddr → Except Error SocketAddr) (config : HolePunchConfig)
    (peerPublicAddr : SocketAddr) : List CandidatePair :=
  (buildAgent localAddr
    (discoverPublic (fun (attempt : Nat) server => (attempt, publicAddr server)) 0
      config.stunServers).2 peerPublicAddr).checkList

/-! ### Only the first attempt checks anything -/

theorem tryChecks_of_settled (outside : Surroundings σ τ) (intervalMs attempts : Nat)
    (connection : σ) {checkList : List CandidatePair}
    (settled : ∀ pair, pair ∈ checkList → pair.state ≠ .waiting) :
    (tryChecks outside intervalMs attempts connection checkList).2 = none := by
  induction attempts generalizing connection with
  | zero => rfl
  | succ attempts ih =>
      rw [tryChecks, IceAgent.runChecks_of_settled outside.check connection settled]
      exact ih _

/-- However many attempts there are, they find what the first one finds. -/
theorem tryChecks_eq_firstAttempt (outside : Surroundings σ τ) (intervalMs attempts : Nat)
    (connection : σ) (checkList : List CandidatePair) :
    (tryChecks outside intervalMs (attempts + 1) connection checkList).2 =
      (IceAgent.runChecks outside.check connection checkList).found := by
  unfold tryChecks
  dsimp only
  cases isFound : (IceAgent.runChecks outside.check connection checkList).found with
  | some pair => rfl
  | none =>
      exact tryChecks_of_settled outside intervalMs attempts _
        (IceAgent.settled_of_runChecks outside.check isFound)

theorem of_mem_buildAgent {localAddr peerPublicAddr : SocketAddr}
    {publicAddr : Option SocketAddr} {pair : CandidatePair}
    (member : pair ∈ (buildAgent localAddr publicAddr peerPublicAddr).checkList) :
    pair.state = .waiting ∧ pair.remote.addr = peerPublicAddr := by
  obtain ⟨l, _, r, remote, _, rfl⟩ := (IceAgent.mem_formCheckList _ pair).mp member
  have isPeer : r = Candidate.new .host peerPublicAddr 65535 := List.mem_singleton.mp remote
  subst isPeer
  exact ⟨rfl, rfl⟩

theorem relay_not_direct (turn : TurnCalls τ) (config : HolePunchConfig)
    (peerPublicAddr : SocketAddr) (result : HolePunchResult)
    (relayed : relay turn config peerPublicAddr = .ok result) : result.relayUsed = true := by
  unfold relay at relayed
  split at relayed
  · obtain ⟨client, _, relayed⟩ := bind_eq_ok relayed
    obtain ⟨allocation, _, relayed⟩ := bind_eq_ok relayed
    obtain ⟨_, _, relayed⟩ := bind_eq_ok relayed
    cases relayed
    rfl
  · cases relayed

theorem discoverPublic_fst (publicAddr : SocketAddr → Except Error SocketAddr) (attempt : Nat)
    (servers : List SocketAddr) :
    (discoverPublic (fun attempt server => (attempt, publicAddr server)) attempt servers).1 =
      attempt := by
  induction servers with
  | nil => rfl
  | cons server rest ih =>
      unfold discoverPublic
      cases publicAddr server with
      | ok addr => rfl
      | error causes => exact ih

/-- With fixed outcomes a round finds a pair exactly when some waiting pair is
answered. -/
theorem found_scheduled_iff (localAddr : SocketAddr)
    (publicAddr : SocketAddr → Except Error SocketAddr)
    (schedule : Nat → Candidate → Candidate → Except Error SocketAddr) (turn : TurnCalls τ)
    (attempt : Nat) (checkList : List CandidatePair)
    (fresh : ∀ pair, pair ∈ checkList → pair.state = .waiting) :
    (IceAgent.runChecks (scheduled localAddr publicAddr schedule turn).check attempt
        checkList).found.isSome = true ↔
      ∃ pair, pair ∈ checkList ∧
        (schedule attempt pair.localCand pair.remote).isOk = true := by
  induction checkList with
  | nil => simp [IceAgent.runChecks]
  | cons first rest ih =>
      have waiting := fresh first List.mem_cons_self
      have later := ih (fun pair member => fresh pair (List.mem_cons_of_mem first member))
      cases answer : schedule attempt first.localCand first.remote with
      | ok addr =>
          rw [IceAgent.runChecks_cons_ok rest waiting (congrArg (Prod.mk attempt) answer)]
          constructor
          · intro _
            exact ⟨first, List.mem_cons_self, by rw [answer]; rfl⟩
          · intro _
            rfl
      | error causes =>
          rw [IceAgent.runChecks_cons_error rest waiting (congrArg (Prod.mk attempt) answer)]
          refine later.trans ⟨?_, ?_⟩
          · rintro ⟨pair, member, answered⟩
            exact ⟨pair, List.mem_cons_of_mem first member, answered⟩
          · rintro ⟨pair, member, answered⟩
            rcases List.mem_cons.mp member with rfl | inRest
            · rw [answer] at answered
              cases answered
            · exact ⟨pair, inRest, answered⟩

/-- The checks of `pair`, which is in the check list, are answered from attempt
`first` on. -/
structure AnsweredFrom (schedule : Nat → Candidate → Candidate → Except Error SocketAddr)
    (attempts : Nat) (checkList : List CandidatePair) (first : Nat) (pair : CandidatePair) :
    Prop where
  listed : pair ∈ checkList
  early : first < attempts
  answered : ∀ attempt, first ≤ attempt → attempt < attempts →
    (schedule attempt pair.localCand pair.remote).isOk = true

/-- Whenever the peer answers from some attempt on, the punch returns the remote
address of that pair and uses no relay. -/
def Retries (localAddr : SocketAddr) (publicAddr : SocketAddr → Except Error SocketAddr)
    (schedule : Nat → Candidate → Candidate → Except Error SocketAddr) (turn : TurnCalls τ)
    (config : HolePunchConfig) (peerPublicAddr : SocketAddr) : Prop :=
  ∀ first pair,
    AnsweredFrom schedule config.attempts
      (scheduledCheckList localAddr publicAddr config peerPublicAddr) first pair →
    punch (scheduled localAddr publicAddr schedule turn) config peerPublicAddr =
      .ok { peerAddr := pair.remote.addr, relayUsed := false }

theorem punch_scheduled (localAddr : SocketAddr)
    (publicAddr : SocketAddr → Except Error SocketAddr)
    (schedule : Nat → Candidate → Candidate → Except Error SocketAddr) (turn : TurnCalls τ)
    (config : HolePunchConfig) (peerPublicAddr : SocketAddr) (tries : 0 < config.attempts) :
    punch (scheduled localAddr publicAddr schedule turn) config peerPublicAddr =
      match (IceAgent.runChecks (scheduled localAddr publicAddr schedule turn).check 0
          (scheduledCheckList localAddr publicAddr config peerPublicAddr)).found with
      | some found => .ok { peerAddr := found.remote.addr, relayUsed := false }
      | none => relay turn config peerPublicAddr := by
  obtain ⟨attempts, counted⟩ : ∃ attempts, config.attempts = attempts + 1 :=
    ⟨config.attempts - 1, by omega⟩
  simp only [punch, scheduled, counted, tryChecks_eq_firstAttempt, discoverPublic_fst]
  rfl

/-- The retries make a difference for no schedule: a punch keeps the promise
exactly when a peer that ever starts to answer answers some pair of the check
list in the very first attempt. -/
theorem retries_iff (localAddr : SocketAddr)
    (publicAddr : SocketAddr → Except Error SocketAddr)
    (schedule : Nat → Candidate → Candidate → Except Error SocketAddr) (turn : TurnCalls τ)
    (config : HolePunchConfig) (peerPublicAddr : SocketAddr) :
    Retries localAddr publicAddr schedule turn config peerPublicAddr ↔
      ((∃ first pair, AnsweredFrom schedule config.attempts
          (scheduledCheckList localAddr publicAddr config peerPublicAddr) first pair) →
        ∃ pair, pair ∈ scheduledCheckList localAddr publicAddr config peerPublicAddr ∧
          (schedule 0 pair.localCand pair.remote).isOk = true) := by
  have round := found_scheduled_iff localAddr publicAddr schedule turn 0
    (scheduledCheckList localAddr publicAddr config peerPublicAddr)
    (fun pair member => (of_mem_buildAgent member).1)
  rw [← round]
  constructor
  · rintro retries ⟨first, pair, answeredFrom⟩
    have direct := retries first pair answeredFrom
    rw [punch_scheduled localAddr publicAddr schedule turn config peerPublicAddr
      (Nat.zero_lt_of_lt answeredFrom.early)] at direct
    split at direct
    · rename_i found isFound
      rw [isFound]
      rfl
    · exact nomatch relay_not_direct turn config peerPublicAddr _ direct
  · intro immediate first pair answeredFrom
    obtain ⟨found, isFound⟩ := Option.isSome_iff_exists.mp (immediate ⟨first, pair, answeredFrom⟩)
    obtain ⟨original, member, rfl⟩ := IceAgent.mem_of_runChecks_found _ isFound
    have sameRemote : original.remote.addr = pair.remote.addr :=
      (of_mem_buildAgent member).2.trans (of_mem_buildAgent answeredFrom.listed).2.symm
    rw [punch_scheduled localAddr publicAddr schedule turn config peerPublicAddr
      (Nat.zero_lt_of_lt answeredFrom.early), isFound]
    simp only [sameRemote]

/-- A peer that answers from the second of two attempts on. -/
def latePeer (attempt : Nat) (_ remote : Candidate) : Except Error SocketAddr :=
  if attempt = 0 then
    .error ["ICE connectivity check failed", "STUN response timeout", "deadline has elapsed"]
  else .ok remote.addr

def unusedTurn : TurnCalls Unit :=
  { new := fun _ => .error []
    allocate := fun _ => .error []
    createPermission := fun _ _ => .error [] }

theorem latePeer_not_retried :
    ¬ ∀ (localAddr : SocketAddr) (publicAddr : SocketAddr → Except Error SocketAddr)
      (schedule : Nat → Candidate → Candidate → Except Error SocketAddr)
      (turn : TurnCalls Unit) (config : HolePunchConfig) (peerPublicAddr : SocketAddr),
      Retries localAddr publicAddr schedule turn config peerPublicAddr := by
  intro always
  have answered : AnsweredFrom latePeer 2
      (scheduledCheckList (.v4 0 5000) .ok { HolePunchConfig.default with attempts := 2 }
        (.v4 0xC0000201 6000)) 1
      (CandidatePair.new (Candidate.new .host (.v4 0 5000) 65535)
        (Candidate.new .host (.v4 0xC0000201 6000) 65535) .controlling) := by
    refine ⟨List.mem_singleton.mpr rfl, by decide, ?_⟩
    intro attempt later _
    rw [latePeer, if_neg (by omega)]
    rfl
  have direct := always (.v4 0 5000) .ok latePeer unusedTurn
    { HolePunchConfig.default with attempts := 2 } (.v4 0xC0000201 6000) 1 _ answered
  revert direct
  decide +kernel

end HolePuncher

end Udpix.Traversal

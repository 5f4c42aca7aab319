/-
The agent that pairs candidates and checks the pairs in order of priority.

`run_checks` works on any kind of connection: the state `σ` and the check of one
pair are arguments.  The foundation of a candidate is never read and is left
out.
-/

import Udpix.Traversal.Stun
import Mathlib.Data.List.Sort

namespace Udpix.Traversal

inductive CandidateType where
  | host
  | serverReflexive
  | relayed
deriving DecidableEq

structure Candidate where
  candType : CandidateType
  addr : SocketAddr
  priority : UInt32
  componentId : UInt8
deriving DecidableEq

namespace Candidate

def typePreference : CandidateType → UInt32
  | .host => 126
  | .serverReflexive => 100
  | .relayed => 0

def computePriority (typePref localPref componentId : UInt32) : UInt32 :=
  ((1 : UInt32) <<< 24) * typePref + ((1 : UInt32) <<< 8) * localPref + (256 - componentId)

def new (candType : CandidateType) (addr : SocketAddr) (localPref : UInt32) : Candidate :=
  { candType := candType
    addr := addr
    priority := computePriority (typePreference candType) localPref 1
    componentId := 1 }

end Candidate

inductive PairState where
  | waiting
  | inProgress
  | succeeded
  | failed
deriving DecidableEq

inductive IceRole where
  | controlling
  | controlled
deriving DecidableEq

structure CandidatePair where
  localCand : Candidate
  remote : Candidate
  priority : UInt64
  state : PairState
deriving DecidableEq

namespace CandidatePair

def pairPriority (g d : UInt32) (role : IceRole) : UInt64 :=
  let (controlling, controlled) :=
    match role with
    | .controlling => (g.toUInt64, d.toUInt64)
    | .controlled => (d.toUInt64, g.toUInt64)
  ((min controlling controlled) <<< 32) ||| ((max controlling controlled) <<< 1) |||
    (if controlled < controlling then 1 else 0)

def new (localCand remote : Candidate) (role : IceRole) : CandidatePair :=
  { localCand := localCand
    remote := remote
    priority := pairPriority localCand.priority remote.priority role
    state := .waiting }

end CandidatePair

structure IceAgent where
  role : IceRole
  localCands : List Candidate
  remoteCands : List Candidate
  checkList : List CandidatePair

namespace IceAgent

def new (role : IceRole) : IceAgent :=
  { role := role, localCands := [], remoteCands := [], checkList := [] }

def addLocalCandidate (agent : IceAgent) (candidate : Candidate) : IceAgent :=
  { agent with localCands := agent.localCands ++ [candidate] }

def setRemoteCandidates (agent : IceAgent) (candidates : List Candidate) : IceAgent :=
  { agent with remoteCands := candidates }

/-- The pairs of one address family, in the order of the two loops. -/
def formPairs (agent : IceAgent) : List CandidatePair :=
  agent.localCands.flatMap fun l =>
    (agent.remoteCands.filter fun r => l.addr.isIpv4 == r.addr.isIpv4).map fun r =>
      CandidatePair.new l r agent.role

/-- The pairs sorted by falling priority; pairs of one priority keep their
order, as in the stable sort of the code. -/
def formCheckList (agent : IceAgent) : IceAgent :=
  { agent with
    checkList := agent.formPairs.insertionSort (fun a b => b.priority ≤ a.priority) }

theorem mem_formCheckList (agent : IceAgent) (pair : CandidatePair) :
    pair ∈ agent.formCheckList.checkList ↔ ∃ l, l ∈ agent.localCands ∧
      ∃ r, r ∈ agent.remoteCands ∧ l.addr.isIpv4 = r.addr.isIpv4 ∧
        pair = CandidatePair.new l r agent.role := by
  have sorted : pair ∈ agent.formCheckList.checkList ↔ pair ∈ agent.formPairs :=
    (List.perm_insertionSort _ agent.formPairs).mem_iff
  rw [sorted, formPairs, List.mem_flatMap]
  refine exists_congr fun l => and_congr_right fun _ => ?_
  rw [List.mem_map]
  constructor
  · rintro ⟨r, kept, rfl⟩
    obtain ⟨member, family⟩ := List.mem_filter.mp kept
    exact ⟨r, member, eq_of_beq family, rfl⟩
  · rintro ⟨r, member, family, rfl⟩
    exact ⟨r, List.mem_filter.mpr ⟨member, beq_iff_eq.mpr family⟩, rfl⟩

/-! ### Connectivity checks -/

section Checks

variable {σ : Type} (check : σ → CandidatePair → σ × Except Error SocketAddr)

/-- What a round of checks leaves: the connection, the check list, and the
first pair that succeeded. -/
structure Checked (σ : Type) where
  connection : σ
  checkList : List CandidatePair
  found : Option CandidatePair
deriving DecidableEq

def runChecks (connection : σ) : List CandidatePair → Checked σ
  | [] => { connection := connection, checkList := [], found := none }
  | pair :: rest =>
      if pair.state ≠ .waiting then
        let later := runChecks connection rest
        { later with checkList := pair :: later.checkList }
      else
        match check connection { pair with state := .inProgress } with
        | (connection, .ok _) =>
            let succeeded := { pair with state := .succeeded }
            { connection := connection, checkList := succeeded :: rest, found := some succeeded }
        | (connection, .error _) =>
            let later := runChecks connection rest
            { later with checkList := { pair with state := .failed } :: later.checkList }

variable {check} in
theorem runChecks_cons_ok {connection next : σ} {pair : CandidatePair} {addr : SocketAddr}
    (rest : List CandidatePair) (waiting : pair.state = .waiting)
    (answer : check connection { pair with state := .inProgress } = (next, .ok addr)) :
    runChecks check connection (pair :: rest) =
      { connection := next
        checkList := { pair with state := .succeeded } :: rest
        found := some { pair with state := .succeeded } } := by
  rw [runChecks, if_neg (not_not_intro waiting), answer]

variable {check} in
theorem runChecks_cons_error {connection next : σ} {pair : CandidatePair} {causes : Error}
    (rest : List CandidatePair) (waiting : pair.state = .waiting)
    (answer : check connection { pair with state := .inProgress } = (next, .error causes)) :
    runChecks check connection (pair :: rest) =
      { runChecks check next rest with
        checkList := { pair with state := .failed } ::
          (runChecks check next rest).checkList } := by
  rw [runChecks, if_neg (not_not_intro waiting), answer]

theorem runChecks_cons_settled (connection : σ) {pair : CandidatePair}
    (rest : List CandidatePair) (settled : pair.state ≠ .waiting) :
    runChecks check connection (pair :: rest) =
      { runChecks check connection rest with
        checkList := pair :: (runChecks check connection rest).checkList } := by
  rw [runChecks, if_pos settled]

theorem runChecks_of_settled (connection : σ) {checkList : List CandidatePair}
    (settled : ∀ pair, pair ∈ checkList → pair.state ≠ .waiting) :
    runChecks check connection checkList =
      { connection := connection, checkList := checkList, found := none } := by
  induction checkList with
  | nil => rfl
  | cons pair rest ih =>
      have later := ih (fun other member => settled other (List.mem_cons_of_mem pair member))
      rw [runChecks_cons_settled check connection rest (settled pair List.mem_cons_self), later]

theorem settled_of_runChecks {connection : σ} {checkList : List CandidatePair}
    (failed : (runChecks check connection checkList).found = none) :
    ∀ pair, pair ∈ (runChecks check connection checkList).checkList → pair.state ≠ .waiting := by
  induction checkList generalizing connection with
  | nil =>
      intro pair member
      cases member
  | cons first rest ih =>
      unfold runChecks at failed ⊢
      split at failed
      · rename_i settled
        rw [if_pos settled]
        intro pair member
        rcases List.mem_cons.mp member with rfl | later
        · exact settled
        · exact ih failed pair later
      · rename_i waiting
        rw [if_neg waiting]
        split at failed
        · cases failed
        · dsimp only
          intro pair member
          rcases List.mem_cons.mp member with rfl | later
          · exact PairState.noConfusion
          · exact ih failed pair later

theorem mem_of_runChecks_found {connection : σ} {checkList : List CandidatePair}
    {found : CandidatePair} (isFound : (runChecks check connection checkList).found = some found) :
    ∃ pair, pair ∈ checkList ∧ found = { pair with state := .succeeded } := by
  induction checkList generalizing connection with
  | nil => cases isFound
  | cons first rest ih =>
      unfold runChecks at isFound
      split at isFound
      · obtain ⟨pair, member, marked⟩ := ih isFound
        exact ⟨pair, List.mem_cons_of_mem first member, marked⟩
      · split at isFound
        · cases isFound
          exact ⟨first, List.mem_cons_self, rfl⟩
        · obtain ⟨pair, member, marked⟩ := ih isFound
          exact ⟨pair, List.mem_cons_of_mem first member, marked⟩

/-- A round marks a waiting pair exactly when no pair before it succeeded and its
own check, made in the state that the earlier checks left, succeeds. -/
theorem succeeded_iff (connection : σ) (before : List CandidatePair) (pair : CandidatePair)
    (after : List CandidatePair) (waiting : pair.state = .waiting) :
    ((runChecks check connection (before ++ pair :: after)).checkList[before.length]?).map
        CandidatePair.state = some .succeeded ↔
      (runChecks check connection before).found = none ∧
        ∃ addr, (check (runChecks check connection before).connection
          { pair with state := .inProgress }).2 = .ok addr := by
  induction before generalizing connection with
  | nil =>
      change ((runChecks check connection (pair :: after)).checkList[0]?).map _ = _ ↔
        none = none ∧ ∃ addr, (check connection { pair with state := .inProgress }).2 = .ok addr
      rcases answer : check connection { pair with state := .inProgress } with ⟨next, causes | addr⟩
      · rw [runChecks_cons_error after waiting answer]
        simp
      · rw [runChecks_cons_ok after waiting answer]
        simp
  | cons first before ih =>
      by_cases fresh : first.state = .waiting
      · rcases answer : check connection { first with state := .inProgress } with
          ⟨next, causes | addr⟩
        · rw [List.cons_append, runChecks_cons_error _ fresh answer,
            runChecks_cons_error before fresh answer, List.length_cons, List.getElem?_cons_succ]
          exact ih next
        · rw [List.cons_append, runChecks_cons_ok _ fresh answer,
            runChecks_cons_ok before fresh answer, List.length_cons, List.getElem?_cons_succ]
          simp [waiting]
      · rw [List.cons_append, runChecks_cons_settled check connection _ fresh,
          runChecks_cons_settled check connection before fresh, List.length_cons,
          List.getElem?_cons_succ]
        exact ih connection

end Checks

end IceAgent

/-- The connectivity check of a pair: a plain Binding Request to its remote
address. -/
def stunCheck (outside : Nat → Exchange) (socket : Socket) (target : SocketAddr) :
    Socket × Except Error SocketAddr :=
  let (after, answer) := StunClient.discoverWithSocket outside socket target
  (after, context "ICE connectivity check failed" answer)

/-- The checks of one agent over one socket. -/
def checkPair (outside : Nat → Exchange) (socket : Socket) (pair : CandidatePair) :
    Socket × Except Error SocketAddr :=
  stunCheck outside socket pair.remote.addr

end Udpix.Traversal

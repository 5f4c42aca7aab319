/-
Two agents that check the same pairs.

The controlling agent has the candidates `l` on its own side and `r` on the
other, the controlled agent has them the other way round.  Both give a pair the
priority of RFC 8445 §6.1.2.3, because a candidate that `Candidate::new` makes
has a priority below `2 ^ 31` and the three parts of the word do not meet.
-/

import Udpix.Traversal.Ice
import Mathlib.Data.List.ProdSigma
import Mathlib.Data.Prod.Lex
import Mathlib.Data.Multiset.Bind

namespace Udpix.Traversal

/-! ### Candidate priorities -/

namespace Candidate

/-- The priority of RFC 8445 §5.1.2.1 for the first component, as a number. -/
def priorityValue (candType : CandidateType) (localPref : UInt32) : Nat :=
  2 ^ 24 * (typePreference candType).toNat + 2 ^ 8 * localPref.toNat + (256 - 1)

/-- Made by `Candidate::new` with a local preference of sixteen bits. -/
def MadeWith (candidate : Candidate) (candType : CandidateType) (localPref : UInt32) : Prop :=
  localPref.toNat ≤ 65535 ∧ candidate = new candType candidate.addr localPref

def Made (candidate : Candidate) : Prop :=
  ∃ candType localPref, candidate.MadeWith candType localPref

theorem made_new (candType : CandidateType) (addr : SocketAddr) {localPref : UInt32}
    (bounded : localPref.toNat ≤ 65535) : (new candType addr localPref).Made :=
  ⟨candType, localPref, bounded, rfl⟩

theorem toNat_typePreference_le (candType : CandidateType) :
    (typePreference candType).toNat ≤ 126 := by
  cases candType with
  | host => exact Nat.le_refl 126
  | serverReflexive => exact Nat.le_of_ble_eq_true rfl
  | relayed => exact Nat.zero_le 126

theorem priorityValue_lt (candType : CandidateType) {localPref : UInt32}
    (bounded : localPref.toNat ≤ 65535) : priorityValue candType localPref < 2 ^ 31 := by
  have small := toNat_typePreference_le candType
  rw [priorityValue]
  omega

theorem MadeWith.toNat_priority {candidate : Candidate} {candType : CandidateType}
    {localPref : UInt32} (made : candidate.MadeWith candType localPref) :
    candidate.priority.toNat = priorityValue candType localPref := by
  obtain ⟨bounded, built⟩ := made
  have small := toNat_typePreference_le candType
  have high : ((1 : UInt32) <<< 24).toNat = 2 ^ 24 := rfl
  have low : ((1 : UInt32) <<< 8).toNat = 2 ^ 8 := rfl
  have last : ((256 : UInt32) - 1).toNat = 256 - 1 := rfl
  rw [built, new, computePriority, UInt32.toNat_add, UInt32.toNat_add, UInt32.toNat_mul,
    UInt32.toNat_mul, high, low, last, priorityValue]
  omega

theorem Made.toNat_priority_lt {candidate : Candidate} (made : candidate.Made) :
    candidate.priority.toNat < 2 ^ 31 := by
  obtain ⟨candType, localPref, madeWith⟩ := made
  rw [madeWith.toNat_priority]
  exact priorityValue_lt candType madeWith.1

end Candidate

/-! ### Pair priorities -/

/-- The priority of a pair in RFC 8445 §6.1.2.3, from the priorities of the
controlling and of the controlled side. -/
def rfc8445Priority (controlling controlled : Nat) : Nat :=
  2 ^ 32 * min controlling controlled + 2 * max controlling controlled +
    (if controlled < controlling then 1 else 0)

/-- What the order of the pairs looks at, in this order. -/
def pairRank (controlling controlled : Nat) : Nat ×ₗ Nat ×ₗ Bool :=
  toLex (min controlling controlled,
    toLex (max controlling controlled, decide (controlled < controlling)))

theorem rfc8445Priority_lt {g d : Nat} (boundG : g < 2 ^ 31) (boundD : d < 2 ^ 31) :
    rfc8445Priority g d < 2 ^ 64 := by
  rw [rfc8445Priority]
  split_ifs <;> omega

theorem rfc8445Priority_le_iff {g d g' d' : Nat} (boundG : g < 2 ^ 31) (boundD : d < 2 ^ 31)
    (boundG' : g' < 2 ^ 31) (boundD' : d' < 2 ^ 31) :
    rfc8445Priority g d ≤ rfc8445Priority g' d' ↔ pairRank g d ≤ pairRank g' d' := by
  rw [pairRank, pairRank, Prod.Lex.toLex_le_toLex, Prod.Lex.toLex_le_toLex, rfc8445Priority,
    rfc8445Priority, Bool.le_iff_imp]
  simp only [decide_eq_true_eq]
  split_ifs <;> omega

namespace CandidatePair

/-- The three words that `pair_priority` combines. -/
def minField (controlling controlled : UInt32) : UInt64 :=
  (min controlling.toUInt64 controlled.toUInt64) <<< 32

def maxField (controlling controlled : UInt32) : UInt64 :=
  (max controlling.toUInt64 controlled.toUInt64) <<< 1

def tieField (controlling controlled : UInt32) : UInt64 :=
  if controlled.toUInt64 < controlling.toUInt64 then 1 else 0

theorem pairPriority_controlling (g d : UInt32) :
    pairPriority g d .controlling = minField g d ||| maxField g d ||| tieField g d := rfl

/-- The controlled agent knows the two priorities the other way round. -/
theorem pairPriority_controlled (g d : UInt32) :
    pairPriority d g .controlled = pairPriority g d .controlling := rfl

section Fields

variable {g d : UInt32} (boundG : g.toNat < 2 ^ 31) (boundD : d.toNat < 2 ^ 31)

include boundG in
theorem toNat_minField : (minField g d).toNat = 2 ^ 32 * min g.toNat d.toNat := by
  have shift : (32 : UInt64).toNat % 64 = 32 := rfl
  rw [minField, UInt64.toNat_shiftLeft, shift, UInt64.toNat_min, UInt32.toNat_toUInt64,
    UInt32.toNat_toUInt64, Nat.shiftLeft_eq, Nat.mod_eq_of_lt (by omega)]
  exact Nat.mul_comm _ _

include boundG boundD in
theorem toNat_maxField : (maxField g d).toNat = 2 * max g.toNat d.toNat := by
  have shift : (1 : UInt64).toNat % 64 = 1 := rfl
  rw [maxField, UInt64.toNat_shiftLeft, shift, UInt64.toNat_max, UInt32.toNat_toUInt64,
    UInt32.toNat_toUInt64, Nat.shiftLeft_eq, Nat.mod_eq_of_lt (by omega)]
  exact Nat.mul_comm _ _

theorem toNat_tieField : (tieField g d).toNat = if d.toNat < g.toNat then 1 else 0 := by
  have sameTest : d.toUInt64 < g.toUInt64 ↔ d.toNat < g.toNat := by
    rw [UInt64.lt_iff_toNat_lt, UInt32.toNat_toUInt64, UInt32.toNat_toUInt64]
  rw [tieField, apply_ite UInt64.toNat]
  exact if_congr sameTest rfl rfl

/-- A multiple of a power of two shares no bit with what is below the power. -/
private theorem two_pow_mul_and_eq_zero {exponent low : Nat} (below : low < 2 ^ exponent)
    (high : Nat) : 2 ^ exponent * high &&& low = 0 := by
  have quotient : (2 ^ exponent * high &&& low) / 2 ^ exponent = 0 := by
    rw [Nat.and_div_two_pow, Nat.div_eq_of_lt below, Nat.and_zero]
  have remainder : (2 ^ exponent * high &&& low) % 2 ^ exponent = 0 := by
    rw [Nat.and_mod_two_pow, Nat.mul_mod_right, Nat.zero_and]
  rw [← Nat.div_add_mod (2 ^ exponent * high &&& low) (2 ^ exponent), quotient, remainder,
    Nat.mul_zero]

/-- No part of the word overlaps another. -/
structure FieldsApart (g d : UInt32) : Prop where
  minMax : minField g d &&& maxField g d = 0
  minTie : minField g d &&& tieField g d = 0
  maxTie : maxField g d &&& tieField g d = 0

include boundG boundD in
theorem fieldsApart : FieldsApart g d := by
  have tie : (tieField g d).toNat < 2 ^ 1 := by
    rw [toNat_tieField]
    split <;> omega
  constructor
  · apply UInt64.toNat_inj.mp
    rw [UInt64.toNat_and, toNat_minField boundG, toNat_maxField boundG boundD]
    exact two_pow_mul_and_eq_zero (by omega) _
  · apply UInt64.toNat_inj.mp
    rw [UInt64.toNat_and, toNat_minField boundG]
    exact two_pow_mul_and_eq_zero (by omega) _
  · apply UInt64.toNat_inj.mp
    rw [UInt64.toNat_and, toNat_maxField boundG boundD]
    exact two_pow_mul_and_eq_zero tie _

include boundG boundD in
theorem toNat_pairPriority :
    (pairPriority g d .controlling).toNat = rfc8445Priority g.toNat d.toNat := by
  have tie : (tieField g d).toNat < 2 ^ 1 := by
    rw [toNat_tieField]
    split <;> omega
  have lower : (maxField g d ||| tieField g d).toNat =
      2 * max g.toNat d.toNat + (tieField g d).toNat := by
    rw [UInt64.toNat_or, toNat_maxField boundG boundD]
    exact (Nat.two_pow_add_eq_or_of_lt tie (max g.toNat d.toNat)).symm
  have below : (maxField g d ||| tieField g d).toNat < 2 ^ 32 := by
    omega
  rw [pairPriority_controlling, UInt64.or_assoc, UInt64.toNat_or, toNat_minField boundG,
    ← Nat.two_pow_add_eq_or_of_lt below, lower, toNat_tieField, rfc8445Priority]
  exact (Nat.add_assoc _ _ _).symm

end Fields

end CandidatePair

/-! ### The two agents -/

def sameFamily (left right : List Candidate) : List (Candidate × Candidate) :=
  (left ×ˢ right).filter fun pair => pair.1.addr.isIpv4 == pair.2.addr.isIpv4

/-- The candidates of the other side against those of this side, turned round. -/
theorem sameFamily_swap_perm (left right : List Candidate) :
    ((sameFamily right left).map Prod.swap).Perm (sameFamily left right) := by
  have swapped : ((right ×ˢ left).map Prod.swap).Perm (left ×ˢ right) := by
    apply Multiset.coe_eq_coe.mp
    rw [← Multiset.map_coe, ← Multiset.coe_product, ← Multiset.coe_product]
    exact Multiset.map_swap_product _ _
  have kept := swapped.filter fun pair => pair.1.addr.isIpv4 == pair.2.addr.isIpv4
  rw [List.filter_map] at kept
  have sameTest : ((fun pair : Candidate × Candidate =>
      pair.1.addr.isIpv4 == pair.2.addr.isIpv4) ∘ Prod.swap) =
      fun pair => pair.1.addr.isIpv4 == pair.2.addr.isIpv4 := by
    funext pair
    exact Bool.beq_comm
  rw [sameTest] at kept
  exact kept

namespace IceAgent

/-- An agent that was given its own candidates one by one and those of the other
side at once, after `form_check_list`. -/
def prepared (role : IceRole) (own other : List Candidate) : IceAgent :=
  ((own.foldl addLocalCandidate (new role)).setRemoteCandidates other).formCheckList

theorem foldl_addLocalCandidate (own : List Candidate) (agent : IceAgent) :
    own.foldl addLocalCandidate agent =
      { agent with localCands := agent.localCands ++ own } := by
  induction own generalizing agent with
  | nil => rw [List.foldl_nil, List.append_nil]
  | cons first rest ih =>
      rw [List.foldl_cons, ih, addLocalCandidate]
      simp only [List.append_assoc, List.singleton_append]

theorem formPairs_eq (agent : IceAgent) :
    agent.formPairs = (sameFamily agent.localCands agent.remoteCands).map
      fun pair => CandidatePair.new pair.1 pair.2 agent.role := by
  rw [formPairs, sameFamily]
  induction agent.localCands with
  | nil => rfl
  | cons first rest ih =>
      rw [List.flatMap_cons, ih, List.product_cons, List.filter_append, List.map_append,
        List.filter_map, List.map_map]
      rfl

theorem prepared_perm (role : IceRole) (own other : List Candidate) :
    (prepared role own other).checkList.Perm
      ((sameFamily own other).map fun pair => CandidatePair.new pair.1 pair.2 role) := by
  have sorted := List.perm_insertionSort (fun a b : CandidatePair => b.priority ≤ a.priority)
    ((own.foldl addLocalCandidate (new role)).setRemoteCandidates other).formPairs
  rw [formPairs_eq, foldl_addLocalCandidate] at sorted
  rw [prepared, formCheckList, formPairs_eq, foldl_addLocalCandidate]
  exact sorted

def Sorted (checkList : List CandidatePair) : Prop :=
  checkList.Pairwise fun earlier later => later.priority ≤ earlier.priority

theorem prepared_sorted (role : IceRole) (own other : List Candidate) :
    Sorted (prepared role own other).checkList := by
  have total : Std.Total (fun a b : CandidatePair => b.priority ≤ a.priority) :=
    ⟨fun a b => UInt64.le_total b.priority a.priority⟩
  have transitive : IsTrans CandidatePair (fun a b => b.priority ≤ a.priority) :=
    ⟨fun _ _ _ first second => UInt64.le_trans second first⟩
  exact List.pairwise_insertionSort _ _

/-- Two sorted check lists with the same priorities have them in the same order. -/
theorem Sorted.map_priority_eq {first second : List CandidatePair} (sortedFirst : Sorted first)
    (sortedSecond : Sorted second)
    (same : (first.map CandidatePair.priority).Perm (second.map CandidatePair.priority)) :
    first.map CandidatePair.priority = second.map CandidatePair.priority := by
  have antisymmetric : ∀ a b : UInt64, a ∈ first.map CandidatePair.priority →
      b ∈ second.map CandidatePair.priority → b ≤ a → a ≤ b → a = b :=
    fun a b _ _ below above => UInt64.le_antisymm above below
  exact List.Perm.eq_of_pairwise antisymmetric (List.pairwise_map.mpr sortedFirst)
    (List.pairwise_map.mpr sortedSecond) same

/-- The pairs of the controlled agent, named from the controlling side. -/
theorem prepared_controlled_perm (own other : List Candidate) :
    (prepared .controlled other own).checkList.Perm
      ((sameFamily own other).map fun pair => CandidatePair.new pair.2 pair.1 .controlled) := by
  have turned := (sameFamily_swap_perm own other).map
    fun pair => CandidatePair.new pair.2 pair.1 .controlled
  rw [List.map_map] at turned
  exact (prepared_perm .controlled other own).trans turned

/-- What the two agents agree on for the candidates `own` of the controlling and
`other` of the controlled side. -/
structure RankAlike (own other : List Candidate) : Prop where
  candidateValue : ∀ candidate, candidate ∈ own ++ other → ∃ candType localPref,
    candidate.MadeWith candType localPref ∧ Candidate.priorityValue candType localPref < 2 ^ 32 ∧
      candidate.priority.toNat = Candidate.priorityValue candType localPref
  controllingPairs : (prepared .controlling own other).checkList.Perm
    ((sameFamily own other).map fun pair => CandidatePair.new pair.1 pair.2 .controlling)
  controlledPairs : (prepared .controlled other own).checkList.Perm
    ((sameFamily own other).map fun pair => CandidatePair.new pair.2 pair.1 .controlled)
  controllingSorted : Sorted (prepared .controlling own other).checkList
  controlledSorted : Sorted (prepared .controlled other own).checkList
  samePriority : ∀ l, l ∈ own → ∀ r, r ∈ other →
    (CandidatePair.new r l .controlled).priority = (CandidatePair.new l r .controlling).priority
  rfcPriority : ∀ l, l ∈ own → ∀ r, r ∈ other →
    rfc8445Priority l.priority.toNat r.priority.toNat < 2 ^ 64 ∧
      (CandidatePair.new l r .controlling).priority.toNat =
        rfc8445Priority l.priority.toNat r.priority.toNat
  fieldValues : ∀ l, l ∈ own → ∀ r, r ∈ other →
    (CandidatePair.new l r .controlling).priority =
        CandidatePair.minField l.priority r.priority |||
          CandidatePair.maxField l.priority r.priority |||
          CandidatePair.tieField l.priority r.priority ∧
      (CandidatePair.minField l.priority r.priority).toNat =
        2 ^ 32 * min l.priority.toNat r.priority.toNat ∧
      (CandidatePair.maxField l.priority r.priority).toNat =
        2 * max l.priority.toNat r.priority.toNat
  fieldsApart : ∀ l, l ∈ own → ∀ r, r ∈ other →
    CandidatePair.FieldsApart l.priority r.priority
  lexicographic : ∀ l, l ∈ own → ∀ r, r ∈ other → ∀ l', l' ∈ own → ∀ r', r' ∈ other →
    ((CandidatePair.new l r .controlling).priority ≤ (CandidatePair.new l' r' .controlling).priority
      ↔ pairRank l.priority.toNat r.priority.toNat ≤
        pairRank l'.priority.toNat r'.priority.toNat)
  sameSequence : (prepared .controlling own other).checkList.map CandidatePair.priority =
    (prepared .controlled other own).checkList.map CandidatePair.priority

/-- Both agents check the same pairs in the same order of priorities. -/
theorem agents_rank_alike (own other : List Candidate)
    (made : ∀ candidate, candidate ∈ own ++ other → candidate.Made) : RankAlike own other := by
  have boundOwn : ∀ l, l ∈ own → l.priority.toNat < 2 ^ 31 :=
    fun l member => (made l (List.mem_append_left other member)).toNat_priority_lt
  have boundOther : ∀ r, r ∈ other → r.priority.toNat < 2 ^ 31 :=
    fun r member => (made r (List.mem_append_right own member)).toNat_priority_lt
  have value : ∀ l, l ∈ own → ∀ r, r ∈ other →
      (CandidatePair.new l r .controlling).priority.toNat =
        rfc8445Priority l.priority.toNat r.priority.toNat :=
    fun l memberL r memberR =>
      CandidatePair.toNat_pairPriority (boundOwn l memberL) (boundOther r memberR)
  constructor
  case candidateValue =>
    intro candidate member
    obtain ⟨candType, localPref, madeWith⟩ := made candidate member
    have small := Candidate.priorityValue_lt candType madeWith.1
    exact ⟨candType, localPref, madeWith, by omega, madeWith.toNat_priority⟩
  case controllingPairs => exact prepared_perm .controlling own other
  case controlledPairs => exact prepared_controlled_perm own other
  case controllingSorted => exact prepared_sorted .controlling own other
  case controlledSorted => exact prepared_sorted .controlled other own
  case samePriority =>
    intro l _ r _
    exact CandidatePair.pairPriority_controlled l.priority r.priority
  case rfcPriority =>
    intro l memberL r memberR
    exact ⟨rfc8445Priority_lt (boundOwn l memberL) (boundOther r memberR),
      value l memberL r memberR⟩
  case fieldValues =>
    intro l memberL r memberR
    exact ⟨CandidatePair.pairPriority_controlling l.priority r.priority,
      CandidatePair.toNat_minField (boundOwn l memberL),
      CandidatePair.toNat_maxField (boundOwn l memberL) (boundOther r memberR)⟩
  case fieldsApart =>
    intro l memberL r memberR
    exact CandidatePair.fieldsApart (boundOwn l memberL) (boundOther r memberR)
  case lexicographic =>
    intro l memberL r memberR l' memberL' r' memberR'
    rw [UInt64.le_iff_toNat_le, value l memberL r memberR, value l' memberL' r' memberR']
    exact rfc8445Priority_le_iff (boundOwn l memberL) (boundOther r memberR)
      (boundOwn l' memberL') (boundOther r' memberR')
  case sameSequence =>
    apply (prepared_sorted .controlling own other).map_priority_eq
      (prepared_sorted .controlled other own)
    have controlling :=
      (prepared_perm .controlling own other).map CandidatePair.priority
    have controlled := (prepared_controlled_perm own other).map CandidatePair.priority
    rw [List.map_map] at controlling controlled
    exact controlling.trans controlled.symm

/-- A host and a relayed candidate against a server-reflexive one. -/
theorem agents_rank_alike_host :
    RankAlike
      [Candidate.new .host (.v4 0x7f000001 5000) 65535, Candidate.new .relayed (.v4 1 6000) 0]
      [Candidate.new .serverReflexive (.v4 2 7000) 7] := by
  apply agents_rank_alike
  intro candidate member
  rcases List.mem_cons.mp member with rfl | member
  · exact Candidate.made_new .host _ (Nat.le_refl 65535)
  · rcases List.mem_cons.mp member with rfl | member
    · exact Candidate.made_new .relayed _ (Nat.zero_le 65535)
    · rcases List.mem_cons.mp member with rfl | member
      · exact Candidate.made_new .serverReflexive _ (Nat.le_of_ble_eq_true rfl)
      · cases member

end IceAgent

end Udpix.Traversal

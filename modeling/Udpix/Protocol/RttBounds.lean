/-
The round-trip estimators over any number of samples.

Both filters truncate, so an estimate may fall below every sample: each of the
two divisions loses at most seven eighths, which the filter carries on, and the
losses add up to less than fifteen.  The products come before the divisions;
they are written with their checks here, and so is the signed difference.
-/

import Udpix.Library.Fallible
import Udpix.Protocol.Session
import Mathlib.Data.List.Induction

namespace Udpix.Protocol

open Fallible

inductive RttFault where
  | product
  | sum
  | difference
deriving DecidableEq

def checkedU64 (fault : RttFault) (value : Nat) : Except RttFault Nat :=
  if value < 2 ^ 64 then .ok value else .error fault

/-- `value as i64`, which wraps. -/
def asI64 (value : Nat) : Int := (BitVec.ofNat 64 value).toInt

def deviationChecked (srttUs rttUs : Nat) : Except RttFault Nat :=
  let difference := asI64 srttUs - asI64 rttUs
  if -2 ^ 63 ≤ difference ∧ difference < 2 ^ 63 then .ok difference.natAbs
  else .error .difference

namespace SessionStats

def updateRttChecked (stats : SessionStats) (rttUs : Nat) : Except RttFault SessionStats :=
  if stats.srttUs = 0 then .ok { stats with srttUs := rttUs, rttvarUs := rttUs / 2 }
  else do
    let deviation ← deviationChecked stats.srttUs rttUs
    let rttvarTimes ← checkedU64 .product (3 * stats.rttvarUs)
    let newRttvar ← checkedU64 .sum (rttvarTimes / 4 + deviation / 4)
    let srttTimes ← checkedU64 .product (7 * stats.srttUs)
    let newSrtt ← checkedU64 .sum (srttTimes / 8 + rttUs / 8)
    .ok { stats with srttUs := newSrtt, rttvarUs := newRttvar }

def rtoChecked (stats : SessionStats) : Except RttFault Duration := do
  let rttvarTimes ← checkedU64 .product (4 * stats.rttvarUs)
  let rtoUs := min (stats.srttUs + rttvarTimes) (2 ^ 64 - 1)
  .ok (Duration.fromMicros (min (max rtoUs 200000) 10000000))

def sampled (samples : List Nat) : SessionStats := samples.foldl updateRtt new

def pongSamples (pongs : List (Nat × Nat)) : List Nat :=
  pongs.filterMap fun pong => if pong.2 ≤ pong.1 then some (pong.1 - pong.2) else none

theorem foldl_handlePong (stats : SessionStats) (pongs : List (Nat × Nat)) :
    pongs.foldl (fun current pong => handlePong current pong.1 pong.2) stats =
      (pongSamples pongs).foldl updateRtt stats := by
  induction pongs generalizing stats with
  | nil => rfl
  | cons pong rest ih =>
      rw [List.foldl_cons, ih, handlePong]
      by_cases past : pong.2 ≤ pong.1
      · have taken : pongSamples (pong :: rest) = (pong.1 - pong.2) :: pongSamples rest := by
          rw [pongSamples, List.filterMap_cons, if_pos past]
          rfl
        rw [taken, if_pos past, List.foldl_cons]
      · have dropped : pongSamples (pong :: rest) = pongSamples rest := by
          rw [pongSamples, List.filterMap_cons, if_neg past]
          rfl
        rw [dropped, if_neg past]

/-! ### One sample -/

structure Below (high : Nat) (stats : SessionStats) : Prop where
  srtt : stats.srttUs ≤ high
  rttvar : stats.rttvarUs ≤ high

/-- The smoothed time lies at most fourteen below the smallest sample. -/
def Above (low : Nat) (stats : SessionStats) : Prop := low ≤ stats.srttUs + 14

theorem Below.updateRtt {high rttUs : Nat} {stats : SessionStats} (below : Below high stats)
    (sample : rttUs ≤ high) : Below high (stats.updateRtt rttUs) := by
  obtain ⟨srtt, rttvar⟩ := below
  unfold SessionStats.updateRtt
  split
  · exact ⟨sample, Nat.le_trans (Nat.div_le_self rttUs 2) sample⟩
  · constructor
    · dsimp only
      omega
    · dsimp only
      omega

/-- A sample restarts the filter at zero and moves it otherwise. -/
theorem above_updateRtt {low rttUs : Nat} {stats : SessionStats}
    (before : stats.srttUs = 0 ∨ Above low stats) (sample : low ≤ rttUs) :
    Above low (stats.updateRtt rttUs) := by
  unfold Above SessionStats.updateRtt
  split
  · dsimp only
    omega
  · rename_i started
    have above : low ≤ stats.srttUs + 14 := before.resolve_left started
    dsimp only
    omega

theorem checkedU64_of_lt {fault : RttFault} {value : Nat} (fits : value < 2 ^ 64) :
    checkedU64 fault value = .ok value :=
  if_pos fits

theorem asI64_of_lt {value : Nat} (fits : value < 2 ^ 63) : asI64 value = value := by
  have small : value % 2 ^ 64 = value := Nat.mod_eq_of_lt (by omega)
  rw [asI64, BitVec.toInt_eq_toNat_of_lt] <;> rw [BitVec.toNat_ofNat, small]
  omega

theorem deviationChecked_eq {srttUs rttUs : Nat} (srttFits : srttUs < 2 ^ 63)
    (rttFits : rttUs < 2 ^ 63) :
    deviationChecked srttUs rttUs = .ok ((srttUs : Int) - (rttUs : Int)).natAbs := by
  unfold deviationChecked
  rw [asI64_of_lt srttFits, asI64_of_lt rttFits]
  exact if_pos (by omega)

theorem Below.updateRttChecked_eq {high rttUs : Nat} {stats : SessionStats}
    (below : Below high stats) (room : 8 * high < 2 ^ 64) (sample : rttUs ≤ high) :
    stats.updateRttChecked rttUs = .ok (stats.updateRtt rttUs) := by
  obtain ⟨srtt, rttvar⟩ := below
  unfold updateRttChecked SessionStats.updateRtt
  split
  · rfl
  · rw [deviationChecked_eq (by omega) (by omega), ok_bind, checkedU64_of_lt (by omega), ok_bind,
      checkedU64_of_lt (by omega), ok_bind, checkedU64_of_lt (by omega), ok_bind,
      checkedU64_of_lt (by omega), ok_bind]

theorem Below.rtoChecked_eq {high : Nat} {stats : SessionStats} (below : Below high stats)
    (room : 8 * high < 2 ^ 64) : stats.rtoChecked = .ok stats.rto := by
  have rttvar := below.rttvar
  unfold rtoChecked rto
  rw [checkedU64_of_lt (by omega)]
  rfl

theorem rto_clamped (stats : SessionStats) :
    Duration.fromMillis 200 ≤ stats.rto ∧ stats.rto ≤ Duration.fromSecs 10 := by
  have clamped (rtoUs : Nat) : 200 * 1000000 ≤ min (max rtoUs 200000) 10000000 * 1000 ∧
      min (max rtoUs 200000) 10000000 * 1000 ≤ 10 * 1000000000 := by omega
  exact clamped _

/-! ### Every sequence of samples -/

theorem sampled_snoc (samples : List Nat) (rttUs : Nat) :
    sampled (samples ++ [rttUs]) = (sampled samples).updateRtt rttUs := by
  rw [sampled, List.foldl_append]
  rfl

theorem below_sampled {high : Nat} (large : 5000 ≤ high) (samples : List Nat)
    (within : ∀ rttUs, rttUs ∈ samples → rttUs ≤ high) : Below high (sampled samples) := by
  induction samples using List.reverseRecOn with
  | nil => exact ⟨Nat.zero_le high, large⟩
  | append_singleton samples rttUs ih =>
      rw [sampled_snoc]
      have before := ih (fun other member => within other (List.mem_append_left _ member))
      exact before.updateRtt (within rttUs (List.mem_append_right _ List.mem_cons_self))

theorem above_sampled {low : Nat} (samples : List Nat)
    (within : ∀ rttUs, rttUs ∈ samples → low ≤ rttUs) (nonempty : samples ≠ []) :
    Above low (sampled samples) := by
  induction samples using List.reverseRecOn with
  | nil => exact absurd rfl nonempty
  | append_singleton samples rttUs ih =>
      rw [sampled_snoc]
      apply above_updateRtt _ (within rttUs (List.mem_append_right _ List.mem_cons_self))
      by_cases first : samples = []
      · rw [first]
        exact Or.inl rfl
      · exact Or.inr (ih (fun other member => within other (List.mem_append_left _ member)) first)

theorem sampledChecked_eq {high : Nat} (large : 5000 ≤ high) (room : 8 * high < 2 ^ 64)
    (samples : List Nat) (within : ∀ rttUs, rttUs ∈ samples → rttUs ≤ high) :
    samples.foldlM updateRttChecked new = .ok (sampled samples) := by
  induction samples using List.reverseRecOn with
  | nil => rfl
  | append_singleton samples rttUs ih =>
      have earlier : ∀ other, other ∈ samples → other ≤ high :=
        fun other member => within other (List.mem_append_left _ member)
      rw [foldlM_snoc, ih earlier, sampled_snoc]
      exact (below_sampled large samples earlier).updateRttChecked_eq room
        (within rttUs (List.mem_append_right _ List.mem_cons_self))

/-- What the estimates are after a sequence of samples between two bounds. -/
structure Estimates (low high : Nat) (samples : List Nat) : Prop where
  srtt : samples ≠ [] →
    (low : Int) - 14 ≤ (sampled samples).srttUs ∧ (sampled samples).srttUs ≤ high
  rttvar : (sampled samples).rttvarUs ≤ high
  noOverflow : samples.foldlM updateRttChecked new = .ok (sampled samples) ∧
    (sampled samples).rtoChecked = .ok (sampled samples).rto
  noSaturation : (sampled samples).srttUs + 4 * (sampled samples).rttvarUs < 2 ^ 64
  rto : Duration.fromMillis 200 ≤ (sampled samples).rto ∧
    (sampled samples).rto ≤ Duration.fromSecs 10

/-- Samples between two bounds keep the estimates there, up to fourteen
microseconds, and every product and sum within 64 bits. -/
theorem estimates_of_samples (low high : Nat) (room : 8 * high < 2 ^ 64) (large : 5000 ≤ high)
    (samples : List Nat) (within : ∀ rttUs, rttUs ∈ samples → low ≤ rttUs ∧ rttUs ≤ high) :
    Estimates low high samples := by
  have small : ∀ rttUs, rttUs ∈ samples → rttUs ≤ high :=
    fun rttUs member => (within rttUs member).2
  have below := below_sampled large samples small
  constructor
  · intro nonempty
    have above := above_sampled samples (fun rttUs member => (within rttUs member).1) nonempty
    unfold Above at above
    exact ⟨by omega, below.srtt⟩
  · exact below.rttvar
  · exact ⟨sampledChecked_eq large room samples small, below.rtoChecked_eq room⟩
  · have srtt := below.srtt
    have rttvar := below.rttvar
    omega
  · exact rto_clamped (sampled samples)

/-- A first PONG after 20 ms and one after 5 ms. -/
theorem estimates_of_samples_pongs :
    Estimates 5000 20000 (pongSamples [(30000, 10000), (40000, 50000), (65000, 60000)]) := by
  apply estimates_of_samples
  · decide
  · decide
  · decide

end SessionStats

end Udpix.Protocol

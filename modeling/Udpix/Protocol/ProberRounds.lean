/-
Which rate a probing round commits to.

The probe timer compares the delivered fractions of the steps, never what a
step delivered: a step counts for its rate times its fraction only in the
comparison made here.  The round is read off the calls of the run.
-/

import Udpix.Protocol.Prober

namespace Udpix.Protocol

open FirstMax

/-- The calls of each step of the round that is open after a run, the step in
progress last. -/
def roundSteps (start : Instant) (events : List ProberEvent) : List (List ProberEvent) :=
  let history := (RoundHistory.follow (BandwidthProfiler.new start) events).2
  history.closed ++ [history.current]

/-- `min(1, acked / sent)` of a step of the round, zero for an idle one. -/
def deliveredFraction (round : List (List ProberEvent)) (index : Nat) : ℚ :=
  stepGoodput (round.getD index [])

/-- The goodput of a step: its rate times its delivered fraction. -/
def stepDelivery (round : List (List ProberEvent)) (index : Nat) : ℚ :=
  (probeStepBps index : ℚ) * deliveredFraction round index

/-- The rate is that of a step of the round, and no step of it delivered more. -/
def CommitsBest (round : List (List ProberEvent)) (rateBps : Nat) : Prop :=
  ∃ place, place < round.length ∧ rateBps = probeStepBps place ∧
    ∀ other, other < round.length → stepDelivery round other ≤ stepDelivery round place

/-- The earliest step with the largest delivered fraction of the round. -/
structure FirstFullest (round : List (List ProberEvent)) (first : Nat) : Prop where
  inside : first < round.length
  upper : ∀ other, other < round.length →
    deliveredFraction round other ≤ deliveredFraction round first
  before : ∀ earlier, earlier < first →
    deliveredFraction round earlier < deliveredFraction round first

/-- After the earliest step with the largest fraction, a higher rate never makes
up for the lower fraction. -/
def PeaksAtFullest (round : List (List ProberEvent)) : Prop :=
  ∀ first later, FirstFullest round first → first < later → later < round.length →
    stepDelivery round later ≤ stepDelivery round first

theorem FirstFullest.unique {round : List (List ProberEvent)} {first second : Nat}
    (left : FirstFullest round first) (right : FirstFullest round second) : first = second := by
  rcases Nat.lt_trichotomy first second with below | same | above
  · exact absurd (right.before first below) (not_lt_of_ge (left.upper second right.inside))
  · exact same
  · exact absurd (left.before second above) (not_lt_of_ge (right.upper first left.inside))

/-! ### The table of rates -/

theorem probeStepBps_strictMonoOn :
    StrictMonoOn probeStepBps (Set.Iio PROBE_STEPS_BPS.length) := by
  have increasing : PROBE_STEPS_BPS.Pairwise (· < ·) := by decide
  intro low lowInside high highInside below
  rw [probeStepBps, probeStepBps, List.getD_eq_getElem _ _ lowInside,
    List.getD_eq_getElem _ _ highInside]
  exact List.pairwise_iff_getElem.mp increasing low high lowInside highInside below

theorem stepGoodput_nonneg (step : List ProberEvent) : 0 ≤ stepGoodput step := by
  unfold stepGoodput ProbeResult.goodputRatio
  split
  · exact le_refl 0
  · exact BandwidthProfiler.cappedRatio_nonneg _ _

/-- Before the fullest step both factors are smaller. -/
theorem FirstFullest.stepDelivery_before {round : List (List ProberEvent)} {first : Nat}
    (fullest : FirstFullest round first) (short : round.length ≤ PROBE_STEPS_BPS.length)
    {earlier : Nat} (below : earlier < first) :
    stepDelivery round earlier ≤ stepDelivery round first := by
  have inside : first < PROBE_STEPS_BPS.length := Nat.lt_of_lt_of_le fullest.inside short
  have rate : (probeStepBps earlier : ℚ) ≤ probeStepBps first :=
    Nat.cast_le.mpr (Nat.le_of_lt
      (probeStepBps_strictMonoOn (Nat.lt_trans below inside) inside below))
  exact mul_le_mul rate (le_of_lt (fullest.before earlier below)) (stepGoodput_nonneg _)
    (Nat.cast_nonneg _)

theorem commitsBest_fullest_iff {round : List (List ProberEvent)} {first : Nat}
    (fullest : FirstFullest round first) (short : round.length ≤ PROBE_STEPS_BPS.length) :
    CommitsBest round (probeStepBps first) ↔ PeaksAtFullest round := by
  constructor
  · rintro ⟨place, inside, same, most⟩ other later otherFullest _ laterInside
    have placed : first = place := probeStepBps_strictMonoOn.injOn
      (Nat.lt_of_lt_of_le fullest.inside short) (Nat.lt_of_lt_of_le inside short) same
    rw [otherFullest.unique fullest, placed]
    exact most later laterInside
  · intro peaks
    refine ⟨first, fullest.inside, rfl, ?_⟩
    intro other otherInside
    rcases Nat.lt_trichotomy other first with below | same | above
    · exact fullest.stepDelivery_before short below
    · rw [same]
    · exact peaks first other fullest above otherInside

/-! ### What the timer commits to -/

theorem firstFullest_of_isFirstMax (round : List (List ProberEvent)) (best : ℚ) (place : Nat)
    (nonempty : round ≠ []) (record : IsFirstMax 0 (round.map stepGoodput) best place) :
    FirstFullest round place := by
  have fraction (index : Nat) (inside : index < round.length) :
      (round.map stepGoodput)[index]? = some (deliveredFraction round index) := by
    rw [List.getElem?_map, List.getElem?_eq_getElem inside, deliveredFraction,
      List.getD_eq_getElem _ _ inside]
    rfl
  have above : ∀ value, value ∈ round.map stepGoodput → 0 ≤ value := by
    intro value member
    obtain ⟨step, _, rfl⟩ := List.mem_map.mp member
    exact stepGoodput_nonneg step
  have placed := record.getElem?_place (by simpa using nonempty) above
  have inside : place < round.length := by
    simpa using (List.getElem?_eq_some_iff.mp placed).1
  have attained : best = deliveredFraction round place :=
    Option.some.inj (placed.symm.trans (fraction place inside))
  refine ⟨inside, ?_, ?_⟩
  · intro other otherInside
    rw [← attained]
    exact record.upper _ (List.mem_of_getElem? (fraction other otherInside))
  · intro earlier before
    rw [← attained]
    exact record.lt_of_before before (fraction earlier (Nat.lt_trans before inside))

namespace BandwidthProfiler

/-- A round that ends commits to its fullest step. -/
theorem settles_at_fullest (start : Instant) (events : List ProberEvent) (now : Instant)
    (rateBps : Nat) (probing : ((new start).run events).Probing)
    (settles : ((new start).run (events ++ [.evaluate now])).phase = .steady rateBps) :
    (roundSteps start events).length ≤ PROBE_STEPS_BPS.length ∧
      ∃ first, FirstFullest (roundSteps start events) first ∧ rateBps = probeStepBps first := by
  have tracks := tracks_run start events
  rw [run_snoc] at settles
  have due : ((new start).run events).effective (.evaluate now) = true := by
    by_contra idle
    obtain ⟨index, phase⟩ := probing
    rw [apply_evaluate_early _ now (Bool.eq_false_iff.mpr idle), phase] at settles
    cases settles
  rcases apply_evaluate_cases _ now due with
    ⟨_, _, _, _, after⟩ | ⟨index, _, phase, after⟩ | ⟨_, steady, _⟩ | ⟨throttled, _⟩
  · rw [after] at settles
    cases settles
  · rw [after] at settles
    cases settles
    obtain ⟨place, record, rate⟩ := tracks.best index phase
    obtain ⟨inside, closedLength⟩ := tracks.index index phase
    have ratio : ((new start).run events).stepResult.goodputRatio =
        stepGoodput (RoundHistory.follow (new start) events).2.current := by
      rw [stepResult, stepGoodput, tracks.sent, tracks.acked]
    obtain ⟨first, grown, committed⟩ := isFirstMax_trackBest _ _
      ((new start).run events).stepResult.goodputRatio place record rate
    rw [List.length_map, closedLength] at grown committed
    rw [ratio, ← List.map_singleton, ← List.map_append] at grown
    refine ⟨?_, first, firstFullest_of_isFirstMax _ _ _ ?_ grown, committed⟩
    · rw [roundSteps, List.length_append, closedLength, List.length_singleton]
      exact inside
    · exact List.append_ne_nil_of_right_ne_nil _ (List.cons_ne_nil _ _)
  · obtain ⟨index, phase⟩ := probing
    exact ProberPhase.noConfusion (phase.symm.trans steady)
  · obtain ⟨index, phase⟩ := probing
    exact ProberPhase.noConfusion (phase.symm.trans throttled)

/-- The timer ends a round on a step of largest goodput exactly when no step
after the first one with the largest delivered fraction overtakes it. -/
theorem commitsBest_iff_peaksAtFullest (start : Instant) (events : List ProberEvent)
    (now : Instant) (rateBps : Nat) (probing : ((new start).run events).Probing)
    (settles : ((new start).run (events ++ [.evaluate now])).phase = .steady rateBps) :
    CommitsBest (roundSteps start events) rateBps ↔
      PeaksAtFullest (roundSteps start events) := by
  obtain ⟨short, first, fullest, rate⟩ :=
    settles_at_fullest start events now rateBps probing settles
  rw [rate]
  exact commitsBest_fullest_iff fullest short

/-- A link that drops most of the second step: the first one is the best. -/
theorem commitsBest_of_collapsing_link :
    CommitsBest (roundSteps 0 [.sent 100, .acked 0 100, .evaluate 500000000, .sent 100,
      .acked 500000000 10]) 10000000 := by
  refine (commitsBest_iff_peaksAtFullest 0 _ 1000000000 _ ⟨1, by decide +kernel⟩
    (by decide +kernel)).mpr ?_
  intro first later _ below inside
  have two : later < 2 := Nat.lt_of_lt_of_eq inside (by decide +kernel)
  obtain ⟨rfl, rfl⟩ : first = 0 ∧ later = 1 := by omega
  decide +kernel

/-- On a link that delivers everything the lowest rate is committed. -/
theorem settles_at_first_of_lossless (start : Instant) (events : List ProberEvent)
    (now : Instant) (rateBps : Nat) (probing : ((new start).run events).Probing)
    (settles : ((new start).run (events ++ [.evaluate now])).phase = .steady rateBps)
    (lossless : ∀ index, index < (roundSteps start events).length →
      deliveredFraction (roundSteps start events) index = 1) :
    rateBps = probeStepBps 0 := by
  obtain ⟨_, first, fullest, rate⟩ :=
    settles_at_fullest start events now rateBps probing settles
  have atStart : first = 0 := by
    by_contra later
    have before := fullest.before 0 (Nat.pos_of_ne_zero later)
    rw [lossless 0 (Nat.lt_of_le_of_lt (Nat.zero_le first) fullest.inside),
      lossless first fullest.inside] at before
    exact lt_irrefl _ before
  rw [rate, atStart]

/-- A full round in which every step delivers everything: 10 Mbps is committed
although 2 Gbps was probed. -/
theorem commitsBest_fails_on_lossless_round :
    ¬ ∀ (start : Instant) (events : List ProberEvent) (now : Instant) (rateBps : Nat),
      ((new start).run events).Probing →
      ((new start).run (events ++ [.evaluate now])).phase = .steady rateBps →
      CommitsBest (roundSteps start events) rateBps := by
  intro holds
  obtain ⟨place, inside, rate, most⟩ := holds 0
    ((List.range 6).flatMap (fun step =>
        [.sent 1000, .acked (step * 500000000) 1000, .evaluate ((step + 1) * 500000000)]) ++
      [.sent 1000, .acked 3000000000 1000])
    3500000000 10000000 ⟨6, by decide +kernel⟩ (by decide +kernel)
  have lowest : place = 0 := probeStepBps_strictMonoOn.injOn
    (Nat.lt_of_lt_of_le inside (by decide +kernel)) (Nat.zero_lt_succ 6) rate.symm
  have highest := most 6 (by decide +kernel)
  rw [lowest] at highest
  exact absurd highest (by decide +kernel)

end BandwidthProfiler

end Udpix.Protocol

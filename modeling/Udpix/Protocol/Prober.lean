/-
The bandwidth prober over whole runs.

A run is any interleaving of the three calls, at any times.  Beside the prober
a history keeps the calls of the current step and of the closed steps of the
current probing round; what the prober believes about its rates is compared
with that history.
-/

import Udpix.Library.FirstMax
import Udpix.Library.Unwinding
import Udpix.Protocol.Congestion
import Mathlib.Data.List.Induction
import Mathlib.Tactic.Linarith

namespace Udpix.Protocol

open FirstMax Unwinding

inductive ProberEvent where
  | sent (bytes : Nat)
  | acked (now : Instant) (bytes : Nat)
  | evaluate (now : Instant)
deriving DecidableEq

namespace BandwidthProfiler

def apply (profiler : BandwidthProfiler) : ProberEvent → BandwidthProfiler
  | .sent bytes => profiler.onBytesSent bytes
  | .acked now bytes => (profiler.onBytesAcked now bytes).1
  | .evaluate now => (profiler.evaluateProbe now).1

def run (profiler : BandwidthProfiler) (events : List ProberEvent) : BandwidthProfiler :=
  events.foldl apply profiler

theorem run_snoc (profiler : BandwidthProfiler) (events : List ProberEvent)
    (event : ProberEvent) :
    profiler.run (events ++ [event]) = (profiler.run events).apply event := by
  rw [run, List.foldl_append]
  rfl

/-- A call of the probe timer that finds the step to have lasted long enough. -/
def effective (profiler : BandwidthProfiler) : ProberEvent → Bool
  | .evaluate now =>
      decide (¬ Instant.elapsed now profiler.stepStart / 1000000 < PROBE_STEP_MS)
  | _ => false

/-! ### What each call does -/

/-- The prober once `bytes` more are acknowledged, before the throttle check. -/
def countAcked (profiler : BandwidthProfiler) (bytes : Nat) : BandwidthProfiler :=
  { profiler with
    stepBytesAcked := profiler.stepBytesAcked + bytes
    lossEma := profiler.lossAfterAck bytes }

theorem onBytesAcked_throttled (profiler : BandwidthProfiler) (now : Instant) (bytes : Nat)
    (lossy : THROTTLE_LOSS_THRESHOLD < profiler.lossAfterAck bytes)
    (fresh : profiler.phase ≠ .throttling) :
    (profiler.onBytesAcked now bytes).1 =
      { profiler.countAcked bytes with phase := .throttling }.resetStepCounters now := by
  simp only [onBytesAcked, lossy, if_true, enterThrottle, fresh, if_false]
  rfl

theorem onBytesAcked_counted (profiler : BandwidthProfiler) (now : Instant) (bytes : Nat)
    (quiet : ¬ (THROTTLE_LOSS_THRESHOLD < profiler.lossAfterAck bytes ∧
      profiler.phase ≠ .throttling)) :
    (profiler.onBytesAcked now bytes).1 = profiler.countAcked bytes := by
  by_cases lossy : THROTTLE_LOSS_THRESHOLD < profiler.lossAfterAck bytes
  · have already : profiler.phase = .throttling := by
      by_contra fresh
      exact quiet ⟨lossy, fresh⟩
    simp only [onBytesAcked, countAcked, lossy, if_true, enterThrottle, already]
  · simp only [onBytesAcked, lossy, if_false]
    rfl

def stepResult (profiler : BandwidthProfiler) : ProbeResult :=
  { bytesSent := profiler.stepBytesSent, bytesAcked := profiler.stepBytesAcked }

def closeStep (profiler : BandwidthProfiler) (now : Instant) (index : Nat)
    (results : List ProbeResult) (phase : ProberPhase) : BandwidthProfiler :=
  { profiler.trackBest index profiler.stepResult.goodputRatio with
    probeResults := results
    phase := phase }.resetStepCounters now

theorem evaluateProbing_cases (profiler : BandwidthProfiler) (now : Instant) (index : Nat) :
    ∃ results,
      (index + 1 < PROBE_STEPS_BPS.length ∧
        (profiler.evaluateProbing now index).1 =
          profiler.closeStep now index results (.probing (index + 1))) ∨
      (profiler.evaluateProbing now index).1 =
        profiler.closeStep now index results
          (.steady (profiler.trackBest index profiler.stepResult.goodputRatio).bestRateBps) := by
  refine ⟨(profiler.trackBest index profiler.stepResult.goodputRatio).probeResults.set index
    profiler.stepResult, ?_⟩
  unfold evaluateProbing
  dsimp only
  split
  · exact Or.inr rfl
  · rename_i goOn
    exact Or.inl ⟨by omega, rfl⟩

theorem apply_evaluate_cases (profiler : BandwidthProfiler) (now : Instant)
    (due : profiler.effective (.evaluate now) = true) :
    (∃ index results, profiler.phase = .probing index ∧ index + 1 < PROBE_STEPS_BPS.length ∧
      profiler.apply (.evaluate now) =
        profiler.closeStep now index results (.probing (index + 1))) ∨
    (∃ index results, profiler.phase = .probing index ∧
      profiler.apply (.evaluate now) =
        profiler.closeStep now index results
          (.steady (profiler.trackBest index profiler.stepResult.goodputRatio).bestRateBps)) ∨
    (∃ rateBps, profiler.phase = .steady rateBps ∧
      profiler.apply (.evaluate now) = (profiler.evaluateSteady now rateBps).1) ∨
    (profiler.phase = .throttling ∧
      profiler.apply (.evaluate now) = (profiler.evaluateThrottling now).1) := by
  have lasted : ¬ Instant.elapsed now profiler.stepStart / 1000000 < PROBE_STEP_MS :=
    of_decide_eq_true due
  cases phase : profiler.phase with
  | probing index =>
      have after : profiler.apply (.evaluate now) = (profiler.evaluateProbing now index).1 := by
        simp only [apply, evaluateProbe, lasted, if_false, phase]
      obtain ⟨results, ⟨inside, next⟩ | settled⟩ := evaluateProbing_cases profiler now index
      · exact Or.inl ⟨index, results, rfl, inside, after.trans next⟩
      · exact Or.inr (Or.inl ⟨index, results, rfl, after.trans settled⟩)
  | steady rateBps =>
      refine Or.inr (Or.inr (Or.inl ⟨rateBps, rfl, ?_⟩))
      simp only [apply, evaluateProbe, lasted, if_false, phase]
  | throttling =>
      refine Or.inr (Or.inr (Or.inr ⟨rfl, ?_⟩))
      simp only [apply, evaluateProbe, lasted, if_false, phase]

theorem apply_evaluate_early (profiler : BandwidthProfiler) (now : Instant)
    (early : profiler.effective (.evaluate now) = false) :
    profiler.apply (.evaluate now) = profiler := by
  have short : Instant.elapsed now profiler.stepStart / 1000000 < PROBE_STEP_MS :=
    Decidable.not_not.mp (of_decide_eq_false early)
  simp only [apply, evaluateProbe, short, if_true]

/-! ### The smoothed loss -/

theorem cappedRatio_nonneg (acked sent : Nat) : 0 ≤ cappedRatio acked sent :=
  le_min (div_nonneg (Nat.cast_nonneg acked) (Nat.cast_nonneg sent)) zero_le_one

theorem cappedRatio_le_one (acked sent : Nat) : cappedRatio acked sent ≤ 1 :=
  min_le_right _ _

theorem lossAfterAck_mem (profiler : BandwidthProfiler) (bytes : Nat)
    (low : 0 ≤ profiler.lossEma) (high : profiler.lossEma ≤ 1) :
    0 ≤ profiler.lossAfterAck bytes ∧ profiler.lossAfterAck bytes ≤ 1 := by
  unfold lossAfterAck
  split
  · have ratioLow := cappedRatio_nonneg (profiler.stepBytesAcked + bytes) profiler.stepBytesSent
    have ratioHigh := cappedRatio_le_one (profiler.stepBytesAcked + bytes) profiler.stepBytesSent
    dsimp only
    constructor <;> linarith
  · exact ⟨low, high⟩

end BandwidthProfiler

/-! ### The steps of a round -/

def sentIn : List ProberEvent → Nat
  | [] => 0
  | .sent bytes :: rest => bytes + sentIn rest
  | _ :: rest => sentIn rest

def ackedIn : List ProberEvent → Nat
  | [] => 0
  | .acked _ bytes :: rest => bytes + ackedIn rest
  | _ :: rest => ackedIn rest

theorem sentIn_append (first second : List ProberEvent) :
    sentIn (first ++ second) = sentIn first + sentIn second := by
  induction first with
  | nil => exact (Nat.zero_add _).symm
  | cons event rest ih =>
      cases event <;> simp only [List.cons_append, sentIn, ih, Nat.add_assoc]

theorem ackedIn_append (first second : List ProberEvent) :
    ackedIn (first ++ second) = ackedIn first + ackedIn second := by
  induction first with
  | nil => exact (Nat.zero_add _).symm
  | cons event rest ih =>
      cases event <;> simp only [List.cons_append, ackedIn, ih, Nat.add_assoc]

/-- The calls of the closed steps of the current probing round, oldest step
first, and those since the counters were last cleared. -/
structure RoundHistory where
  closed : List (List ProberEvent)
  current : List ProberEvent

namespace RoundHistory

def start : RoundHistory := { closed := [], current := [] }

/-- One more call, made in the state `before`. -/
def observe (history : RoundHistory) (before : BandwidthProfiler) (event : ProberEvent) :
    RoundHistory :=
  let after := before.apply event
  if before.effective event then
    match before.phase, after.phase with
    | .probing _, .probing _ =>
        { closed := history.closed ++ [history.current], current := [] }
    | _, _ => start
  else if before.phase ≠ .throttling ∧ after.phase = .throttling then start
  else { history with current := history.current ++ [event] }

def follow (before : BandwidthProfiler) (events : List ProberEvent) :
    BandwidthProfiler × RoundHistory :=
  events.foldl (fun state event => (state.1.apply event, state.2.observe state.1 event))
    (before, start)

theorem follow_snoc (before : BandwidthProfiler) (events : List ProberEvent)
    (event : ProberEvent) :
    follow before (events ++ [event]) =
      ((follow before events).1.apply event,
        (follow before events).2.observe (follow before events).1 event) := by
  rw [follow, List.foldl_append]
  rfl

theorem follow_fst (before : BandwidthProfiler) (events : List ProberEvent) :
    (follow before events).1 = before.run events := by
  induction events using List.reverseRecOn with
  | nil => rfl
  | append_singleton events event ih =>
      rw [follow_snoc, BandwidthProfiler.run_snoc, ih]

end RoundHistory

/-- The goodput ratio of a step: capped at one, and zero for an idle step. -/
def stepGoodput (step : List ProberEvent) : ℚ :=
  ProbeResult.goodputRatio { bytesSent := sentIn step, bytesAcked := ackedIn step }

namespace BandwidthProfiler

/-- What holds of a prober and its history, for one way of measuring a step. -/
structure Tracks (measure : List ProberEvent → ℚ) (profiler : BandwidthProfiler)
    (history : RoundHistory) : Prop where
  sent : profiler.stepBytesSent = sentIn history.current
  acked : profiler.stepBytesAcked = ackedIn history.current
  inTable : profiler.RateInTable
  lossLow : 0 ≤ profiler.lossEma
  lossHigh : profiler.lossEma ≤ 1
  lossCalm : profiler.lossEma ≤ THROTTLE_LOSS_THRESHOLD ∨ profiler.phase = .throttling
  index : ∀ stepIndex, profiler.phase = .probing stepIndex →
    stepIndex < PROBE_STEPS_BPS.length ∧ history.closed.length = stepIndex
  best : ∀ stepIndex, profiler.phase = .probing stepIndex → ∃ place,
    IsFirstMax 0 (history.closed.map measure) profiler.bestGoodput place ∧
      profiler.bestRateBps = probeStepBps place
  committed : ∀ rateBps, profiler.phase = .steady rateBps → rateBps = profiler.bestRateBps

variable {profiler : BandwidthProfiler} {history : RoundHistory}

theorem tracks_new (start : Instant) : Tracks stepGoodput (new start) RoundHistory.start where
  sent := rfl
  acked := rfl
  inTable := rateInTable_new start
  lossLow := le_refl 0
  lossHigh := zero_le_one
  lossCalm := Or.inl (by norm_num [new, THROTTLE_LOSS_THRESHOLD])
  index := by
    intro stepIndex probing
    cases probing
    exact ⟨by decide, rfl⟩
  best := by
    intro stepIndex _
    exact ⟨0, isFirstMax_nil 0, rfl⟩
  committed := by
    intro rateBps steady
    cases steady

theorem Tracks.onBytesSent (tracks : Tracks stepGoodput profiler history) (bytes : Nat) :
    Tracks stepGoodput (profiler.apply (.sent bytes)) (history.observe profiler (.sent bytes)) := by
  have observed : history.observe profiler (.sent bytes) =
      { history with current := history.current ++ [.sent bytes] } := by
    unfold RoundHistory.observe
    rw [if_neg (by simp [effective])]
    exact if_neg (fun changed => changed.1 changed.2)
  rw [observed]
  refine ⟨?_, ?_, tracks.inTable, tracks.lossLow, tracks.lossHigh, tracks.lossCalm,
    tracks.index, tracks.best, tracks.committed⟩
  · change profiler.stepBytesSent + bytes = _
    rw [sentIn_append, tracks.sent]
    rfl
  · change profiler.stepBytesAcked = _
    rw [ackedIn_append, tracks.acked]
    rfl

theorem Tracks.onBytesAcked (tracks : Tracks stepGoodput profiler history) (now : Instant)
    (bytes : Nat) :
    Tracks stepGoodput (profiler.apply (.acked now bytes))
      (history.observe profiler (.acked now bytes)) := by
  obtain ⟨lossLow, lossHigh⟩ := lossAfterAck_mem profiler bytes tracks.lossLow tracks.lossHigh
  have inTable := rateInTable_onBytesAcked profiler now bytes tracks.inTable
  by_cases changes : THROTTLE_LOSS_THRESHOLD < profiler.lossAfterAck bytes ∧
      profiler.phase ≠ .throttling
  · have after : profiler.apply (.acked now bytes) = _ :=
      onBytesAcked_throttled profiler now bytes changes.1 changes.2
    have observed : history.observe profiler (.acked now bytes) = RoundHistory.start := by
      unfold RoundHistory.observe
      rw [if_neg (by simp [effective])]
      exact if_pos ⟨changes.2, by rw [after]; rfl⟩
    rw [observed]
    change (profiler.apply (.acked now bytes)).RateInTable at inTable
    rw [after] at inTable ⊢
    exact ⟨rfl, rfl, inTable, lossLow, lossHigh, Or.inr rfl, (fun _ probing => nomatch probing),
      (fun _ probing => nomatch probing), (fun _ steady => nomatch steady)⟩
  · have after : profiler.apply (.acked now bytes) = profiler.countAcked bytes :=
      onBytesAcked_counted profiler now bytes changes
    have observed : history.observe profiler (.acked now bytes) =
        { history with current := history.current ++ [.acked now bytes] } := by
      unfold RoundHistory.observe
      rw [if_neg (by simp [effective])]
      refine if_neg (fun entered => entered.1 ?_)
      rw [← entered.2, after]
      rfl
    change (profiler.apply (.acked now bytes)).RateInTable at inTable
    rw [after] at inTable
    rw [observed, after]
    refine ⟨?_, ?_, inTable, lossLow, lossHigh, ?_, tracks.index, tracks.best,
      tracks.committed⟩
    · change profiler.stepBytesSent = _
      rw [sentIn_append, tracks.sent]
      rfl
    · change profiler.stepBytesAcked + bytes = _
      rw [ackedIn_append, tracks.acked]
      rfl
    · by_cases lossy : THROTTLE_LOSS_THRESHOLD < profiler.lossAfterAck bytes
      · right
        by_contra fresh
        exact changes ⟨lossy, fresh⟩
      · exact Or.inl (le_of_not_gt lossy)

/-- A round that starts anew knows nothing yet. -/
theorem tracks_restarted (now : Instant) (results : List ProbeResult) (loss : ℚ)
    (lossLow : 0 ≤ loss) (lossCalm : loss ≤ THROTTLE_LOSS_THRESHOLD) :
    Tracks stepGoodput { new now with probeResults := results, lossEma := loss }
      RoundHistory.start := by
  have fresh := tracks_new now
  have small : THROTTLE_LOSS_THRESHOLD ≤ 1 := by norm_num [THROTTLE_LOSS_THRESHOLD]
  exact ⟨fresh.sent, fresh.acked, fresh.inTable, lossLow, le_trans lossCalm small,
    Or.inl lossCalm, fresh.index, fresh.best, fresh.committed⟩

theorem isFirstMax_trackBest (profiler : BandwidthProfiler) (ratios : List ℚ) (ratio : ℚ)
    (place : Nat) (record : IsFirstMax 0 ratios profiler.bestGoodput place)
    (rate : profiler.bestRateBps = probeStepBps place) :
    ∃ place, IsFirstMax 0 (ratios ++ [ratio])
        (profiler.trackBest ratios.length ratio).bestGoodput place ∧
      (profiler.trackBest ratios.length ratio).bestRateBps = probeStepBps place := by
  unfold trackBest
  split
  · rename_i larger
    exact ⟨ratios.length, record.snoc_larger ratio larger, rfl⟩
  · rename_i notLarger
    exact ⟨place, record.snoc_not_larger ratio notLarger, rate⟩

theorem trackBest_lossEma (profiler : BandwidthProfiler) (index : Nat) (ratio : ℚ) :
    (profiler.trackBest index ratio).lossEma = profiler.lossEma := by
  unfold trackBest
  split <;> rfl

theorem Tracks.calm (tracks : Tracks stepGoodput profiler history)
    (fresh : profiler.phase ≠ .throttling) : profiler.lossEma ≤ THROTTLE_LOSS_THRESHOLD :=
  tracks.lossCalm.resolve_right fresh

theorem Tracks.advanced (tracks : Tracks stepGoodput profiler history) (now : Instant)
    (index : Nat) (results : List ProbeResult) (phase : profiler.phase = .probing index)
    (inside : index + 1 < PROBE_STEPS_BPS.length)
    (inTable : (profiler.closeStep now index results (.probing (index + 1))).RateInTable) :
    Tracks stepGoodput (profiler.closeStep now index results (.probing (index + 1)))
      { closed := history.closed ++ [history.current], current := [] } := by
  have calm := tracks.calm (by rw [phase]; exact ProberPhase.noConfusion)
  obtain ⟨place, record, rate⟩ := tracks.best index phase
  obtain ⟨_, closedLength⟩ := tracks.index index phase
  have ratio : profiler.stepResult.goodputRatio = stepGoodput history.current := by
    rw [stepResult, stepGoodput, tracks.sent, tracks.acked]
  have lossKept : (profiler.closeStep now index results (.probing (index + 1))).lossEma =
      profiler.lossEma := trackBest_lossEma profiler index _
  refine ⟨rfl, rfl, inTable, ?_, ?_, Or.inl ?_, ?_, ?_, (fun _ steady => nomatch steady)⟩
  · exact lossKept ▸ tracks.lossLow
  · exact lossKept ▸ tracks.lossHigh
  · exact lossKept ▸ calm
  · intro stepIndex probing
    cases probing
    exact ⟨inside, by rw [List.length_append, closedLength, List.length_singleton]⟩
  · intro stepIndex _
    have grown := isFirstMax_trackBest profiler _ profiler.stepResult.goodputRatio place record
      rate
    rw [List.length_map, closedLength] at grown
    rw [List.map_append, List.map_singleton, ← ratio]
    exact grown

theorem Tracks.settled (tracks : Tracks stepGoodput profiler history) (now : Instant)
    (index rateBps : Nat) (results : List ProbeResult) (phase : profiler.phase = .probing index)
    (committed : rateBps =
      (profiler.trackBest index profiler.stepResult.goodputRatio).bestRateBps)
    (inTable : (profiler.closeStep now index results (.steady rateBps)).RateInTable) :
    Tracks stepGoodput (profiler.closeStep now index results (.steady rateBps))
      RoundHistory.start := by
  have calm := tracks.calm (by rw [phase]; exact ProberPhase.noConfusion)
  have lossKept : (profiler.closeStep now index results (.steady rateBps)).lossEma =
      profiler.lossEma := trackBest_lossEma profiler index _
  refine ⟨rfl, rfl, inTable, ?_, ?_, Or.inl ?_, (fun _ probing => nomatch probing),
    (fun _ probing => nomatch probing), ?_⟩
  · exact lossKept ▸ tracks.lossLow
  · exact lossKept ▸ tracks.lossHigh
  · exact lossKept ▸ calm
  · intro other steady
    cases steady
    exact committed

theorem Tracks.evaluateSteady (tracks : Tracks stepGoodput profiler history) (now : Instant)
    (rateBps : Nat) (phase : profiler.phase = .steady rateBps) :
    Tracks stepGoodput (profiler.evaluateSteady now rateBps).1 RoundHistory.start := by
  have calm := tracks.calm (by rw [phase]; exact ProberPhase.noConfusion)
  unfold BandwidthProfiler.evaluateSteady
  split
  · exact tracks_restarted now profiler.probeResults profiler.lossEma tracks.lossLow calm
  · refine ⟨rfl, rfl, tracks.inTable, tracks.lossLow, tracks.lossHigh, tracks.lossCalm, ?_, ?_,
      tracks.committed⟩
    · intro stepIndex probing
      exact ProberPhase.noConfusion (phase.symm.trans probing)
    · intro stepIndex probing
      exact ProberPhase.noConfusion (phase.symm.trans probing)

theorem observe_effective (history : RoundHistory) (profiler : BandwidthProfiler)
    (event : ProberEvent) (due : profiler.effective event = true) :
    history.observe profiler event =
      match profiler.phase, (profiler.apply event).phase with
      | .probing _, .probing _ =>
          { closed := history.closed ++ [history.current], current := [] }
      | _, _ => RoundHistory.start :=
  if_pos due

theorem Tracks.evaluateProbe (tracks : Tracks stepGoodput profiler history) (now : Instant) :
    Tracks stepGoodput (profiler.apply (.evaluate now))
      (history.observe profiler (.evaluate now)) := by
  cases due : profiler.effective (.evaluate now) with
  | false =>
      have same := apply_evaluate_early profiler now due
      have observed : history.observe profiler (.evaluate now) =
          { history with current := history.current ++ [.evaluate now] } := by
        unfold RoundHistory.observe
        rw [if_neg (by rw [due]; exact Bool.false_ne_true), same]
        exact if_neg (fun changed => changed.1 changed.2)
      rw [observed, same]
      refine ⟨?_, ?_, tracks.inTable, tracks.lossLow, tracks.lossHigh, tracks.lossCalm,
        tracks.index, tracks.best, tracks.committed⟩
      · rw [sentIn_append, tracks.sent]
        rfl
      · rw [ackedIn_append, tracks.acked]
        rfl
  | true =>
      have inTable : (profiler.apply (.evaluate now)).RateInTable :=
        rateInTable_evaluateProbe profiler now tracks.inTable
      rw [observe_effective history profiler _ due]
      rcases apply_evaluate_cases profiler now due with
        ⟨index, results, phase, inside, after⟩ | ⟨index, results, phase, after⟩ |
          ⟨rateBps, phase, after⟩ | ⟨phase, after⟩
      · rw [after] at inTable ⊢
        rw [phase]
        exact tracks.advanced now index results phase inside inTable
      · rw [after] at inTable ⊢
        rw [phase]
        exact tracks.settled now index _ results phase rfl inTable
      · rw [after, phase]
        exact tracks.evaluateSteady now rateBps phase
      · rw [after, phase]
        exact tracks_restarted now profiler.probeResults 0 (le_refl 0)
          (by norm_num [THROTTLE_LOSS_THRESHOLD])

theorem Tracks.apply (tracks : Tracks stepGoodput profiler history) (event : ProberEvent) :
    Tracks stepGoodput (profiler.apply event) (history.observe profiler event) := by
  cases event with
  | sent bytes => exact tracks.onBytesSent bytes
  | acked now bytes => exact tracks.onBytesAcked now bytes
  | evaluate now => exact tracks.evaluateProbe now

theorem tracks_run (start : Instant) (events : List ProberEvent) :
    Tracks stepGoodput ((new start).run events) (RoundHistory.follow (new start) events).2 := by
  induction events using List.reverseRecOn with
  | nil => exact tracks_new start
  | append_singleton events event ih =>
      rw [run_snoc, RoundHistory.follow_snoc, RoundHistory.follow_fst]
      exact ih.apply event

/-! ### The length of a round -/

def Probing (profiler : BandwidthProfiler) : Prop := ∃ index, profiler.phase = .probing index

/-- The calls of the timer that were effective where they happened. -/
def effectiveCalls (profiler : BandwidthProfiler) : List ProberEvent → Nat
  | [] => 0
  | event :: rest =>
      (if profiler.effective event then 1 else 0) + (profiler.apply event).effectiveCalls rest

theorem apply_phase_of_not_effective (profiler : BandwidthProfiler) (event : ProberEvent)
    (idle : profiler.effective event = false) :
    (profiler.apply event).phase = profiler.phase ∨
      (profiler.apply event).phase = .throttling := by
  cases event with
  | sent bytes => exact Or.inl rfl
  | acked now bytes =>
      rcases onBytesAcked_cases profiler now bytes with ⟨_, throttled⟩ | ⟨_, same⟩
      · exact Or.inr throttled
      · exact Or.inl same
  | evaluate now => exact Or.inl (by rw [apply_evaluate_early profiler now idle])

theorem eq_nil_of_not_probing (profiler : BandwidthProfiler) (events : List ProberEvent)
    (inRound : EachStep apply (fun state _ => state.Probing) profiler events)
    (left : ¬ profiler.Probing) : events = [] := by
  cases events with
  | nil => rfl
  | cons event rest => exact absurd inRound.1 left

/-- From step `index` on, a round has at most the remaining steps to close. -/
theorem effectiveCalls_le (profiler : BandwidthProfiler) (index : Nat)
    (phase : profiler.phase = .probing index) (inside : index < PROBE_STEPS_BPS.length)
    (events : List ProberEvent)
    (inRound : EachStep apply (fun state _ => state.Probing) profiler events) :
    profiler.effectiveCalls events ≤ PROBE_STEPS_BPS.length - index := by
  induction events generalizing profiler index with
  | nil => exact Nat.zero_le _
  | cons event rest ih =>
      obtain ⟨_, restInRound⟩ := inRound
      -- once the phase is another one, the round has no further call
      have ended : ¬ (profiler.apply event).Probing →
          (profiler.apply event).effectiveCalls rest = 0 := by
        intro left
        rw [eq_nil_of_not_probing _ rest restInRound left]
        rfl
      rw [effectiveCalls]
      cases due : profiler.effective event with
      | false =>
          rw [if_neg Bool.false_ne_true, Nat.zero_add]
          rcases apply_phase_of_not_effective profiler event due with same | throttled
          · exact ih _ index (same.trans phase) inside restInRound
          · rw [ended (fun ⟨_, probing⟩ => nomatch throttled.symm.trans probing)]
            exact Nat.zero_le _
      | true =>
          rw [if_pos rfl]
          cases event with
          | sent bytes => cases due
          | acked now bytes => cases due
          | evaluate now =>
              rcases apply_evaluate_cases profiler now due with
                ⟨step, _, atStep, more, after⟩ | ⟨_, _, _, after⟩ |
                  ⟨_, steady, _⟩ | ⟨throttled, _⟩
              · cases phase.symm.trans atStep
                have later := ih _ (index + 1) (by rw [after]; rfl) more restInRound
                omega
              · obtain ⟨rateBps, settled⟩ : ∃ rateBps,
                    (profiler.apply (.evaluate now)).phase = .steady rateBps :=
                  ⟨_, congrArg BandwidthProfiler.phase after⟩
                rw [ended (fun ⟨_, probing⟩ => nomatch settled.symm.trans probing)]
                omega
              · cases phase.symm.trans steady
              · cases phase.symm.trans throttled

/-! ### The invariant of a run -/

/-- The state after a run, with the ratio of a step measured by `measure`. -/
structure RunInvariant (measure : List ProberEvent → ℚ) (start : Instant)
    (events : List ProberEvent) : Prop where
  stepIndex : ∀ index, ((new start).run events).phase = .probing index → index ≤ 6
  rate : ((new start).run events).bestRateBps ∈ PROBE_STEPS_BPS
  loss : 0 ≤ ((new start).run events).lossEma ∧ ((new start).run events).lossEma ≤ 1
  throttled : ((new start).run events).lossEma ≤ 3 / 10 ∨
    ((new start).run events).phase = .throttling
  best : ∀ index, ((new start).run events).phase = .probing index →
    (RoundHistory.follow (new start) events).2.closed.length = index ∧
      ∃ place, IsFirstMax 0 ((RoundHistory.follow (new start) events).2.closed.map measure)
          ((new start).run events).bestGoodput place ∧
        ((new start).run events).bestRateBps = probeStepBps place
  steady : ∀ rateBps, ((new start).run events).phase = .steady rateBps →
    rateBps = ((new start).run events).bestRateBps
  round : ∀ more, EachStep apply (fun state _ => state.Probing) ((new start).run events) more →
    ((new start).run events).effectiveCalls more ≤ 7

/-- Every run keeps the invariant, with the goodput of a step capped at one. -/
theorem runInvariant_goodput (start : Instant) (events : List ProberEvent) :
    RunInvariant stepGoodput start events := by
  have tracks := tracks_run start events
  refine ⟨?_, tracks.inTable.1, ⟨tracks.lossLow, tracks.lossHigh⟩, tracks.lossCalm, ?_,
    tracks.committed, ?_⟩
  · intro index probing
    exact Nat.le_of_lt_succ (tracks.index index probing).1
  · intro index probing
    exact ⟨(tracks.index index probing).2, tracks.best index probing⟩
  · intro more inRound
    by_cases probing : ((new start).run events).Probing
    · obtain ⟨index, phase⟩ := probing
      have few := effectiveCalls_le _ index phase (tracks.index index phase).1 more inRound
      exact Nat.le_trans few (Nat.sub_le 7 index)
    · rw [eq_nil_of_not_probing _ more inRound probing]
      exact Nat.zero_le 7

/-- Acknowledgements of earlier bytes can exceed what a step sent; the recorded
goodput is then one, below the plain ratio. -/
theorem runInvariant_plainRatio_fails :
    ¬ ∀ start events,
      RunInvariant (fun step => (ackedIn step : ℚ) / (sentIn step : ℚ)) start events := by
  intro plain
  obtain ⟨_, place, record, _⟩ :=
    (plain 0 [.sent 1, .acked 0 2, .evaluate 500000000]).best 1 (by decide +kernel)
  have ratio := record.upper 2 (by
    have closed : (RoundHistory.follow (new 0)
        [.sent 1, .acked 0 2, .evaluate 500000000]).2.closed = [[.sent 1, .acked 0 2]] := by
      decide +kernel
    rw [closed]
    norm_num [ackedIn, sentIn])
  have recorded : ((new 0).run [.sent 1, .acked 0 2, .evaluate 500000000]).bestGoodput = 1 := by
    decide +kernel
  rw [recorded] at ratio
  norm_num at ratio

end BandwidthProfiler

end Udpix.Protocol

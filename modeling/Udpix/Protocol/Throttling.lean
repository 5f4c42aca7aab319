/-
When the prober falls back to its floor rate.

A byte that is not acknowledged yet counts as lost in every acknowledgement
that arrives before its own, until the step ends.  The ledger below restates a
run in terms of the calls alone: the shares of unacknowledged bytes that the
acknowledgements saw, newest first.  Their weighted average decides.
-/

import Udpix.Protocol.Prober
import Mathlib.Algebra.BigOperators.Intervals
import Mathlib.Algebra.BigOperators.Ring.Finset
import Mathlib.Tactic.Ring

namespace Udpix.Protocol

open BandwidthProfiler

/-- The bytes of the current step, when it began, and the unacknowledged share
seen by each acknowledgement so far, newest first. -/
structure StepLedger where
  sent : Nat
  acked : Nat
  stepStart : Instant
  shares : List ℚ

namespace StepLedger

def new (start : Instant) : StepLedger :=
  { sent := 0, acked := 0, stepStart := start, shares := [] }

/-- Take in one call.  An acknowledgement in a step that sent nothing yet sees
no share; a timer call ends the step once it lasted long enough. -/
def record (ledger : StepLedger) : ProberEvent → StepLedger
  | .sent bytes => { ledger with sent := ledger.sent + bytes }
  | .acked _ bytes =>
      { ledger with
        acked := ledger.acked + bytes
        shares :=
          if 0 < ledger.sent then
            (1 - cappedRatio (ledger.acked + bytes) ledger.sent) :: ledger.shares
          else ledger.shares }
  | .evaluate now =>
      if Instant.elapsed now ledger.stepStart / 1000000 < PROBE_STEP_MS then ledger
      else { ledger with sent := 0, acked := 0, stepStart := now }

def after (start : Instant) (events : List ProberEvent) : StepLedger :=
  events.foldl record (new start)

theorem after_snoc (start : Instant) (events : List ProberEvent) (event : ProberEvent) :
    after start (events ++ [event]) = (after start events).record event := by
  rw [after, List.foldl_append]
  rfl

end StepLedger

/-- The average of the shares, newest first, where each counts four fifths of
the one after it. -/
def recentAverage (shares : List ℚ) : ℚ :=
  ∑ age ∈ Finset.range shares.length, 1 / 5 * (4 / 5) ^ age * shares.getD age 0

theorem recentAverage_cons (share : ℚ) (earlier : List ℚ) :
    recentAverage (share :: earlier) = 4 / 5 * recentAverage earlier + 1 / 5 * share := by
  rw [recentAverage, List.length_cons, Finset.sum_range_succ', recentAverage, Finset.mul_sum]
  congr 1
  · apply Finset.sum_congr rfl
    intro age _
    rw [List.getD_cons_succ]
    ring
  · rw [List.getD_cons_zero, pow_zero, mul_one]

namespace BandwidthProfiler

structure Matches (profiler : BandwidthProfiler) (ledger : StepLedger) : Prop where
  sent : profiler.stepBytesSent = ledger.sent
  acked : profiler.stepBytesAcked = ledger.acked
  stepStart : profiler.stepStart = ledger.stepStart
  loss : profiler.lossEma = recentAverage ledger.shares

variable {profiler : BandwidthProfiler} {ledger : StepLedger}

theorem Matches.lossAfterAck (agree : profiler.Matches ledger) (now : Instant) (bytes : Nat) :
    profiler.lossAfterAck bytes = recentAverage (ledger.record (.acked now bytes)).shares := by
  simp only [BandwidthProfiler.lossAfterAck, StepLedger.record, agree.sent, agree.acked, agree.loss]
  split
  · rw [recentAverage_cons]
  · rfl

theorem Matches.apply (agree : profiler.Matches ledger) (event : ProberEvent)
    (fresh : profiler.phase ≠ .throttling) (stays : (profiler.apply event).phase ≠ .throttling) :
    (profiler.apply event).Matches (ledger.record event) := by
  cases event with
  | sent bytes =>
      refine ⟨?_, agree.acked, agree.stepStart, agree.loss⟩
      change profiler.stepBytesSent + bytes = ledger.sent + bytes
      rw [agree.sent]
  | acked now bytes =>
      have counted : profiler.apply (.acked now bytes) = profiler.countAcked bytes := by
        apply onBytesAcked_counted
        rintro ⟨lossy, _⟩
        apply stays
        change (profiler.onBytesAcked now bytes).1.phase = .throttling
        rw [onBytesAcked_throttled profiler now bytes lossy fresh]
        rfl
      rw [counted]
      refine ⟨agree.sent, ?_, agree.stepStart, agree.lossAfterAck now bytes⟩
      change profiler.stepBytesAcked + bytes = ledger.acked + bytes
      rw [agree.acked]
  | evaluate now =>
      cases due : profiler.effective (.evaluate now) with
      | false =>
          have short : Instant.elapsed now ledger.stepStart / 1000000 < PROBE_STEP_MS := by
            rw [← agree.stepStart]
            exact Decidable.not_not.mp (of_decide_eq_false due)
          rw [apply_evaluate_early profiler now due]
          simp only [StepLedger.record, short, if_true]
          exact agree
      | true =>
          have lasted : ¬ Instant.elapsed now ledger.stepStart / 1000000 < PROBE_STEP_MS := by
            rw [← agree.stepStart]
            exact of_decide_eq_true due
          simp only [StepLedger.record, lasted, if_false]
          -- every way to end a step outside throttling keeps the smoothed loss
          rcases apply_evaluate_cases profiler now due with
            ⟨index, results, _, _, after⟩ | ⟨index, results, _, after⟩ |
              ⟨rateBps, _, after⟩ | ⟨throttled, _⟩
          · rw [after]
            exact ⟨rfl, rfl, rfl, (trackBest_lossEma profiler index _).trans agree.loss⟩
          · rw [after]
            exact ⟨rfl, rfl, rfl, (trackBest_lossEma profiler index _).trans agree.loss⟩
          · rw [after, evaluateSteady]
            split
            · exact ⟨rfl, rfl, rfl, agree.loss⟩
            · exact ⟨rfl, rfl, rfl, agree.loss⟩
          · exact absurd throttled fresh

/-- Only an acknowledgement that lifts the average over the threshold enters
throttling. -/
theorem Matches.stays (agree : profiler.Matches ledger) (event : ProberEvent)
    (fresh : profiler.phase ≠ .throttling)
    (low : recentAverage (ledger.record event).shares ≤ 3 / 10) :
    (profiler.apply event).phase ≠ .throttling := by
  cases event with
  | sent bytes => exact fresh
  | acked now bytes =>
      rcases onBytesAcked_cases profiler now bytes with ⟨lossy, _⟩ | ⟨_, same⟩
      · rw [agree.lossAfterAck now bytes] at lossy
        exact absurd lossy (not_lt_of_ge low)
      · intro throttled
        exact fresh (same.symm.trans throttled)
  | evaluate now =>
      cases due : profiler.effective (.evaluate now) with
      | false =>
          rw [apply_evaluate_early profiler now due]
          exact fresh
      | true =>
          rcases apply_evaluate_cases profiler now due with
            ⟨index, results, _, _, after⟩ | ⟨index, results, _, after⟩ |
              ⟨rateBps, steady, after⟩ | ⟨throttled, _⟩
          · rw [after]
            exact ProberPhase.noConfusion
          · rw [after]
            exact ProberPhase.noConfusion
          · rw [after, evaluateSteady]
            split
            · exact ProberPhase.noConfusion
            · exact fresh
          · exact absurd throttled fresh

/-- No byte is lost: acknowledgements never run ahead of what was sent, and in
the end everything sent is acknowledged. -/
def Lossless (events : List ProberEvent) : Prop :=
  (∀ before, before <+: events → ackedIn before ≤ sentIn before) ∧
    ackedIn events = sentIn events

/-- A run never throttles exactly when the recent average of unacknowledged
shares never exceeds three tenths. -/
theorem never_throttling_iff (start : Instant) (events : List ProberEvent) :
    (∀ before, before <+: events → ((new start).run before).phase ≠ .throttling) ↔
      ∀ before, before <+: events →
        recentAverage (StepLedger.after start before).shares ≤ 3 / 10 := by
  constructor
  · intro never before reached
    have agree : ((new start).run before).Matches (StepLedger.after start before) := by
      induction before using List.reverseRecOn with
      | nil => exact ⟨rfl, rfl, rfl, rfl⟩
      | append_singleton before event ih =>
          have earlier := (List.prefix_append before [event]).trans reached
          have stays := never _ reached
          rw [run_snoc] at stays ⊢
          rw [StepLedger.after_snoc]
          exact (ih earlier).apply event (never before earlier) stays
    rw [← agree.loss]
    exact (tracks_run start before).calm (never before reached)
  · intro low before reached
    have both : ((new start).run before).phase ≠ .throttling ∧
        ((new start).run before).Matches (StepLedger.after start before) := by
      induction before using List.reverseRecOn with
      | nil => exact ⟨ProberPhase.noConfusion, rfl, rfl, rfl, rfl⟩
      | append_singleton before event ih =>
          obtain ⟨fresh, agree⟩ := ih ((List.prefix_append before [event]).trans reached)
          have average := low _ reached
          rw [StepLedger.after_snoc] at average ⊢
          rw [run_snoc]
          have stays := agree.stays event fresh average
          exact ⟨stays, agree.apply event fresh stays⟩
    exact both.1

/-- Two heartbeats ahead of the acknowledgement of a single send are enough. -/
theorem lateAcknowledgement_throttles :
    ¬ ∀ start events, Lossless events →
      ∀ before, before <+: events → ((new start).run before).phase ≠ .throttling := by
  intro calm
  refine calm 0 [.sent 1000, .acked 5000000 0, .acked 10000000 0, .acked 15000000 1000] ⟨?_, ?_⟩
    [.sent 1000, .acked 5000000 0, .acked 10000000 0] ?_ ?_
  · intro before reached
    revert before
    simp only [← List.mem_inits]
    decide
  · decide
  · exact List.prefix_append _ [ProberEvent.acked 15000000 1000]
  · decide +kernel

end BandwidthProfiler

end Udpix.Protocol

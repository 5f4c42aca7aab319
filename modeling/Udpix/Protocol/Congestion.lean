/-
The token-bucket pacer and the bandwidth prober.

Token counts, rates and ratios are exact rationals.  The prober reports a new
rate to its caller whenever a call changes it; keeping the bucket in step is
the caller's business, not the prober's.
-/

import Udpix.Protocol.Session
import Mathlib.Algebra.Order.Field.Rat
import Mathlib.Data.List.GetD

namespace Udpix.Protocol

/-! ### Token bucket -/

structure TokenBucket where
  capacityBytes : Nat
  tokens : ℚ
  rateBytesPerSec : ℚ
  lastRefill : Instant
deriving DecidableEq

namespace TokenBucket

def new (now : Instant) (rateBps : Nat) : TokenBucket :=
  let rateBytes := (rateBps : ℚ) / 8
  { capacityBytes := 3000
    tokens := rateBytes / 1000
    rateBytesPerSec := rateBytes
    lastRefill := now }

def setRate (bucket : TokenBucket) (rateBps : Nat) : TokenBucket :=
  { bucket with
    rateBytesPerSec := (rateBps : ℚ) / 8
    tokens := min bucket.tokens (bucket.capacityBytes : ℚ) }

def refill (bucket : TokenBucket) (now : Instant) : TokenBucket :=
  let elapsed : ℚ := (Instant.elapsed now bucket.lastRefill : ℚ) / 1000000000
  { bucket with
    lastRefill := now
    tokens := min (bucket.tokens + bucket.rateBytesPerSec * elapsed)
      (bucket.capacityBytes : ℚ) }

/-- `none` when the bucket is dry: nothing is deducted then. -/
def tryConsume (bucket : TokenBucket) (bytes : Nat) : Option TokenBucket :=
  if (bytes : ℚ) ≤ bucket.tokens then
    some { bucket with tokens := bucket.tokens - (bytes : ℚ) }
  else none

theorem tryConsume_rate {bucket spent : TokenBucket} {bytes : Nat}
    (granted : bucket.tryConsume bytes = some spent) :
    spent.rateBytesPerSec = bucket.rateBytesPerSec := by
  unfold tryConsume at granted
  split at granted
  · cases granted
    rfl
  · cases granted

@[simp] theorem refill_rate (bucket : TokenBucket) (now : Instant) :
    (bucket.refill now).rateBytesPerSec = bucket.rateBytesPerSec := rfl

@[simp] theorem setRate_rate (bucket : TokenBucket) (rateBps : Nat) :
    (bucket.setRate rateBps).rateBytesPerSec = (rateBps : ℚ) / 8 := rfl

end TokenBucket

/-! ### Bandwidth prober -/

def PROBE_STEPS_BPS : List Nat :=
  [10000000, 50000000, 100000000, 200000000, 500000000, 1000000000, 2000000000]

/-- Indexing into the table of probe rates. -/
def probeStepBps (index : Nat) : Nat := PROBE_STEPS_BPS.getD index 0

def FLOOR_RATE_BPS : Nat := 5000000

def PROBE_STEP_MS : Nat := 500

def THROTTLE_LOSS_THRESHOLD : ℚ := 3 / 10

inductive ProberPhase where
  | probing (stepIndex : Nat)
  | steady (rateBps : Nat)
  | throttling
deriving DecidableEq, Repr

structure ProbeResult where
  bytesSent : Nat
  bytesAcked : Nat
deriving DecidableEq, Repr

/-- `acked / sent` capped at one; the callers decide about an empty step. -/
def cappedRatio (acked sent : Nat) : ℚ := min ((acked : ℚ) / (sent : ℚ)) 1

def ProbeResult.goodputRatio (result : ProbeResult) : ℚ :=
  if result.bytesSent = 0 then 0 else cappedRatio result.bytesAcked result.bytesSent

structure BandwidthProfiler where
  phase : ProberPhase
  probeResults : List ProbeResult
  stepBytesSent : Nat
  stepBytesAcked : Nat
  stepStart : Instant
  lossEma : ℚ
  bestRateBps : Nat
  bestGoodput : ℚ
deriving DecidableEq

namespace BandwidthProfiler

def new (now : Instant) : BandwidthProfiler :=
  { phase := .probing 0
    probeResults := List.replicate PROBE_STEPS_BPS.length { bytesSent := 0, bytesAcked := 0 }
    stepBytesSent := 0
    stepBytesAcked := 0
    stepStart := now
    lossEma := 0
    bestRateBps := probeStepBps 0
    bestGoodput := 0 }

def resetStepCounters (profiler : BandwidthProfiler) (now : Instant) : BandwidthProfiler :=
  { profiler with stepBytesSent := 0, stepBytesAcked := 0, stepStart := now }

/-- The current target rate: the value that should be set on the bucket. -/
def currentRateBps (profiler : BandwidthProfiler) : Nat :=
  match profiler.phase with
  | .probing stepIndex => probeStepBps stepIndex
  | .steady rateBps => rateBps
  | .throttling => FLOOR_RATE_BPS

def enterThrottle (profiler : BandwidthProfiler) (now : Instant) :
    BandwidthProfiler × Option Nat :=
  if profiler.phase = .throttling then (profiler, none)
  else
    ({ profiler with phase := .throttling }.resetStepCounters now, some FLOOR_RATE_BPS)

def onBytesSent (profiler : BandwidthProfiler) (bytes : Nat) : BandwidthProfiler :=
  { profiler with stepBytesSent := profiler.stepBytesSent + bytes }

/-- The smoothed loss once `bytes` more are acknowledged. -/
def lossAfterAck (profiler : BandwidthProfiler) (bytes : Nat) : ℚ :=
  if 0 < profiler.stepBytesSent then
    let stepLoss := 1 - cappedRatio (profiler.stepBytesAcked + bytes) profiler.stepBytesSent
    4 / 5 * profiler.lossEma + 1 / 5 * stepLoss
  else profiler.lossEma

/-- Record acknowledged bytes.  The second component is the rate the caller is
meant to set on the bucket. -/
def onBytesAcked (profiler : BandwidthProfiler) (now : Instant) (bytes : Nat) :
    BandwidthProfiler × Option Nat :=
  let counted :=
    { profiler with
      stepBytesAcked := profiler.stepBytesAcked + bytes
      lossEma := profiler.lossAfterAck bytes }
  if THROTTLE_LOSS_THRESHOLD < counted.lossEma then counted.enterThrottle now
  else (counted, none)

def trackBest (profiler : BandwidthProfiler) (index : Nat) (ratio : ℚ) : BandwidthProfiler :=
  if profiler.bestGoodput < ratio then
    { profiler with bestGoodput := ratio, bestRateBps := probeStepBps index }
  else profiler

def evaluateProbing (profiler : BandwidthProfiler) (now : Instant) (index : Nat) :
    BandwidthProfiler × Option Nat :=
  let result : ProbeResult :=
    { bytesSent := profiler.stepBytesSent, bytesAcked := profiler.stepBytesAcked }
  let ratio := result.goodputRatio
  let tracked := profiler.trackBest index ratio
  let recorded := { tracked with probeResults := tracked.probeResults.set index result }
  let previous := (recorded.probeResults.getD (index - 1)
    { bytesSent := 0, bytesAcked := 0 }).goodputRatio
  if PROBE_STEPS_BPS.length ≤ index + 1 ∨ (0 < index ∧ ratio < previous * (19 / 20)) then
    -- goodput peaked or the table ended: commit to the best rate
    ({ recorded with phase := .steady recorded.bestRateBps }.resetStepCounters now,
      some recorded.bestRateBps)
  else
    ({ recorded with phase := .probing (index + 1) }.resetStepCounters now,
      some (probeStepBps (index + 1)))

/-- The goodput of the current step; an idle step counts as perfect. -/
def currentGoodput (profiler : BandwidthProfiler) : ℚ :=
  if 0 < profiler.stepBytesSent then
    cappedRatio profiler.stepBytesAcked profiler.stepBytesSent
  else 1

def evaluateSteady (profiler : BandwidthProfiler) (now : Instant) (rateBps : Nat) :
    BandwidthProfiler × Option Nat :=
  if profiler.currentGoodput < profiler.bestGoodput * (4 / 5) then
    ({ profiler with
        bestGoodput := 0
        bestRateBps := probeStepBps 0
        phase := .probing 0 }.resetStepCounters now,
      some (probeStepBps 0))
  else (profiler.resetStepCounters now, some rateBps)

def evaluateThrottling (profiler : BandwidthProfiler) (now : Instant) :
    BandwidthProfiler × Option Nat :=
  ({ profiler with
      phase := .probing 0
      bestGoodput := 0
      bestRateBps := probeStepBps 0
      lossEma := 0 }.resetStepCounters now,
    some (probeStepBps 0))

/-- The probe timer.  A step that has not lasted long enough is left alone. -/
def evaluateProbe (profiler : BandwidthProfiler) (now : Instant) :
    BandwidthProfiler × Option Nat :=
  if Instant.elapsed now profiler.stepStart / 1000000 < PROBE_STEP_MS then (profiler, none)
  else
    match profiler.phase with
    | .probing stepIndex => profiler.evaluateProbing now stepIndex
    | .steady rateBps => profiler.evaluateSteady now rateBps
    | .throttling => profiler.evaluateThrottling now

/-! ### What a call reports to the caller -/

/-- The probe timer reports exactly the rate it leaves in force, or leaves the
whole profiler alone and reports nothing. -/
theorem evaluateProbe_reports (profiler : BandwidthProfiler) (now : Instant) :
    (profiler.evaluateProbe now = (profiler, none)) ∨
      (profiler.evaluateProbe now).2 =
        some (profiler.evaluateProbe now).1.currentRateBps := by
  unfold evaluateProbe
  split
  · exact Or.inl rfl
  · right
    cases phase : profiler.phase with
    | probing stepIndex =>
        dsimp only
        unfold evaluateProbing
        dsimp only
        split <;> rfl
    | steady rateBps =>
        dsimp only
        unfold evaluateSteady
        split
        · rfl
        · simp only [currentRateBps, resetStepCounters, phase]
    | throttling => rfl

theorem onBytesAcked_cases (profiler : BandwidthProfiler) (now : Instant) (bytes : Nat) :
    (THROTTLE_LOSS_THRESHOLD < profiler.lossAfterAck bytes ∧
        (profiler.onBytesAcked now bytes).1.phase = .throttling) ∨
      (¬ THROTTLE_LOSS_THRESHOLD < profiler.lossAfterAck bytes ∧
        (profiler.onBytesAcked now bytes).1.phase = profiler.phase) := by
  unfold onBytesAcked
  dsimp only
  split
  · rename_i lossy
    refine Or.inl ⟨lossy, ?_⟩
    unfold enterThrottle
    split
    · rename_i already
      exact already
    · rfl
  · rename_i calm
    exact Or.inr ⟨calm, rfl⟩

theorem onBytesAcked_bestRateBps (profiler : BandwidthProfiler) (now : Instant)
    (bytes : Nat) :
    (profiler.onBytesAcked now bytes).1.bestRateBps = profiler.bestRateBps := by
  unfold onBytesAcked enterThrottle
  dsimp only
  split
  · split <;> rfl
  · rfl

/-! ### Rates come from the probe table -/

/-- The best rate, and the rate of every phase but throttling, are probe steps. -/
def RateInTable (profiler : BandwidthProfiler) : Prop :=
  profiler.bestRateBps ∈ PROBE_STEPS_BPS ∧
    (profiler.phase ≠ .throttling → profiler.currentRateBps ∈ PROBE_STEPS_BPS)

theorem probeStepBps_mem (index : Nat) (inside : index < PROBE_STEPS_BPS.length) :
    probeStepBps index ∈ PROBE_STEPS_BPS := by
  unfold probeStepBps
  rw [List.getD_eq_getElem _ _ inside]
  exact List.getElem_mem inside

theorem rateInTable_new (now : Instant) : (new now).RateInTable :=
  ⟨probeStepBps_mem 0 (by decide), fun _ => probeStepBps_mem 0 (by decide)⟩

theorem rateInTable_onBytesAcked (profiler : BandwidthProfiler) (now : Instant)
    (bytes : Nat) (known : profiler.RateInTable) :
    (profiler.onBytesAcked now bytes).1.RateInTable := by
  refine ⟨?_, ?_⟩
  · rw [onBytesAcked_bestRateBps]
    exact known.1
  · intro calm
    rcases onBytesAcked_cases profiler now bytes with ⟨_, throttled⟩ | ⟨_, samePhase⟩
    · exact absurd throttled calm
    · unfold currentRateBps
      rw [samePhase] at calm ⊢
      exact known.2 calm

private theorem trackBest_mem (profiler : BandwidthProfiler) (index : Nat) (ratio : ℚ)
    (best : profiler.bestRateBps ∈ PROBE_STEPS_BPS)
    (step : probeStepBps index ∈ PROBE_STEPS_BPS) :
    (profiler.trackBest index ratio).bestRateBps ∈ PROBE_STEPS_BPS := by
  unfold trackBest
  split
  · exact step
  · exact best

theorem rateInTable_evaluateProbing (profiler : BandwidthProfiler) (now : Instant)
    (index : Nat) (best : profiler.bestRateBps ∈ PROBE_STEPS_BPS)
    (step : probeStepBps index ∈ PROBE_STEPS_BPS) :
    (profiler.evaluateProbing now index).1.RateInTable := by
  have tracked : ∀ ratio,
      (profiler.trackBest index ratio).bestRateBps ∈ PROBE_STEPS_BPS :=
    fun ratio => trackBest_mem profiler index ratio best step
  unfold evaluateProbing
  dsimp only
  split
  · exact ⟨tracked _, fun _ => tracked _⟩
  · rename_i goOn
    exact ⟨tracked _, fun _ => probeStepBps_mem (index + 1) (by omega)⟩

theorem rateInTable_evaluateProbe (profiler : BandwidthProfiler) (now : Instant)
    (known : profiler.RateInTable) : (profiler.evaluateProbe now).1.RateInTable := by
  have first : probeStepBps 0 ∈ PROBE_STEPS_BPS := probeStepBps_mem 0 (by decide)
  obtain ⟨best, rate⟩ := known
  unfold evaluateProbe
  split
  · exact ⟨best, rate⟩
  · cases phase : profiler.phase with
    | probing stepIndex =>
        have step : probeStepBps stepIndex ∈ PROBE_STEPS_BPS := by
          simpa only [currentRateBps, phase] using rate (by rw [phase]; simp)
        exact rateInTable_evaluateProbing profiler now stepIndex best step
    | steady rateBps =>
        dsimp only
        unfold evaluateSteady
        split
        · exact ⟨first, fun _ => first⟩
        · exact ⟨best, rate⟩
    | throttling => exact ⟨first, fun _ => first⟩

end BandwidthProfiler

end Udpix.Protocol

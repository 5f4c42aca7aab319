/-
Pacer and prober along the run loop of the sender.

The prober decides the rate and the bucket enforces it; only the values that
the prober's calls return keep the two in step.  The probe timer forwards its
value.  The acknowledgement path drops it, so the two part exactly when an
acknowledgement makes the prober throttle.
-/

import Udpix.Protocol.Sender
import Mathlib.Data.List.Induction
import Mathlib.Tactic.Linarith
import Mathlib.Tactic.NormNum

namespace Udpix.Protocol

namespace Sender

/-- The bucket runs at the rate the prober wants. -/
def InStep (sender : Sender) : Prop :=
  sender.pacer.rateBytesPerSec = (sender.profiler.currentRateBps : ℚ) / 8

def runLoop (sender : Sender) (iterations : List Iteration) : Sender :=
  iterations.foldl (fun current iteration => (current.iterate iteration).1) sender

theorem runLoop_snoc (sender : Sender) (iterations : List Iteration) (last : Iteration) :
    sender.runLoop (iterations ++ [last]) = ((sender.runLoop iterations).iterate last).1 :=
  List.foldl_append

/-- The iteration handles a SACK whose loss estimate passes the threshold while
the prober is not yet throttling. -/
def ThrottlesOnSack (sender : Sender) (iteration : Iteration) : Prop :=
  ∃ sack, iteration.event = .sack sack ∧
    sender.profiler.phase ≠ .throttling ∧
    THROTTLE_LOSS_THRESHOLD <
      sender.profiler.lossAfterAck (sender.removeAcked sack).totalAckedBytes

/-! ### Assembling a batch leaves the rate alone -/

theorem transmit_rate {now : Instant} {state sent : BatchState} {seq : Nat}
    {entry : InFlightEntry} (granted : transmit now state seq entry = some sent) :
    sent.pacer.rateBytesPerSec = state.pacer.rateBytesPerSec := by
  unfold transmit at granted
  cases consumed : state.pacer.tryConsume entry.datagram.length with
  | none =>
      rw [consumed] at granted
      cases granted
  | some pacer =>
      rw [consumed] at granted
      cases granted
      exact TokenBucket.tryConsume_rate consumed

theorem batchInvariant_rate (now : Instant) (rate : ℚ) :
    BatchInvariant now (fun state => state.pacer.rateBytesPerSec = rate) where
  transmitted := by
    intro state seq entry sent _ granted holds
    rw [transmit_rate granted]
    exact holds
  counted := fun _ _ holds => holds

theorem sendBatch_rate (sender : Sender) (now : Instant) (accepted : Int) :
    (sender.sendBatch now accepted).1.pacer.rateBytesPerSec =
        sender.pacer.rateBytesPerSec ∧
      (sender.sendBatch now accepted).1.profiler.currentRateBps =
        sender.profiler.currentRateBps ∧
      (sender.profiler.RateInTable →
        (sender.sendBatch now accepted).1.profiler.RateInTable) := by
  have assembled : (sender.assembleBatch now).1.pacer.rateBytesPerSec =
      sender.pacer.rateBytesPerSec :=
    (batchInvariant_rate now _).assembleBatch sender rfl
  unfold sendBatch
  dsimp only
  split
  · exact ⟨assembled, rfl, id⟩
  · exact ⟨assembled, rfl, id⟩

@[simp] theorem enqueueData_pacer (sender : Sender) (tsUs : Nat → UInt64) (now : Instant)
    (payload : Bytes) :
    (sender.enqueueData tsUs now payload).pacer = sender.pacer ∧
      (sender.enqueueData tsUs now payload).profiler = sender.profiler := by
  unfold enqueueData
  generalize Chunks.chunks MAX_PAYLOAD payload = pieces
  induction pieces generalizing sender with
  | nil => exact ⟨rfl, rfl⟩
  | cons piece rest ih => exact ih (enqueueChunk tsUs now sender piece)

/-! ### One iteration -/

theorem iterate_rateInTable (sender : Sender) (iteration : Iteration)
    (known : sender.profiler.RateInTable) :
    (sender.iterate iteration).1.profiler.RateInTable := by
  apply (sendBatch_rate _ _ _).2.2
  change (sender.handleEvent iteration).profiler.RateInTable
  unfold handleEvent
  split
  · exact BandwidthProfiler.rateInTable_evaluateProbe _ _ known
  · exact BandwidthProfiler.rateInTable_onBytesAcked _ _ _ known
  · rw [(enqueueData_pacer _ _ _ _).2]
    exact known
  · exact known

/-- Sending and refilling do not matter: the event alone decides. -/
theorem iterate_inStep_iff_handleEvent (sender : Sender) (iteration : Iteration) :
    (sender.iterate iteration).1.InStep ↔ (sender.handleEvent iteration).InStep := by
  obtain ⟨rate, target, _⟩ := sendBatch_rate
    { sender.handleEvent iteration with
      pacer := (sender.handleEvent iteration).pacer.refill iteration.refillNow }
    iteration.batchNow iteration.accepted
  unfold InStep iterate
  dsimp only
  rw [rate, target, TokenBucket.refill_rate]

/-- No probe step runs at the floor rate. -/
theorem floor_notMem_probeSteps : FLOOR_RATE_BPS ∉ PROBE_STEPS_BPS := by
  decide

theorem processSack_inStep_iff (sender : Sender) (now : Instant) (sack : SackPayload)
    (known : sender.profiler.RateInTable) (inStep : sender.InStep) :
    (sender.processSack now sack).InStep ↔
      ¬ (sender.profiler.phase ≠ .throttling ∧
        THROTTLE_LOSS_THRESHOLD <
          sender.profiler.lossAfterAck (sender.removeAcked sack).totalAckedBytes) := by
  have samePacer : (sender.processSack now sack).pacer = sender.pacer := rfl
  have newProfiler : (sender.processSack now sack).profiler =
      (sender.profiler.onBytesAcked now (sender.removeAcked sack).totalAckedBytes).1 := rfl
  unfold InStep at inStep ⊢
  rw [samePacer, newProfiler, inStep]
  rcases sender.profiler.onBytesAcked_cases now (sender.removeAcked sack).totalAckedBytes with
    ⟨lossy, throttled⟩ | ⟨calm, samePhase⟩
  · have newRate : (sender.profiler.onBytesAcked now
        (sender.removeAcked sack).totalAckedBytes).1.currentRateBps = FLOOR_RATE_BPS := by
      unfold BandwidthProfiler.currentRateBps
      rw [throttled]
    rw [newRate]
    constructor
    · rintro same ⟨notThrottling, _⟩
      -- the old rate is a probe step, and the floor is not one
      have sameRate : sender.profiler.currentRateBps = FLOOR_RATE_BPS := by
        have cast : (sender.profiler.currentRateBps : ℚ) = (FLOOR_RATE_BPS : ℚ) := by
          linarith
        exact_mod_cast cast
      have member := known.2 notThrottling
      rw [sameRate] at member
      exact floor_notMem_probeSteps member
    · intro condition
      have already : sender.profiler.phase = .throttling := by
        by_contra notThrottling
        exact condition ⟨notThrottling, lossy⟩
      have oldRate : sender.profiler.currentRateBps = FLOOR_RATE_BPS := by
        unfold BandwidthProfiler.currentRateBps
        rw [already]
      rw [oldRate]
  · have sameRate : (sender.profiler.onBytesAcked now
        (sender.removeAcked sack).totalAckedBytes).1.currentRateBps =
          sender.profiler.currentRateBps := by
      unfold BandwidthProfiler.currentRateBps
      rw [samePhase]
    rw [sameRate]
    constructor
    · rintro _ ⟨_, lossy⟩
      exact calm lossy
    · intro _
      rfl

/-- An iteration that starts in step ends in step unless it handles a SACK on
which the prober starts to throttle. -/
theorem iterate_inStep_iff (sender : Sender) (iteration : Iteration)
    (known : sender.profiler.RateInTable) (inStep : sender.InStep) :
    (sender.iterate iteration).1.InStep ↔ ¬ sender.ThrottlesOnSack iteration := by
  rw [iterate_inStep_iff_handleEvent]
  cases event : iteration.event with
  | probeTick =>
      have handled : (sender.handleEvent iteration).InStep := by
        unfold handleEvent InStep
        rw [event]
        dsimp only
        rcases sender.profiler.evaluateProbe_reports iteration.eventNow with
          unchanged | reported
        · rw [unchanged]
          exact inStep
        · rw [reported]
          exact TokenBucket.setRate_rate _ _
      have noThrottle : ¬ sender.ThrottlesOnSack iteration := by
        rintro ⟨sack, isSack, _⟩
        rw [event] at isSack
        cases isSack
      exact ⟨fun _ => noThrottle, fun _ => handled⟩
  | sack payload =>
      have handled : sender.handleEvent iteration =
          sender.processSack iteration.eventNow payload := by
        unfold handleEvent
        rw [event]
      rw [handled, processSack_inStep_iff sender _ payload known inStep]
      unfold ThrottlesOnSack
      rw [event]
      simp
  | command cmd =>
      have handled : (sender.handleEvent iteration).InStep := by
        unfold handleEvent InStep
        rw [event]
        cases cmd with
        | sendChunk payload =>
            dsimp only
            rw [(enqueueData_pacer _ _ _ _).1, (enqueueData_pacer _ _ _ _).2]
            exact inStep
        | shutdown => exact inStep
      have noThrottle : ¬ sender.ThrottlesOnSack iteration := by
        rintro ⟨sack, isSack, _⟩
        rw [event] at isSack
        cases isSack
      exact ⟨fun _ => noThrottle, fun _ => handled⟩

/-! ### Whole runs -/

theorem inStep_new (sessionId : UInt32) (now : Instant) : (new sessionId now).InStep := by
  change ((10000000 : Nat) : ℚ) / 8 = ((probeStepBps 0 : Nat) : ℚ) / 8
  rfl

theorem runLoop_rateInTable (sessionId : UInt32) (now : Instant)
    (iterations : List Iteration) :
    ((new sessionId now).runLoop iterations).profiler.RateInTable := by
  induction iterations using List.reverseRecOn with
  | nil => exact BandwidthProfiler.rateInTable_new now
  | append_singleton iterations last ih =>
      rw [runLoop_snoc]
      exact iterate_rateInTable _ last ih

/-- The bucket runs at the prober's rate in every state of a run exactly when
no SACK of the run makes the prober start to throttle. -/
theorem runLoop_inStep_iff (sessionId : UInt32) (now : Instant)
    (iterations : List Iteration) :
    (∀ done rest, iterations = done ++ rest →
        ((new sessionId now).runLoop done).InStep) ↔
      (∀ done iteration rest, iterations = done ++ iteration :: rest →
        ¬ ((new sessionId now).runLoop done).ThrottlesOnSack iteration) := by
  constructor
  · intro always done iteration rest split
    have before : ((new sessionId now).runLoop done).InStep :=
      always done (iteration :: rest) split
    have after : ((new sessionId now).runLoop (done ++ [iteration])).InStep :=
      always (done ++ [iteration]) rest (by rw [split]; simp)
    rw [runLoop_snoc] at after
    exact (iterate_inStep_iff _ iteration
      (runLoop_rateInTable sessionId now done) before).mp after
  · intro calm done
    -- the condition on each step carries the invariant along the prefix
    induction done using List.reverseRecOn with
    | nil =>
        intro _ _
        exact inStep_new sessionId now
    | append_singleton done last ih =>
        intro rest split
        have regrouped : iterations = done ++ last :: rest := by
          rw [split, List.append_assoc]
          rfl
        rw [runLoop_snoc]
        exact (iterate_inStep_iff _ last (runLoop_rateInTable sessionId now done)
          (ih (last :: rest) regrouped)).mpr (calm done last rest regrouped)

/-- One packet is sent and two heartbeat SACKs arrive before it is received. -/
def unansweredRun : List Iteration :=
  [{ event := .command (.sendChunk [1, 2, 3]), tsUs := fun _ => 0, eventNow := 0,
     refillNow := 0, batchNow := 0, accepted := 1 },
   { event := .sack SackPayload.default, tsUs := fun _ => 0, eventNow := 5000000,
     refillNow := 5000000, batchNow := 5000000, accepted := 1 },
   { event := .sack SackPayload.default, tsUs := fun _ => 0, eventNow := 10000000,
     refillNow := 10000000, batchNow := 10000000, accepted := 1 }]

/-- The prober throttles to 5 Mbps while the bucket stays at 10 Mbps. -/
theorem unansweredRun_not_inStep :
    ((new 1 0).runLoop unansweredRun).profiler.phase = .throttling ∧
      ((new 1 0).runLoop unansweredRun).pacer.rateBytesPerSec = 1250000 ∧
      ¬ ((new 1 0).runLoop unansweredRun).InStep := by
  have phase : ((new 1 0).runLoop unansweredRun).profiler.phase = .throttling := by
    decide +kernel
  have rate : ((new 1 0).runLoop unansweredRun).pacer.rateBytesPerSec = 1250000 := by
    decide +kernel
  refine ⟨phase, rate, ?_⟩
  unfold InStep BandwidthProfiler.currentRateBps
  rw [phase, rate]
  norm_num [FLOOR_RATE_BPS]

end Sender

end Udpix.Protocol

/-
The receive-side acknowledgement state over whole runs.

The manager marks every arrival in its bitmap and slides the base over the
contiguous prefix.  The results below say what the bitmap means after any
sequence of arrivals and heartbeat ticks: it reports exactly the numbers that
arrived inside the window of their moment, and its base is the least number
still missing.
-/

import Udpix.Protocol.Sack
import Udpix.Protocol.Session
import Mathlib.Data.List.Induction
import Mathlib.Order.Bounds.Defs

namespace Udpix.Protocol

structure SackManager where
  payload : SackPayload
  packetsSinceLastSack : Nat
  expectedSinceLastSack : Nat
  heartbeatInterval : Duration
  nextExpectedSeq : Nat
  lossEma : Float
deriving DecidableEq

namespace SackManager

def new (initialSeq : Nat) : SackManager :=
  { payload := { SackPayload.default with baseSeq := initialSeq }
    packetsSinceLastSack := 0
    expectedSinceLastSack := 0
    heartbeatInterval := Duration.fromMillis 5
    nextExpectedSeq := initialSeq
    lossEma := 0.0 }

/-- The loop that looks for the first number not received.  `SACK_WINDOW`
rounds always suffice: see `scanBase_stops`. -/
def scanBase (payload : SackPayload) : Nat → Nat → Nat
  | 0, newBase => newBase
  | rounds + 1, newBase =>
      if payload.isReceived newBase then scanBase payload rounds (newBase + 1)
      else newBase

/-- Count the arrival and the gap before it for the loss estimate. -/
def countArrival (manager : SackManager) (seq : Nat) : SackManager :=
  let counted :=
    if manager.nextExpectedSeq ≤ seq then
      { manager with
        expectedSinceLastSack :=
          manager.expectedSinceLastSack + (seq - manager.nextExpectedSeq + 1)
        nextExpectedSeq := seq + 1 }
    else manager
  { counted with packetsSinceLastSack := counted.packetsSinceLastSack + 1 }

/-- Mark a number and slide the base over the contiguous prefix. -/
def absorb (payload : SackPayload) (seq : Nat) : SackPayload :=
  let marked := payload.markReceived seq
  let newBase := scanBase marked SACK_WINDOW marked.baseSeq
  if marked.baseSeq < newBase then marked.advanceBase newBase else marked

def onPacketReceived (manager : SackManager) (seq : Nat) : SackManager :=
  { manager.countArrival seq with payload := absorb manager.payload seq }

/-- The loss of one heartbeat interval. -/
def intervalLoss (received expected : Nat) : Float :=
  if expected ≤ received then 0.0
  else (UInt64.ofNat (expected - received)).toFloat / (UInt64.ofNat expected).toFloat

/-- The heartbeat timer fired.  The payload to send is the state's own. -/
def tick (manager : SackManager) : SackManager :=
  let lossEma :=
    if 0 < manager.expectedSinceLastSack then
      0.75 * manager.lossEma +
        0.25 * intervalLoss manager.packetsSinceLastSack manager.expectedSinceLastSack
    else manager.lossEma
  { manager with
    lossEma := lossEma
    packetsSinceLastSack := 0
    expectedSinceLastSack := 0
    heartbeatInterval :=
      if 0.20 < lossEma then Duration.fromMillis 1
      else if 0.10 < lossEma then Duration.fromMillis 3
      else Duration.fromMillis 5 }

@[simp] theorem tick_payload (manager : SackManager) :
    manager.tick.payload = manager.payload := rfl

theorem onPacketReceived_nextExpectedSeq (manager : SackManager) (seq : Nat) :
    (manager.onPacketReceived seq).nextExpectedSeq =
      max manager.nextExpectedSeq (seq + 1) := by
  change (manager.countArrival seq).nextExpectedSeq = _
  unfold countArrival
  split
  · dsimp only
    omega
  · dsimp only
    omega

/-! ### The scan for the next base -/

theorem scanBase_ge (payload : SackPayload) (rounds start : Nat) :
    start ≤ scanBase payload rounds start := by
  induction rounds generalizing start with
  | zero => exact Nat.le_refl start
  | succ rounds ih =>
      unfold scanBase
      split
      · exact Nat.le_trans (Nat.le_succ start) (ih (start + 1))
      · exact Nat.le_refl start

theorem isReceived_of_lt_scanBase (payload : SackPayload) (rounds start seq : Nat)
    (low : start ≤ seq) (high : seq < scanBase payload rounds start) :
    payload.isReceived seq = true := by
  induction rounds generalizing start with
  | zero =>
      change seq < start at high
      omega
  | succ rounds ih =>
      unfold scanBase at high
      split at high
      · rename_i received
        by_cases first : seq = start
        · rw [first]
          exact received
        · exact ih (start + 1) (by omega) high
      · omega

theorem scanBase_missing (payload : SackPayload) (rounds start : Nat)
    (early : scanBase payload rounds start < start + rounds) :
    payload.isReceived (scanBase payload rounds start) = false := by
  induction rounds generalizing start with
  | zero =>
      change start < start + 0 at early
      omega
  | succ rounds ih =>
      unfold scanBase at early ⊢
      split
      · rename_i received
        rw [if_pos received] at early
        exact ih (start + 1) (by omega)
      · rename_i missing
        exact Bool.eq_false_iff.mpr missing

/-- From the base, the scan always ends at a number that is not received: the
window is one number shorter than the rounds it is given plus one. -/
theorem scanBase_stops (payload : SackPayload) :
    payload.isReceived (scanBase payload SACK_WINDOW payload.baseSeq) = false := by
  by_cases early :
      scanBase payload SACK_WINDOW payload.baseSeq < payload.baseSeq + SACK_WINDOW
  · exact scanBase_missing payload SACK_WINDOW payload.baseSeq early
  · exact payload.isReceived_of_window_le _ (by omega)

/-! ### One arrival -/

/-- An arrival adds exactly itself, when it is inside the window. -/
theorem isReceived_absorb (payload : SackPayload) (seq other : Nat) :
    (absorb payload seq).isReceived other =
      (payload.isReceived other ||
        (decide (other = seq) && decide (seq < payload.baseSeq + SACK_WINDOW))) := by
  rw [← payload.isReceived_markReceived seq other]
  unfold absorb
  dsimp only
  split
  · rename_i forward
    rw [SackPayload.isReceived_advanceBase _ _ _ forward]
    by_cases below :
        other < scanBase (payload.markReceived seq) SACK_WINDOW
          (payload.markReceived seq).baseSeq
    · -- the numbers the base slid over were received before the slide
      have received : (payload.markReceived seq).isReceived other = true := by
        by_cases underBase : other < (payload.markReceived seq).baseSeq
        · exact SackPayload.isReceived_of_lt _ _ underBase
        · exact isReceived_of_lt_scanBase _ _ _ _ (by omega) below
      rw [received, Bool.or_true]
    · rw [decide_eq_false below, Bool.false_or]
  · rfl

theorem absorb_baseSeq (payload : SackPayload) (seq : Nat) :
    (absorb payload seq).baseSeq =
      scanBase (payload.markReceived seq) SACK_WINDOW payload.baseSeq := by
  have low := scanBase_ge (payload.markReceived seq) SACK_WINDOW payload.baseSeq
  unfold absorb
  simp only [SackPayload.markReceived_baseSeq]
  split
  · rename_i forward
    exact SackPayload.advanceBase_baseSeq _ _
      (by rw [SackPayload.markReceived_baseSeq]; exact forward)
  · rw [SackPayload.markReceived_baseSeq]
    omega

theorem absorb_baseSeq_ge (payload : SackPayload) (seq : Nat) :
    payload.baseSeq ≤ (absorb payload seq).baseSeq := by
  rw [absorb_baseSeq]
  exact scanBase_ge _ _ _

theorem isReceived_absorb_baseSeq (payload : SackPayload) (seq : Nat) :
    (absorb payload seq).isReceived (absorb payload seq).baseSeq = false := by
  have stops := scanBase_stops (payload.markReceived seq)
  rw [SackPayload.markReceived_baseSeq] at stops
  rw [isReceived_absorb, ← payload.isReceived_markReceived, absorb_baseSeq]
  exact stops

end SackManager

/-! ### Whole runs -/

inductive SackOp where
  | arrive (seq : Nat)
  | tick
deriving DecidableEq

namespace SackManager

def apply (manager : SackManager) : SackOp → SackManager
  | .arrive seq => manager.onPacketReceived seq
  | .tick => manager.tick

def run (manager : SackManager) (ops : List SackOp) : SackManager :=
  ops.foldl apply manager

@[simp] theorem run_nil (manager : SackManager) : manager.run [] = manager := rfl

theorem run_append (manager : SackManager) (first second : List SackOp) :
    manager.run (first ++ second) = (manager.run first).run second :=
  List.foldl_append

theorem run_snoc (manager : SackManager) (ops : List SackOp) (op : SackOp) :
    manager.run (ops ++ [op]) = (manager.run ops).apply op :=
  run_append manager ops [op]

theorem apply_mono (manager : SackManager) (op : SackOp) :
    manager.payload.baseSeq ≤ (manager.apply op).payload.baseSeq ∧
      ∀ seq, manager.payload.isReceived seq = true →
        (manager.apply op).payload.isReceived seq = true := by
  cases op with
  | arrive arrived =>
      refine ⟨absorb_baseSeq_ge manager.payload arrived, ?_⟩
      intro seq received
      change (absorb manager.payload arrived).isReceived seq = true
      rw [isReceived_absorb, received, Bool.true_or]
  | tick =>
      exact ⟨Nat.le_refl _, fun _ received => received⟩

theorem run_mono (manager : SackManager) (ops : List SackOp) :
    manager.payload.baseSeq ≤ (manager.run ops).payload.baseSeq ∧
      ∀ seq, manager.payload.isReceived seq = true →
        (manager.run ops).payload.isReceived seq = true := by
  induction ops generalizing manager with
  | nil => exact ⟨Nat.le_refl _, fun _ received => received⟩
  | cons op rest ih =>
      obtain ⟨stepBase, stepReceived⟩ := apply_mono manager op
      obtain ⟨restBase, restReceived⟩ := ih (manager.apply op)
      exact ⟨Nat.le_trans stepBase restBase,
        fun seq received => restReceived seq (stepReceived seq received)⟩

/-- The arrivals of a run that were inside the window at their moment. -/
def AcceptedIn (initialSeq : Nat) (ops : List SackOp) (seq : Nat) : Prop :=
  ∃ before after, ops = before ++ SackOp.arrive seq :: after ∧
    seq < ((new initialSeq).run before).payload.baseSeq + SACK_WINDOW

theorem acceptedIn_snoc (initialSeq : Nat) (ops : List SackOp) (op : SackOp) (seq : Nat) :
    AcceptedIn initialSeq (ops ++ [op]) seq ↔
      AcceptedIn initialSeq ops seq ∨
        (op = .arrive seq ∧
          seq < ((new initialSeq).run ops).payload.baseSeq + SACK_WINDOW) := by
  constructor
  · rintro ⟨before, after, split, inside⟩
    rcases List.eq_nil_or_concat after with empty | ⟨front, last, concat⟩
    · subst empty
      obtain ⟨sameOps, sameOp⟩ := List.append_inj' split rfl
      subst sameOps
      exact Or.inr ⟨List.cons.inj sameOp |>.1, inside⟩
    · subst concat
      left
      refine ⟨before, front, ?_, inside⟩
      have regrouped : ops ++ [op] = (before ++ SackOp.arrive seq :: front) ++ [last] := by
        rw [split, List.concat_eq_append, List.append_assoc, List.cons_append]
      exact (List.append_inj' regrouped rfl).1
  · rintro (⟨before, after, split, inside⟩ | ⟨sameOp, inside⟩)
    · exact ⟨before, after ++ [op], by rw [split]; simp, inside⟩
    · exact ⟨ops, [], by rw [sameOp], inside⟩

theorem isReceived_new (initialSeq seq : Nat) :
    (new initialSeq).payload.isReceived seq = decide (seq < initialSeq) := by
  rw [SackPayload.isReceived_eq]
  change (_ || BitWindow.flatBit (List.replicate SACK_WORDS 0#64) _) = _
  rw [BitWindow.flatBit_replicate_zero, Bool.or_false]
  rfl

theorem isReceived_run_iff (initialSeq : Nat) (ops : List SackOp) (seq : Nat) :
    ((new initialSeq).run ops).payload.isReceived seq = true ↔
      seq < initialSeq ∨ AcceptedIn initialSeq ops seq := by
  -- the run grows at its end, so the last call is the one to split on
  induction ops using List.reverseRecOn with
  | nil =>
      have noAccepted : ¬ AcceptedIn initialSeq [] seq := by
        rintro ⟨before, after, split, _⟩
        simp at split
      rw [run_nil, isReceived_new, decide_eq_true_iff]
      simp [noAccepted]
  | append_singleton ops op ih =>
      rw [run_snoc, acceptedIn_snoc, ← or_assoc, ← ih]
      cases op with
      | arrive arrived =>
          change (absorb _ arrived).isReceived seq = true ↔ _
          rw [isReceived_absorb]
          simp only [Bool.or_eq_true, Bool.and_eq_true, decide_eq_true_eq,
            SackOp.arrive.injEq]
          constructor
          · rintro (received | ⟨same, inside⟩)
            · exact Or.inl received
            · exact Or.inr ⟨same.symm, by rw [same]; exact inside⟩
          · rintro (received | ⟨same, inside⟩)
            · exact Or.inl received
            · exact Or.inr ⟨same.symm, by rw [same]; exact inside⟩
      | tick =>
          simp only [apply, tick_payload, reduceCtorEq, false_and, or_false]

theorem isReceived_run_baseSeq (initialSeq : Nat) (ops : List SackOp) :
    ((new initialSeq).run ops).payload.isReceived
      ((new initialSeq).run ops).payload.baseSeq = false := by
  induction ops using List.reverseRecOn with
  | nil =>
      rw [run_nil, isReceived_new]
      exact decide_eq_false (Nat.lt_irrefl initialSeq)
  | append_singleton ops op ih =>
      rw [run_snoc]
      cases op with
      | arrive arrived => exact isReceived_absorb_baseSeq _ arrived
      | tick => exact ih

/-- The base stays below any bound that the start and all arrivals respect, so
no 64-bit addition of the run wraps. -/
theorem run_lt_of_arrivals_lt (initialSeq bound : Nat) (initialLt : initialSeq < bound)
    (ops : List SackOp) (arrivalsLt : ∀ seq, SackOp.arrive seq ∈ ops → seq + 1 < bound) :
    ((new initialSeq).run ops).payload.baseSeq < bound ∧
      ((new initialSeq).run ops).nextExpectedSeq < bound := by
  constructor
  · -- a base at the bound would have slid over `bound - 1`, which never arrived
    by_contra tooHigh
    have received : ((new initialSeq).run ops).payload.isReceived (bound - 1) = true :=
      SackPayload.isReceived_of_lt _ _ (by omega)
    rcases (isReceived_run_iff initialSeq ops (bound - 1)).mp received with
      before | ⟨_, _, split, _⟩
    · have last : ((new initialSeq).run ops).payload.isReceived initialSeq = true :=
        SackPayload.isReceived_of_lt _ _ (by omega)
      rcases (isReceived_run_iff initialSeq ops initialSeq).mp last with
        impossible | ⟨_, _, split, _⟩
      · omega
      · have arrived := arrivalsLt initialSeq (by rw [split]; simp)
        omega
    · have arrived := arrivalsLt (bound - 1) (by rw [split]; simp)
      omega
  · induction ops using List.reverseRecOn with
    | nil => exact initialLt
    | append_singleton ops op ih =>
        have earlier := ih (fun seq member =>
          arrivalsLt seq (List.mem_append_left _ member))
        rw [run_snoc]
        cases op with
        | arrive arrived =>
            have arrivedLt := arrivalsLt arrived (by simp)
            change (onPacketReceived _ arrived).nextExpectedSeq < bound
            rw [onPacketReceived_nextExpectedSeq]
            omega
        | tick => exact earlier

/-- What the acknowledgement state means after any run: it reports exactly the
numbers below the start and those that arrived inside the window of their
moment; its base is the least missing number, within 64 bits; and both only
ever grow along the run. -/
theorem run_payload_exact (initialSeq : Nat) (initialLt : initialSeq < 2 ^ 64)
    (ops : List SackOp)
    (arrivalsLt : ∀ seq, SackOp.arrive seq ∈ ops → seq < 2 ^ 64 - 1) :
    (∀ seq, ((new initialSeq).run ops).payload.isReceived seq = true ↔
      seq < initialSeq ∨
        ∃ before after, ops = before ++ SackOp.arrive seq :: after ∧
          seq < ((new initialSeq).run before).payload.baseSeq + SACK_WINDOW) ∧
    IsLeast {seq | initialSeq ≤ seq ∧
        ((new initialSeq).run ops).payload.isReceived seq = false}
      ((new initialSeq).run ops).payload.baseSeq ∧
    (∀ before after, ops = before ++ after →
      ((new initialSeq).run before).payload.baseSeq ≤
          ((new initialSeq).run ops).payload.baseSeq ∧
        ∀ seq, ((new initialSeq).run before).payload.isReceived seq = true →
          ((new initialSeq).run ops).payload.isReceived seq = true) ∧
    ((new initialSeq).run ops).payload.baseSeq < 2 ^ 64 ∧
    ((new initialSeq).run ops).nextExpectedSeq < 2 ^ 64 := by
  refine ⟨isReceived_run_iff initialSeq ops, ⟨⟨?_, ?_⟩, ?_⟩, ?_, ?_⟩
  · exact (run_mono (new initialSeq) ops).1
  · exact isReceived_run_baseSeq initialSeq ops
  · rintro seq ⟨_, missing⟩
    by_contra below
    have received := SackPayload.isReceived_of_lt
      ((new initialSeq).run ops).payload seq (by omega)
    rw [missing] at received
    cases received
  · intro before after split
    rw [split, run_append]
    exact run_mono _ after
  · exact run_lt_of_arrivals_lt initialSeq (2 ^ 64) initialLt ops
      (fun seq member => by have := arrivalsLt seq member; omega)

/-- The general statement on a run with a gap, a duplicate and a heartbeat. -/
theorem run_payload_exact_gap :
    (∀ seq, ((new 5).run [.arrive 6, .tick, .arrive 5, .arrive 6]).payload.isReceived seq = true ↔
      seq < 5 ∨
        ∃ before after, [SackOp.arrive 6, .tick, .arrive 5, .arrive 6] =
            before ++ SackOp.arrive seq :: after ∧
          seq < ((new 5).run before).payload.baseSeq + SACK_WINDOW) ∧
      ((new 5).run [.arrive 6, .tick, .arrive 5, .arrive 6]).payload.baseSeq = 7 :=
  ⟨(run_payload_exact 5 (by decide) [.arrive 6, .tick, .arrive 5, .arrive 6]
      (by intro seq member; simp at member; omega)).1, by decide +kernel⟩

end SackManager

end Udpix.Protocol

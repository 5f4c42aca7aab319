/-
The 64-bit additions of one arrival.

The acknowledgement state is written down elsewhere with unbounded numbers.
Here every `u64` addition of an arrival is checked, as a build with overflow
checks does, and the loop over the base is given as many tests as the window
has numbers and one more; each fault names the addition it comes from.
-/

import Udpix.Library.Fallible
import Udpix.Protocol.SackManager

namespace Udpix.Protocol

open Fallible

inductive ArrivalFault where
  | gapCount
  | nextExpectedSeq
  | arrivalCount
  | baseScan
  | stillScanning
deriving DecidableEq

def addU64 (fault : ArrivalFault) (left right : Nat) : Except ArrivalFault Nat :=
  if left + right < 2 ^ 64 then .ok (left + right) else .error fault

namespace SackManager

/-- The loop that looks for the first number not received, with a number of
tests after which it counts as still running. -/
def scanBaseChecked (payload : SackPayload) : Nat → Nat → Except ArrivalFault Nat
  | 0, _ => .error .stillScanning
  | tests + 1, newBase =>
      if payload.isReceived newBase then
        addU64 .baseScan newBase 1 >>= scanBaseChecked payload tests
      else .ok newBase

def countGapChecked (manager : SackManager) (seq : Nat) : Except ArrivalFault SackManager :=
  if manager.nextExpectedSeq ≤ seq then do
    let gap ← addU64 .gapCount (seq - manager.nextExpectedSeq) 1
    let expected ← addU64 .gapCount manager.expectedSinceLastSack gap
    let next ← addU64 .nextExpectedSeq seq 1
    .ok { manager with expectedSinceLastSack := expected, nextExpectedSeq := next }
  else .ok manager

def onPacketReceivedChecked (manager : SackManager) (seq : Nat) :
    Except ArrivalFault SackManager := do
  let counted ← manager.countGapChecked seq
  let arrivals ← addU64 .arrivalCount counted.packetsSinceLastSack 1
  let marked := counted.payload.markReceived seq
  let newBase ← scanBaseChecked marked (SACK_WINDOW + 1) marked.baseSeq
  .ok
    { counted with
      packetsSinceLastSack := arrivals
      payload := if marked.baseSeq < newBase then marked.advanceBase newBase else marked }

def applyChecked (manager : SackManager) : SackOp → Except ArrivalFault SackManager
  | .arrive seq => manager.onPacketReceivedChecked seq
  | .tick => .ok manager.tick

/-- A run that ends at the first fault. -/
def runChecked (manager : SackManager) (ops : List SackOp) : Except ArrivalFault SackManager :=
  ops.foldlM applyChecked manager

/-- The arrival comes to its end without a fault in the gap count, the next
expected number or the scan for the base.  The scan does so also where the count
of arrivals, which comes before it, is full. -/
structure SafeArrival (manager : SackManager) (seq : Nat) : Prop where
  faults : ∀ fault, manager.onPacketReceivedChecked seq = .error fault → fault = .arrivalCount
  scans : ∃ newBase, scanBaseChecked (manager.payload.markReceived seq) (SACK_WINDOW + 1)
    (manager.payload.markReceived seq).baseSeq = .ok newBase

end SackManager

/-! ### Checked and unbounded arrivals -/

theorem addU64_of_lt {fault : ArrivalFault} {left right : Nat} (fits : left + right < 2 ^ 64) :
    addU64 fault left right = .ok (left + right) :=
  if_pos fits

theorem addU64_of_le {fault : ArrivalFault} {left right : Nat} (wide : 2 ^ 64 ≤ left + right) :
    addU64 fault left right = .error fault :=
  if_neg (Nat.not_lt.mpr wide)

theorem addU64_eq_error {fault other : ArrivalFault} {left right : Nat}
    (failed : addU64 fault left right = .error other) : other = fault := by
  unfold addU64 at failed
  split at failed
  · cases failed
  · exact (Except.error.inj failed).symm

theorem addU64_eq_ok {fault : ArrivalFault} {left right sum : Nat}
    (added : addU64 fault left right = .ok sum) : sum = left + right ∧ sum < 2 ^ 64 := by
  unfold addU64 at added
  split at added
  · rename_i fits
    cases added
    exact ⟨rfl, fits⟩
  · cases added

namespace SackManager

theorem scanBase_of_checked {payload : SackPayload} {rounds start base : Nat}
    (scanned : scanBaseChecked payload (rounds + 1) start = .ok base) :
    scanBase payload rounds start = base := by
  induction rounds generalizing start with
  | zero =>
      rw [scanBaseChecked] at scanned
      split at scanned
      · obtain ⟨_, _, exhausted⟩ := bind_eq_ok scanned
        cases exhausted
      · exact Except.ok.inj scanned
  | succ rounds ih =>
      rw [scanBaseChecked] at scanned
      rw [scanBase]
      split at scanned
      · rename_i received
        obtain ⟨next, added, later⟩ := bind_eq_ok scanned
        rw [if_pos received, ← (addU64_eq_ok added).1]
        exact ih later
      · rename_i missing
        rw [if_neg missing]
        exact Except.ok.inj scanned

/-- A scan that stops below the bound has the tests and the room it needs. -/
theorem scanBaseChecked_of_stops (payload : SackPayload) (rounds start : Nat)
    (stops : payload.isReceived (scanBase payload rounds start) = false)
    (low : scanBase payload rounds start < 2 ^ 64) :
    scanBaseChecked payload (rounds + 1) start = .ok (scanBase payload rounds start) := by
  induction rounds generalizing start with
  | zero =>
      rw [scanBase] at stops ⊢
      rw [scanBaseChecked, if_neg (Bool.eq_false_iff.mp stops)]
  | succ rounds ih =>
      rw [scanBaseChecked]
      rw [scanBase] at stops low ⊢
      split
      · rename_i received
        rw [if_pos received] at stops low
        have room : start + 1 < 2 ^ 64 := Nat.lt_of_le_of_lt (scanBase_ge _ _ _) low
        rw [addU64_of_lt room]
        exact ih (start + 1) stops low
      · rfl

def countGap (manager : SackManager) (seq : Nat) : SackManager :=
  if manager.nextExpectedSeq ≤ seq then
    { manager with
      expectedSinceLastSack :=
        manager.expectedSinceLastSack + (seq - manager.nextExpectedSeq + 1)
      nextExpectedSeq := seq + 1 }
  else manager

theorem countGap_of_checked {manager counted : SackManager} {seq : Nat}
    (checked : manager.countGapChecked seq = .ok counted) :
    counted = manager.countGap seq ∧ (manager.nextExpectedSeq ≤ seq → seq + 1 < 2 ^ 64) := by
  unfold countGapChecked at checked
  unfold countGap
  split at checked
  · rename_i ahead
    obtain ⟨gap, gapAdded, checked⟩ := bind_eq_ok checked
    obtain ⟨expected, expectedAdded, checked⟩ := bind_eq_ok checked
    obtain ⟨next, nextAdded, checked⟩ := bind_eq_ok checked
    obtain ⟨rfl, _⟩ := addU64_eq_ok gapAdded
    obtain ⟨rfl, _⟩ := addU64_eq_ok expectedAdded
    obtain ⟨rfl, room⟩ := addU64_eq_ok nextAdded
    rw [if_pos ahead]
    exact ⟨(Except.ok.inj checked).symm, fun _ => room⟩
  · rename_i behind
    rw [if_neg behind]
    exact ⟨(Except.ok.inj checked).symm, fun ahead => absurd ahead behind⟩

theorem countGapChecked_of_lt {manager : SackManager} {seq : Nat}
    (counts : manager.expectedSinceLastSack ≤ manager.nextExpectedSeq)
    (room : seq + 1 < 2 ^ 64) : manager.countGapChecked seq = .ok (manager.countGap seq) := by
  unfold countGapChecked countGap
  split
  · rename_i ahead
    rw [addU64_of_lt (by omega), ok_bind, addU64_of_lt (by omega), ok_bind, addU64_of_lt room,
      ok_bind]
  · rfl

theorem onPacketReceived_eq_countGap (manager : SackManager) (seq : Nat) :
    manager.onPacketReceived seq =
      { manager.countGap seq with
        packetsSinceLastSack := (manager.countGap seq).packetsSinceLastSack + 1
        payload := absorb manager.payload seq } := rfl

theorem countGap_packetsSinceLastSack (manager : SackManager) (seq : Nat) :
    (manager.countGap seq).packetsSinceLastSack = manager.packetsSinceLastSack := by
  unfold countGap
  split <;> rfl

theorem countGap_payload (manager : SackManager) (seq : Nat) :
    (manager.countGap seq).payload = manager.payload := by
  unfold countGap
  split <;> rfl

/-- An arrival without a fault does what the unbounded one does. -/
theorem onPacketReceived_of_checked {manager next : SackManager} {seq : Nat}
    (checked : manager.onPacketReceivedChecked seq = .ok next) :
    next = manager.onPacketReceived seq ∧
      (manager.nextExpectedSeq ≤ seq → seq + 1 < 2 ^ 64) := by
  obtain ⟨counted, gapCounted, checked⟩ := bind_eq_ok checked
  obtain ⟨arrivals, arrivalCounted, checked⟩ := bind_eq_ok checked
  obtain ⟨newBase, scanned, checked⟩ := bind_eq_ok checked
  obtain ⟨rfl, room⟩ := countGap_of_checked gapCounted
  obtain ⟨rfl, _⟩ := addU64_eq_ok arrivalCounted
  rw [← scanBase_of_checked scanned, countGap_payload] at checked
  refine ⟨?_, room⟩
  rw [onPacketReceived_eq_countGap, ← Except.ok.inj checked]
  rfl

/-! ### Checked runs -/

theorem runChecked_snoc (manager : SackManager) (ops : List SackOp) (op : SackOp) :
    manager.runChecked (ops ++ [op]) =
      manager.runChecked ops >>= fun reached => reached.applyChecked op :=
  foldlM_snoc _ _ ops op

/-- What a run has counted when it met no fault. -/
structure Counted (initialSeq : Nat) (ops : List SackOp) (manager : SackManager) : Prop where
  initial : initialSeq < 2 ^ 64
  reached : manager = (new initialSeq).run ops
  arrivals : ∀ seq, SackOp.arrive seq ∈ ops → seq + 1 < 2 ^ 64
  expected : manager.expectedSinceLastSack ≤ manager.nextExpectedSeq

theorem Counted.bounds {initialSeq : Nat} {ops : List SackOp} {manager : SackManager}
    (counted : Counted initialSeq ops manager) :
    manager.payload.baseSeq < 2 ^ 64 ∧ manager.nextExpectedSeq < 2 ^ 64 := by
  rw [counted.reached]
  exact run_lt_of_arrivals_lt initialSeq (2 ^ 64) counted.initial ops counted.arrivals

theorem countGap_expected_le {manager : SackManager} (seq : Nat)
    (counts : manager.expectedSinceLastSack ≤ manager.nextExpectedSeq) :
    (manager.countGap seq).expectedSinceLastSack ≤ (manager.countGap seq).nextExpectedSeq := by
  unfold countGap
  split
  · dsimp only
    omega
  · exact counts

theorem Counted.arrive {initialSeq : Nat} {ops : List SackOp} {manager : SackManager}
    (counted : Counted initialSeq ops manager) {seq : Nat} (room : seq + 1 < 2 ^ 64) :
    Counted initialSeq (ops ++ [.arrive seq]) (manager.onPacketReceived seq) where
  initial := counted.initial
  reached := by
    rw [run_snoc, ← counted.reached]
    rfl
  arrivals := by
    intro other member
    rcases List.mem_append.mp member with earlier | last
    · exact counted.arrivals other earlier
    · cases List.mem_singleton.mp last
      exact room
  expected := countGap_expected_le seq counted.expected

theorem Counted.tick {initialSeq : Nat} {ops : List SackOp} {manager : SackManager}
    (counted : Counted initialSeq ops manager) :
    Counted initialSeq (ops ++ [.tick]) manager.tick where
  initial := counted.initial
  reached := by
    rw [run_snoc, ← counted.reached]
    rfl
  arrivals := by
    intro seq member
    rcases List.mem_append.mp member with earlier | last
    · exact counted.arrivals seq earlier
    · cases List.mem_singleton.mp last
  expected := Nat.zero_le _

theorem counted_of_runChecked (ops : List SackOp) (manager : SackManager)
    (reached : (new 0).runChecked ops = .ok manager) : Counted 0 ops manager := by
  induction ops using List.reverseRecOn generalizing manager with
  | nil =>
      cases reached
      exact ⟨Nat.two_pow_pos 64, rfl, (fun _ member => nomatch member), Nat.le_refl 0⟩
  | append_singleton ops op ih =>
      rw [runChecked_snoc] at reached
      obtain ⟨before, beforeReached, step⟩ := bind_eq_ok reached
      have counted := ih before beforeReached
      cases op with
      | arrive seq =>
          obtain ⟨rfl, room⟩ := onPacketReceived_of_checked step
          have bounded := counted.bounds.2
          by_cases ahead : before.nextExpectedSeq ≤ seq
          · exact counted.arrive (room ahead)
          · exact counted.arrive (by omega)
      | tick =>
          cases step
          exact counted.tick

/-- Below the largest number the scan ends and never leaves the 64-bit numbers. -/
theorem Counted.scans {initialSeq : Nat} {ops : List SackOp} {manager : SackManager}
    (counted : Counted initialSeq ops manager) {seq : Nat} (room : seq + 1 < 2 ^ 64) :
    ∃ newBase, scanBaseChecked (manager.payload.markReceived seq) (SACK_WINDOW + 1)
      (manager.payload.markReceived seq).baseSeq = .ok newBase := by
  have slid : scanBase (manager.payload.markReceived seq) SACK_WINDOW
      (manager.payload.markReceived seq).baseSeq < 2 ^ 64 := by
    have bounded := (counted.arrive room).bounds.1
    change (absorb manager.payload seq).baseSeq < 2 ^ 64 at bounded
    rw [absorb_baseSeq] at bounded
    rw [SackPayload.markReceived_baseSeq]
    exact bounded
  exact ⟨_, scanBaseChecked_of_stops _ _ _
    (scanBase_stops (manager.payload.markReceived seq)) slid⟩

/-- Below the largest number only the count of arrivals decides. -/
theorem Counted.onPacketReceivedChecked_eq {initialSeq : Nat} {ops : List SackOp}
    {manager : SackManager} (counted : Counted initialSeq ops manager) {seq : Nat}
    (room : seq + 1 < 2 ^ 64) :
    manager.onPacketReceivedChecked seq =
      if manager.packetsSinceLastSack + 1 < 2 ^ 64 then .ok (manager.onPacketReceived seq)
      else .error .arrivalCount := by
  obtain ⟨newBase, scanned⟩ := counted.scans room
  have arrivals := countGap_packetsSinceLastSack manager seq
  split
  · rename_i few
    cases checked : manager.onPacketReceivedChecked seq with
    | ok next => rw [(onPacketReceived_of_checked checked).1]
    | error fault =>
        rw [onPacketReceivedChecked, countGapChecked_of_lt counted.expected room, ok_bind, arrivals,
          addU64_of_lt few, ok_bind, countGap_payload] at checked
        dsimp only at checked
        rw [scanned] at checked
        cases checked
  · rename_i many
    rw [onPacketReceivedChecked, countGapChecked_of_lt counted.expected room, ok_bind, arrivals,
      addU64_of_le (Nat.le_of_not_lt many)]
    rfl

/-- Below the largest number every addition but the count of arrivals has room. -/
theorem Counted.safeArrival {initialSeq : Nat} {ops : List SackOp} {manager : SackManager}
    (counted : Counted initialSeq ops manager) {seq : Nat} (room : seq + 1 < 2 ^ 64) :
    manager.SafeArrival seq where
  faults := by
    intro fault failed
    rw [counted.onPacketReceivedChecked_eq room] at failed
    split at failed
    · cases failed
    · exact (Except.error.inj failed).symm
  scans := counted.scans room

/-- At the largest number the gap count or the next expected number overflows. -/
theorem Counted.not_safeArrival_max {initialSeq : Nat} {ops : List SackOp} {manager : SackManager}
    (counted : Counted initialSeq ops manager) : ¬ manager.SafeArrival (2 ^ 64 - 1) := by
  rintro ⟨safe, _⟩
  have ahead : manager.nextExpectedSeq ≤ 2 ^ 64 - 1 := Nat.le_sub_one_of_lt counted.bounds.2
  have overflows : addU64 .nextExpectedSeq (2 ^ 64 - 1) 1 = .error .nextExpectedSeq :=
    addU64_of_le (Nat.le_refl _)
  unfold onPacketReceivedChecked countGapChecked at safe
  rw [if_pos ahead, overflows] at safe
  -- the two additions of the gap count come first
  cases gap : addU64 .gapCount (2 ^ 64 - 1 - manager.nextExpectedSeq) 1 with
  | error fault =>
      rw [gap] at safe
      cases (addU64_eq_error gap).symm.trans (safe fault rfl)
  | ok counting =>
      rw [gap] at safe
      cases expected : addU64 .gapCount manager.expectedSinceLastSack counting with
      | error fault =>
          change ∀ fault, (addU64 _ _ _ >>= _ >>= _) = _ → _ at safe
          rw [expected] at safe
          cases (addU64_eq_error expected).symm.trans (safe fault rfl)
      | ok total =>
          change ∀ fault, (addU64 _ _ _ >>= _ >>= _) = _ → _ at safe
          rw [expected] at safe
          cases safe .nextExpectedSeq rfl

/-- With the count of arrivals taken in: the arrival does what the unbounded one
does exactly when the number is not the largest and the count has room. -/
theorem onPacketReceivedChecked_eq_ok_iff (ops : List SackOp) (manager : SackManager)
    (reached : (new 0).runChecked ops = .ok manager) (seq : Nat) (wide : seq < 2 ^ 64) :
    manager.onPacketReceivedChecked seq = .ok (manager.onPacketReceived seq) ↔
      seq ≠ 2 ^ 64 - 1 ∧ manager.packetsSinceLastSack + 1 < 2 ^ 64 := by
  have counted := counted_of_runChecked ops manager reached
  by_cases room : seq + 1 < 2 ^ 64
  · rw [counted.onPacketReceivedChecked_eq room]
    split
    · rename_i few
      exact iff_of_true rfl ⟨by omega, few⟩
    · rename_i many
      exact iff_of_false (fun checked => nomatch checked) (fun both => many both.2)
  · have ahead : manager.nextExpectedSeq ≤ seq := by
      have bounded := counted.bounds.2
      omega
    constructor
    · intro checked
      exact absurd ((onPacketReceived_of_checked checked).2 ahead) room
    · intro both
      omega

/-- In every state that arrivals and heartbeats reach from zero, every number
but the largest can be received. -/
theorem safeArrival_iff (ops : List SackOp) (manager : SackManager)
    (reached : (new 0).runChecked ops = .ok manager) (seq : Nat) (wide : seq < 2 ^ 64) :
    manager.SafeArrival seq ↔ seq ≠ 2 ^ 64 - 1 := by
  have counted := counted_of_runChecked ops manager reached
  constructor
  · rintro safe rfl
    exact counted.not_safeArrival_max safe
  · intro other
    exact counted.safeArrival (by omega)

/-- The general statement after a gap, a heartbeat and the missing packet. -/
theorem safeArrival_after_gap :
    ((new 0).run [.arrive 1, .tick, .arrive 0]).SafeArrival (2 ^ 64 - 2) :=
  (safeArrival_iff [.arrive 1, .tick, .arrive 0] _ (by decide +kernel) (2 ^ 64 - 2)
    (by decide)).mpr (by decide)

/-- The largest number, received first. -/
theorem safeArrival_fails_at_max :
    ¬ ∀ (ops : List SackOp) (manager : SackManager), (new 0).runChecked ops = .ok manager →
      ∀ seq, seq < 2 ^ 64 → manager.SafeArrival seq := by
  intro safe
  have arrival := safe [] (new 0) rfl (2 ^ 64 - 1) (by decide)
  cases arrival.faults .gapCount (by decide +kernel)

end SackManager

end Udpix.Protocol

/-
Reading and writing a whole file through the ring.

Both loops submit one operation at a time, for the rest of the file up to 64 KB,
and move their offset by what the completion reports.  What the kernel does is
an argument: the bytes of the file at each pass and the outcome of the pass.
-/

import Udpix.IoEngine.Packer
import Udpix.Library.ResumedTransfer

namespace Udpix.IoEngine

open ResumedTransfer UnixPath Protocol

def READ_CHUNK : Nat := 64 * 1024

inductive UringRound where
  | sqFull
  | submitFailed
  | completed (result : Int)
deriving DecidableEq

inductive UringError where
  | opening
  | metadata
  | ring
  | sqFull
  | submitAndWait
  | completion (offset : Nat) (result : Int)
deriving DecidableEq

def UringRound.answer : UringRound → Except UringError Int
  | .sqFull => .error .sqFull
  | .submitFailed => .error .submitAndWait
  | .completed result => .ok result

/-- The loop of both directions: `move` is what a completion does to the target. -/
def uringLoop (len chunk : Nat) (move : Nat → Nat → Nat → Bytes → Bytes)
    (rounds : Nat → UringRound) (target : Bytes) (passes : Nat) :
    Option (Except UringError (Progress Bytes)) :=
  loop len chunk move .completion (fun pass => (rounds pass).answer) passes
    { offset := 0, target := target, submitted := [] }

/-! ### Reading -/

/-- What the outside does during a read: the file that is opened, its length, and
for each pass its bytes and the outcome. -/
structure ReadOutside where
  opens : Bool
  fileLen : Option Nat
  ringStarts : Bool
  contents : Nat → Bytes
  rounds : Nat → UringRound

/-- The returned bytes are the target of the progress.  `none` means that the
loop still runs after the given number of passes. -/
def readFileIoUring (outside : ReadOutside) (passes : Nat) :
    Option (Except UringError (Progress Bytes)) :=
  if outside.opens = false then some (.error .opening)
  else
    match outside.fileLen with
    | none => some (.error .metadata)
    | some fileLen =>
        if outside.ringStarts = false then some (.error .ring)
        else
          uringLoop fileLen READ_CHUNK
            (fun pass offset count result =>
              overwrite 0 result offset (((outside.contents pass).drop offset).take count))
            outside.rounds (List.replicate fileLen 0) passes

/-! ### Writing -/

structure WriteOutside where
  opens : Bool
  ringStarts : Bool
  rounds : Nat → UringRound

/-- The file that is left is the target of the progress; opening truncates it. -/
def writeFileIoUring (outside : WriteOutside) (data : Bytes) (passes : Nat) :
    Option (Except UringError (Progress Bytes)) :=
  if outside.opens = false then some (.error .opening)
  else if outside.ringStarts = false then some (.error .ring)
  else
    uringLoop data.length (64 * 1024)
      (fun _ offset count file => overwrite 0 file offset ((data.drop offset).take count))
      outside.rounds [] passes

/-! ### When the read ends -/

namespace ReadOutside

def answers (outside : ReadOutside) (pass : Nat) : Except UringError Int :=
  (outside.rounds pass).answer

/-- A completion never reports more than was asked for. -/
def Allowed (outside : ReadOutside) : Prop :=
  ∀ fileLen, outside.fileLen = some fileLen → ∀ pass result,
    outside.rounds pass = .completed result →
      result ≤ request fileLen READ_CHUNK (carried outside.answers pass)

/-- The loop is reached, and from some pass on every completion reports the end
of the file although fewer bytes have come than the length that was taken. -/
def StopsShort (outside : ReadOutside) : Prop :=
  outside.opens = true ∧ outside.ringStarts = true ∧
    ∃ fileLen, outside.fileLen = some fileLen ∧ Stalls fileLen outside.answers

end ReadOutside

/-- A read ends exactly when the kernel does not report the end of the file for
ever before the length is reached. -/
theorem readFileIoUring_ends_iff (outside : ReadOutside) :
    (∃ passes ended, readFileIoUring outside passes = some ended) ↔ ¬ outside.StopsShort := by
  unfold readFileIoUring ReadOutside.StopsShort
  cases opens : outside.opens with
  | false => exact iff_of_true ⟨0, _, rfl⟩ (fun short => nomatch short.1)
  | true =>
      cases fileLen : outside.fileLen with
      | none =>
          refine iff_of_true ⟨0, _, rfl⟩ ?_
          rintro ⟨_, _, length, impossible, _⟩
          cases impossible
      | some length =>
          cases ring : outside.ringStarts with
          | false => exact iff_of_true ⟨0, _, rfl⟩ (fun short => nomatch short.2.1)
          | true =>
              have sameStall : (true = true ∧ true = true ∧
                  ∃ fileLen, some length = some fileLen ∧ Stalls fileLen outside.answers) ↔
                    Stalls length outside.answers := by
                constructor
                · rintro ⟨_, _, fileLen, same, stalls⟩
                  cases same
                  exact stalls
                · intro stalls
                  exact ⟨rfl, rfl, length, rfl, stalls⟩
              rw [sameStall]
              exact loop_ends_iff

theorem readFileIoUring_of_le {outside : ReadOutside} {passes more : Nat} (fewer : passes ≤ more)
    {ended : Except UringError (Progress Bytes)}
    (ends : readFileIoUring outside passes = some ended) :
    readFileIoUring outside more = some ended := by
  unfold readFileIoUring at ends ⊢
  split
  · rename_i missing
    rw [if_pos missing] at ends
    exact ends
  · rename_i opens
    rw [if_neg opens] at ends
    cases fileLen : outside.fileLen with
    | none =>
        rw [fileLen] at ends
        exact ends
    | some length =>
        rw [fileLen] at ends
        dsimp only at ends ⊢
        split
        · rename_i noRing
          rw [if_pos noRing] at ends
          exact ends
        · rename_i ring
          rw [if_neg ring] at ends
          exact loop_of_le fewer ends

/-- The file of one byte was cut to nothing after its length was taken. -/
theorem readFileIoUring_spins_at_end_of_file :
    ¬ ∀ outside : ReadOutside, outside.Allowed →
      ∃ passes ended, readFileIoUring outside passes = some ended := by
  intro ends
  let outside : ReadOutside :=
    { opens := true
      fileLen := some 1
      ringStarts := true
      contents := fun _ => []
      rounds := fun _ => .completed 0 }
  have allowed : outside.Allowed := by
    intro fileLen _ pass result completed
    cases completed
    exact Int.natCast_nonneg _
  have stalls : Stalls 1 outside.answers :=
    ⟨0, fun _ before => absurd before (Nat.not_lt_zero _), fun _ _ => rfl, Nat.zero_lt_one⟩
  obtain ⟨passes, ended, returned⟩ := ends outside allowed
  have runs : readFileIoUring outside passes = none :=
    loop_eq_none_of_unending (unending_iff_stalls.mpr stalls) passes rfl
  rw [runs] at returned
  cases returned

/-! ### Short completions -/

def completedRounds (results : Nat → Nat) (pass : Nat) : UringRound := .completed (results pass)

/-- Every pass moves at least one byte and at most what it asked for. -/
def ShortCompletions (len : Nat) (results : Nat → Nat) : Prop :=
  ∀ pass, ∑ earlier ∈ Finset.range pass, results earlier < len →
    1 ≤ results pass ∧
      results pass ≤ min (len - ∑ earlier ∈ Finset.range pass, results earlier) (64 * 1024)

/-- The submitted ranges of a loop over `len` bytes: each starts where the bytes
of the earlier passes end, none is longer than 64 KB or leaves the bytes, and
the last pass ends at `len`. -/
structure Contiguous (len : Nat) (results : Nat → Nat) (submitted : List (Nat × Nat)) : Prop where
  passes : submitted.length ≤ len
  starts : ∀ pass range, submitted[pass]? = some range →
    range.1 = ∑ earlier ∈ Finset.range pass, results earlier
  inBounds : ∀ range, range ∈ submitted → range.1 + range.2 ≤ len
  chunks : ∀ range, range ∈ submitted → range.2 ≤ 64 * 1024
  ends : ∑ pass ∈ Finset.range submitted.length, results pass = len

theorem carried_completedRounds (results : Nat → Nat) (pass : Nat) :
    carried (fun pass => (completedRounds results pass).answer) pass =
      ∑ earlier ∈ Finset.range pass, results earlier := by
  apply Finset.sum_congr rfl
  intro earlier _
  exact Int.toNat_natCast _

theorem ShortCompletions.advances {len : Nat} {results : Nat → Nat}
    (short : ShortCompletions len results) :
    Advances len (64 * 1024) (fun pass => (completedRounds results pass).answer) := by
  intro pass below
  rw [carried_completedRounds] at below ⊢
  obtain ⟨least, most⟩ := short pass below
  exact ⟨results pass, rfl, Int.ofNat_le.mpr least, Int.ofNat_le.mpr most⟩

theorem contiguous_of_tracked {len : Nat} {results : Nat → Nat} {Holds : Nat → Bytes → Prop}
    {final : Progress Bytes}
    (tracked : Tracked len (64 * 1024) (fun pass => (completedRounds results pass).answer) Holds
      final)
    (ended : final.offset = len) : Contiguous len results final.submitted where
  passes := by
    rw [← ended]
    exact tracked.rounds
  starts := by
    intro pass range found
    rw [(tracked.range_eq found).1]
    exact carried_completedRounds results pass
  inBounds := by
    intro range member
    obtain ⟨pass, found⟩ := List.mem_iff_getElem?.mp member
    obtain ⟨rfl, within⟩ := tracked.range_eq found
    dsimp only [request]
    omega
  chunks := by
    intro range member
    obtain ⟨pass, found⟩ := List.mem_iff_getElem?.mp member
    rw [(tracked.range_eq found).1]
    exact Nat.min_le_right _ _
  ends := by
    rw [← carried_completedRounds, ← tracked.offset]
    exact ended

/-- Nothing is lost by short completions: the loop over `bytes` ends within one
pass for each byte, in contiguous ranges, and leaves exactly the bytes. -/
theorem uringLoop_of_short {bytes : Bytes} {results : Nat → Nat}
    (short : ShortCompletions bytes.length results) (target : Nat → Bytes)
    (drops : ∀ offset count, (target offset).drop count = target (offset + count)) :
    ∃ ended, uringLoop bytes.length (64 * 1024)
        (fun _ offset count moved => overwrite 0 moved offset ((bytes.drop offset).take count))
        (completedRounds results) (target 0) bytes.length = some (.ok ended) ∧
      ended.target = bytes ++ target bytes.length ∧
      Contiguous bytes.length results ended.submitted := by
  have start : Tracked bytes.length (64 * 1024) (fun pass => (completedRounds results pass).answer)
      (fun offset moved => moved = bytes.take offset ++ target offset)
      { offset := 0, target := target 0, submitted := [] } :=
    ⟨rfl, Nat.zero_le _, Nat.le_refl 0, rfl, rfl⟩
  have moves : ∀ (pass offset count : Nat) (moved : Bytes), offset + count ≤ bytes.length →
      moved = bytes.take offset ++ target offset →
      overwrite 0 moved offset ((bytes.drop offset).take count) =
        bytes.take (offset + count) ++ target (offset + count) := by
    intro pass offset count moved inside before
    rw [before, overwrite_take_append 0 bytes _ inside, drops]
  obtain ⟨ended, returned, tracked, complete⟩ :=
    start.loop short.advances moves bytes.length (Nat.le_add_left _ _)
  refine ⟨ended, returned, ?_, contiguous_of_tracked tracked complete⟩
  have whole := tracked.holds
  rw [complete, List.take_length] at whole
  exact whole

/-- A read of a file that does not change returns its bytes and a write leaves
the data, whatever the lengths of the completions. -/
structure TransfersExactly (bytes : Bytes) (results : Nat → Nat) : Prop where
  read : ∃ ended, readFileIoUring
      { opens := true
        fileLen := some bytes.length
        ringStarts := true
        contents := fun _ => bytes
        rounds := completedRounds results } bytes.length = some (.ok ended) ∧
    ended.target = bytes ∧ Contiguous bytes.length results ended.submitted
  written : ∃ ended, writeFileIoUring
      { opens := true, ringStarts := true, rounds := completedRounds results } bytes bytes.length =
        some (.ok ended) ∧
    ended.target = bytes ∧ Contiguous bytes.length results ended.submitted

theorem transfersExactly_of_short (bytes : Bytes) (results : Nat → Nat)
    (short : ShortCompletions bytes.length results) : TransfersExactly bytes results where
  read := by
    obtain ⟨ended, returned, target, contiguous⟩ :=
      uringLoop_of_short short (fun offset => List.replicate (bytes.length - offset) 0) (by
        intro offset count
        rw [List.drop_replicate, Nat.sub_sub])
    refine ⟨ended, returned, ?_, contiguous⟩
    rw [target, Nat.sub_self, List.replicate_zero, List.append_nil]
  written := by
    obtain ⟨ended, returned, target, contiguous⟩ :=
      uringLoop_of_short short (fun _ => []) (fun _ _ => List.drop_nil)
    refine ⟨ended, returned, ?_, contiguous⟩
    rw [target, List.append_nil]

theorem transfersExactly_bytewise : TransfersExactly [7, 8, 9] (fun _ => 1) := by
  apply transfersExactly_of_short
  intro pass below
  rw [Finset.sum_const, Finset.card_range, smul_eq_mul, Nat.mul_one] at below ⊢
  change pass < 3 at below
  change 1 ≤ 1 ∧ 1 ≤ min (3 - pass) (64 * 1024)
  omega

end Udpix.IoEngine

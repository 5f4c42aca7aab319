/-
The reassembly task on arbitrary streams.

Every addition, slice and drain of the inner loop is written with its check,
and the loop is given one pass more than the accumulator has bytes.  The task
also ends, without a fault, when the consumer has dropped its end of the
channel: `takes` says for each block whether the consumer is still there.
-/

import Udpix.Cli.Direct
import Udpix.IoEngine.Packer
import Udpix.Library.Fallible

namespace Udpix.Cli

open DirectSend Fallible LittleEndian StreamDecoder Protocol

inductive ReassemblyFault where
  | lengthOverflow
  | blockSlice
  | drain
  | stillLooping
deriving DecidableEq

structure BlockTask where
  accum : Bytes
  sent : List Bytes
  returned : Bool
deriving DecidableEq

/-- `accum.drain(..count)`. -/
def drainFront (accum : Bytes) (count : Nat) : Option Bytes :=
  if count ≤ accum.length then some (accum.drop count) else none

/-- One pass of the inner loop.  Where the sum `8 + block_len` overflows every build
panics: one that does not check it wraps below eight, and slices a range that ends
before it starts. -/
def passChecked (accum : Bytes) : Except ReassemblyFault (Option (Bytes × Bytes)) :=
  if accum.length < 8 then .ok none
  else
    match IoEngine.Packer.addUsize true 8 (lengthPrefix accum) with
    | none => .error .lengthOverflow
    | some last =>
        if accum.length < last then .ok none
        else
          match IoEngine.Packer.slice accum 8 last with
          | none => .error .blockSlice
          | some block =>
              match drainFront accum last with
              | none => .error .drain
              | some rest => .ok (some (block, rest))

namespace BlockTask

def start : BlockTask := { accum := [], sent := [], returned := false }

def loop (takes : Nat → Bool) : Nat → BlockTask → Except ReassemblyFault BlockTask
  | 0, _ => .error .stillLooping
  | passes + 1, task =>
      match passChecked task.accum with
      | .error fault => .error fault
      | .ok none => .ok task
      | .ok (some (block, rest)) =>
          if takes task.sent.length then
            loop takes passes { task with accum := rest, sent := task.sent ++ [block] }
          else .ok { task with accum := rest, returned := true }

def receiveChunk (takes : Nat → Bool) (task : BlockTask) (chunk : Bytes) :
    Except ReassemblyFault BlockTask :=
  if task.returned then .ok task
  else
    loop takes ((task.accum ++ chunk).length + 1) { task with accum := task.accum ++ chunk }

def run (takes : Nat → Bool) (chunks : List Bytes) : Except ReassemblyFault BlockTask :=
  chunks.foldlM (receiveChunk takes) start

end BlockTask

/-- Behind complete blocks that the consumer took, no length prefix of the
stream reaches `2 ^ 64 - 8`. -/
def PrefixesFit (takes : Nat → Bool) (stream : Bytes) : Prop :=
  ∀ (blocks : List Bytes) (rest : Bytes), stream = blocks.flatMap frame ++ rest →
    (∀ block, block ∈ blocks → block.length + 8 < 2 ^ 64) →
    (∀ index, index < blocks.length → takes index = true) →
    8 ≤ rest.length → lengthPrefix rest < 2 ^ 64 - 8

/-! ### One pass -/

/-- A pass fails only at a length that overflows, and else is a decoder step. -/
theorem passChecked_eq (accum : Bytes) :
    passChecked accum =
      if lengthOverflows accum then .error .lengthOverflow else .ok (nextBlock accum) := by
  unfold passChecked nextBlock IoEngine.Packer.addUsize
  by_cases short : accum.length < 8
  · have calm : ¬ lengthOverflows accum = true := by
      rw [lengthOverflows_iff]
      omega
    rw [if_pos short, if_pos short, if_neg calm]
  · rw [if_neg short, if_neg short]
    by_cases large : 2 ^ 64 ≤ 8 + lengthPrefix accum
    · have overflows : lengthOverflows accum = true :=
        (lengthOverflows_iff accum).mpr ⟨Nat.le_of_not_lt short, large⟩
      rw [if_neg (Nat.not_lt.mpr large), if_pos overflows]
      rfl
    · have calm : ¬ lengthOverflows accum = true := by
        rw [lengthOverflows_iff]
        exact fun overflows => large overflows.2
      rw [if_pos (Nat.lt_of_not_le large), if_neg calm, if_neg large]
      dsimp only
      split
      · rfl
      · rename_i complete
        have last : 8 + lengthPrefix accum ≤ accum.length := Nat.le_of_not_lt complete
        rw [IoEngine.Packer.slice, if_pos ⟨Nat.le_add_right 8 _, last⟩, Nat.add_sub_cancel_left]
        dsimp only
        rw [drainFront, if_pos last]

/-- A decoded block stands behind its own length. -/
theorem eq_frame_of_nextBlock {accum block rest : Bytes}
    (found : nextBlock accum = some (block, rest)) :
    accum = frame block ++ rest ∧ block.length + 8 < 2 ^ 64 := by
  unfold nextBlock at found
  split at found
  · cases found
  · rename_i long
    split at found
    · cases found
    · rename_i fits
      split at found
      · cases found
      · rename_i complete
        cases found
        have size : ((accum.drop 8).take (lengthPrefix accum)).length = lengthPrefix accum := by
          rw [List.length_take, List.length_drop]
          omega
        have prefixBytes : toLeBytes 8 (lengthPrefix accum) = accum.take 8 := by
          have taken : (accum.take 8).length = 8 := by
            rw [List.length_take]
            omega
          have same := toLeBytes_fromLeBytes (accum.take 8)
          rw [taken] at same
          exact same
        refine ⟨?_, by rw [size]; omega⟩
        rw [frame, size, prefixBytes, ← List.take_add, List.take_append_drop]

/-- What is taken off the stream is its beginning. -/
theorem eq_frames_of_extract (stream : Bytes) :
    stream = (extract nextBlock stream).1.flatMap frame ++ (extract nextBlock stream).2 ∧
      ∀ block, block ∈ (extract nextBlock stream).1 → block.length + 8 < 2 ^ 64 := by
  induction stream using steady_nextBlock.induction with
  | waiting stream waits =>
      rw [extract_of_none waits]
      exact ⟨rfl, fun _ member => nomatch member⟩
  | decoded stream block rest found ih =>
      obtain ⟨cut, fits⟩ := eq_frame_of_nextBlock found
      rw [steady_nextBlock.extract_of_some found]
      refine ⟨?_, ?_⟩
      · rw [List.flatMap_cons, List.append_assoc, ← ih.1]
        exact cut
      · intro other member
        rcases List.mem_cons.mp member with isBlock | inRest
        · rw [isBlock]
          exact fits
        · exact ih.2 other inRest

/-! ### Whole runs -/

/-- The consumer takes these blocks, the first of them as number `start`. -/
def AllTaken (takes : Nat → Bool) (start : Nat) (blocks : List Bytes) : Prop :=
  ∀ index, index < blocks.length → takes (start + index) = true

theorem allTaken_append (takes : Nat → Bool) (start : Nat) (first second : List Bytes) :
    AllTaken takes start (first ++ second) ↔
      AllTaken takes start first ∧ AllTaken takes (start + first.length) second := by
  unfold AllTaken
  constructor
  · intro all
    refine ⟨?_, ?_⟩
    · intro index inside
      exact all index (by rw [List.length_append]; omega)
    · intro index inside
      rw [Nat.add_assoc]
      exact all (first.length + index) (by rw [List.length_append]; omega)
  · rintro ⟨front, back⟩ index inside
    by_cases early : index < first.length
    · exact front index early
    · rw [List.length_append] at inside
      have late := back (index - first.length) (by omega)
      rwa [show start + first.length + (index - first.length) = start + index by omega] at late

/-- What becomes of a stream behind the blocks `sent`: a fault at an overflowing
length, a task that waits for more, or one that has returned. -/
def Follows (takes : Nat → Bool) (sent : List Bytes) (stream : Bytes)
    (result : Except ReassemblyFault BlockTask) : Prop :=
  (result = .error .lengthOverflow ∧
    AllTaken takes sent.length (extract nextBlock stream).1 ∧
    lengthOverflows (extract nextBlock stream).2 = true) ∨
  (result = .ok
      { accum := (extract nextBlock stream).2
        sent := sent ++ (extract nextBlock stream).1
        returned := false } ∧
    AllTaken takes sent.length (extract nextBlock stream).1 ∧
    lengthOverflows (extract nextBlock stream).2 = false) ∨
  (∃ task, result = .ok task ∧ task.returned = true ∧
    ¬ AllTaken takes sent.length (extract nextBlock stream).1)

theorem loop_follows (takes : Nat → Bool) (accum : Bytes) (sent : List Bytes) (passes : Nat)
    (enough : accum.length < passes) :
    Follows takes sent accum
      (BlockTask.loop takes passes { accum := accum, sent := sent, returned := false }) := by
  induction accum using steady_nextBlock.induction generalizing sent passes with
  | waiting accum waits =>
      cases passes with
      | zero => exact absurd enough (Nat.not_lt_zero _)
      | succ passes =>
          unfold Follows
          rw [BlockTask.loop, passChecked_eq, waits, extract_of_none waits, List.append_nil]
          cases overflows : lengthOverflows accum with
          | true => exact Or.inl ⟨rfl, (fun _ inside => nomatch inside), rfl⟩
          | false => exact Or.inr (Or.inl ⟨rfl, (fun _ inside => nomatch inside), rfl⟩)
  | decoded accum block rest found ih =>
      cases passes with
      | zero => exact absurd enough (Nat.not_lt_zero _)
      | succ passes =>
          have shorter := steady_nextBlock.shrinks accum block rest found
          have calm : ¬ lengthOverflows accum = true := by
            intro overflows
            rw [nextBlock_of_lengthOverflows overflows] at found
            cases found
          have later := ih (sent ++ [block]) passes (by omega)
          have counted : (sent ++ [block]).length = sent.length + 1 := List.length_append
          have first : AllTaken takes sent.length (block :: (extract nextBlock rest).1) ↔
              takes sent.length = true ∧
                AllTaken takes (sent ++ [block]).length (extract nextBlock rest).1 := by
            rw [counted]
            refine (allTaken_append takes sent.length [block] _).trans (and_congr ?_ Iff.rfl)
            constructor
            · intro taken
              exact taken 0 Nat.one_pos
            · intro taken index inside
              rw [Nat.lt_one_iff.mp inside]
              exact taken
          unfold Follows
          rw [BlockTask.loop, passChecked_eq, if_neg calm, found,
            steady_nextBlock.extract_of_some found]
          dsimp only
          cases taken : takes sent.length with
          | false =>
              refine Or.inr (Or.inr ⟨_, rfl, rfl, ?_⟩)
              intro all
              have impossible := (first.mp all).1
              rw [taken] at impossible
              cases impossible
          | true =>
              rw [if_pos rfl]
              rcases later with
                ⟨failed, all, overflows⟩ | ⟨waiting, all, fits⟩ | ⟨task, ended, returned, dropped⟩
              · exact Or.inl ⟨failed, first.mpr ⟨taken, all⟩, overflows⟩
              · rw [List.append_assoc] at waiting
                exact Or.inr (Or.inl ⟨waiting, first.mpr ⟨taken, all⟩, fits⟩)
              · exact Or.inr (Or.inr ⟨task, ended, returned, fun all => dropped (first.mp all).2⟩)

theorem BlockTask.run_snoc (takes : Nat → Bool) (chunks : List Bytes) (chunk : Bytes) :
    run takes (chunks ++ [chunk]) = run takes chunks >>= fun task =>
      receiveChunk takes task chunk :=
  foldlM_snoc _ _ chunks chunk

/-- The result of a run is determined by the concatenation of its chunks. -/
theorem run_follows (takes : Nat → Bool) (chunks : List Bytes) :
    Follows takes [] chunks.flatten (BlockTask.run takes chunks) := by
  induction chunks using List.reverseRecOn with
  | nil => exact Or.inr (Or.inl ⟨rfl, (fun _ inside => nomatch inside), rfl⟩)
  | append_singleton chunks chunk ih =>
      have joined := steady_nextBlock.extract_append chunks.flatten chunk
      have split := allTaken_append takes 0 (extract nextBlock chunks.flatten).1
        (extract nextBlock ((extract nextBlock chunks.flatten).2 ++ chunk)).1
      rw [Nat.zero_add] at split
      rw [BlockTask.run_snoc, List.flatten_append, List.flatten_singleton]
      unfold Follows at ih ⊢
      rw [joined]
      rcases ih with
        ⟨failed, all, overflows⟩ | ⟨waiting, all, fits⟩ | ⟨task, ended, returned, dropped⟩
      · -- the bytes that made the task fail would never decode
        left
        rw [failed, extract_of_none (nextBlock_of_overflow _ chunk overflows), List.append_nil]
        exact ⟨rfl, all, lengthOverflows_append overflows chunk⟩
      · have later := loop_follows takes ((extract nextBlock chunks.flatten).2 ++ chunk)
          (extract nextBlock chunks.flatten).1 _ (Nat.lt_succ_self _)
        rw [waiting]
        rcases later with
          ⟨failed, rest, overflows⟩ | ⟨still, rest, fits⟩ | ⟨task, ended, returned, dropped⟩
        · exact Or.inl ⟨failed, split.mpr ⟨all, rest⟩, overflows⟩
        · exact Or.inr (Or.inl ⟨still, split.mpr ⟨all, rest⟩, fits⟩)
        · exact Or.inr (Or.inr ⟨task, ended, returned, fun taken => dropped (split.mp taken).2⟩)
      · refine Or.inr (Or.inr ⟨task, ?_, returned, fun taken => dropped (split.mp taken).1⟩)
        rw [ended]
        exact if_pos returned

theorem prefixesFit_iff (takes : Nat → Bool) (stream : Bytes) :
    PrefixesFit takes stream ↔
      ¬ (AllTaken takes 0 (extract nextBlock stream).1 ∧
        lengthOverflows (extract nextBlock stream).2 = true) := by
  constructor
  · rintro fit ⟨all, overflows⟩
    obtain ⟨cut, bounded⟩ := eq_frames_of_extract stream
    obtain ⟨long, large⟩ := (lengthOverflows_iff _).mp overflows
    have small := fit _ _ cut bounded
      (fun index inside => by have := all index inside; rwa [Nat.zero_add] at this) long
    omega
  · intro safe blocks rest cut bounded taken long
    by_contra large
    apply safe
    have overflows : lengthOverflows rest = true :=
      (lengthOverflows_iff rest).mpr ⟨long, by omega⟩
    have decoded : extract nextBlock stream = (blocks, rest) := by
      rw [cut, steady_nextBlock.extract_append, extract_frames blocks bounded]
      dsimp only
      rw [List.nil_append, extract_of_none (nextBlock_of_lengthOverflows overflows),
        List.append_nil]
    rw [decoded]
    refine ⟨?_, overflows⟩
    intro index inside
    rw [Nat.zero_add]
    exact taken index inside

/-- The task comes through a stream, whatever its chunks and however long the
consumer stays, exactly when every length prefix it comes to leaves room for
the eight bytes of the prefix. -/
theorem run_ok_iff_prefixesFit (takes : Nat → Bool) (chunks : List Bytes) :
    (∃ task, BlockTask.run takes chunks = .ok task) ↔ PrefixesFit takes chunks.flatten := by
  rw [prefixesFit_iff]
  rcases run_follows takes chunks with
    ⟨failed, all, overflows⟩ | ⟨waiting, _, fits⟩ | ⟨task, ended, _, dropped⟩
  · refine iff_of_false ?_ (fun safe => safe ⟨all, overflows⟩)
    rintro ⟨task, succeeded⟩
    cases failed.symm.trans succeeded
  · refine iff_of_true ⟨_, waiting⟩ ?_
    rintro ⟨_, overflows⟩
    cases fits.symm.trans overflows
  · exact iff_of_true ⟨task, ended⟩ (fun all => dropped all.1)

/-- Eight bytes of ones, received first. -/
theorem run_ok_fails_at_max_length :
    ¬ ∀ (takes : Nat → Bool) (chunks : List Bytes),
      ∃ task, BlockTask.run takes chunks = .ok task := by
  intro safe
  obtain ⟨task, succeeded⟩ := safe (fun _ => true) [List.replicate 8 255]
  have failed : BlockTask.run (fun _ => true) [List.replicate 8 255] =
      .error .lengthOverflow := by
    decide +kernel
  cases failed.symm.trans succeeded

/-- With a consumer that stays, the task is the reassembler. -/
theorem run_eq_reassembler (chunks : List Bytes) :
    BlockTask.run (fun _ => true) chunks =
      if (Reassembler.run chunks).panicked then .error .lengthOverflow
      else .ok
        { accum := (Reassembler.run chunks).accum
          sent := (Reassembler.run chunks).sent
          returned := false } := by
  obtain ⟨sent, panicked, accum⟩ := Reassembler.run_spec chunks
  rcases run_follows (fun _ => true) chunks with
    ⟨failed, _, overflows⟩ | ⟨waiting, _, fits⟩ | ⟨_, _, _, dropped⟩
  · rw [failed, panicked, if_pos overflows]
  · have running : (Reassembler.run chunks).panicked = false := panicked.trans fits
    rw [waiting, running, if_neg Bool.false_ne_true, accum running, sent]
    rfl
  · exact absurd (fun _ _ => rfl) dropped

end Udpix.Cli

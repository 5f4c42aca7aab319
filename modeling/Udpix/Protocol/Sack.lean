/-
The selective-acknowledgement bitmap.

A payload names the lowest sequence number not yet received and holds one bit
for each of the 1024 numbers from there on.  Marking sets a bit; advancing the
base slides the whole window down.  Sequence numbers are natural numbers here:
the receiver only ever computes `base_seq + 1` on them, and the runs studied
below keep every value under `2 ^ 64`.
-/

import Udpix.Library.BitWindow
import Udpix.Library.BoundsCheck
import Udpix.Protocol.Packet

namespace Udpix.Protocol

open BitWindow BoundsCheck LittleEndian

def SACK_WORDS : Nat := 16

def SACK_WINDOW : Nat := SACK_WORDS * 64

structure SackPayload where
  baseSeq : Nat
  wordCount : Nat
  words : List (BitVec 64)
  words_length : words.length = SACK_WORDS
deriving DecidableEq

namespace SackPayload

def default : SackPayload :=
  { baseSeq := 0
    wordCount := 0
    words := List.replicate SACK_WORDS 0#64
    words_length := List.length_replicate }

def wireSize (payload : SackPayload) : Nat := 8 + 1 + payload.wordCount * 8

/-- Mark a sequence number received.  Numbers below the base or past the window
leave the bitmap alone. -/
def markReceived (payload : SackPayload) (seq : Nat) : SackPayload :=
  if seq < payload.baseSeq then payload
  else
    let offset := seq - payload.baseSeq
    if SACK_WINDOW ≤ offset then payload
    else
      let wordIdx := offset / 64
      { baseSeq := payload.baseSeq
        wordCount := if payload.wordCount < wordIdx + 1 then wordIdx + 1 else payload.wordCount
        words := setBit payload.words offset
        words_length := by rw [setBit_length, payload.words_length] }

def isReceived (payload : SackPayload) (seq : Nat) : Bool :=
  if seq < payload.baseSeq then true
  else
    let offset := seq - payload.baseSeq
    if SACK_WINDOW ≤ offset then false
    else (payload.words.getD (offset / 64) 0#64 >>> (offset % 64)) &&& 1#64 == 1#64

def moveWords (shift : Nat) (words : List (BitVec 64)) : List (BitVec 64) :=
  if 0 < shift / 64 then dropWords (shift / 64) words else words

/-- The words after a slide by less than the whole window: whole words move
first, then the carry loop moves the remaining bits. -/
def shiftWords (shift : Nat) (words : List (BitVec 64)) : List (BitVec 64) :=
  if 0 < shift % 64 then (shiftCarry (shift % 64) (moveWords shift words)).1
  else moveWords shift words

theorem shiftWords_length (shift : Nat) (words : List (BitVec 64))
    (within : shift / 64 ≤ words.length) :
    (shiftWords shift words).length = words.length := by
  have moved : (moveWords shift words).length = words.length := by
    unfold moveWords
    split
    · exact dropWords_length _ _ within
    · rfl
  unfold shiftWords
  split
  · rw [shiftCarry_length, moved]
  · exact moved

/-- Slide the base forward.  A base at or below the current one is ignored. -/
def advanceBase (payload : SackPayload) (newBase : Nat) : SackPayload :=
  if newBase ≤ payload.baseSeq then payload
  else
    let shift := newBase - payload.baseSeq
    if inside : shift < SACK_WINDOW then
      { baseSeq := newBase
        wordCount := trimZeros (shiftWords shift payload.words) SACK_WORDS
        words := shiftWords shift payload.words
        words_length := by
          have within : shift / 64 ≤ payload.words.length := by
            rw [payload.words_length]
            unfold SACK_WINDOW at inside
            omega
          rw [shiftWords_length shift payload.words within, payload.words_length] }
    else
      { baseSeq := newBase
        wordCount := 0
        words := List.replicate SACK_WORDS 0#64
        words_length := List.length_replicate }

/-- A `u64` addition; `none` where a checked build panics. -/
def addSeq (left right : Nat) : Option Nat :=
  if left + right < 2 ^ 64 then some (left + right) else none

def missingSeqs (payload : SackPayload) : Option (List Nat) :=
  ((List.range SACK_WINDOW).mapM fun offset =>
    let received :=
      (payload.words.getD (offset / 64) 0#64 >>> (offset % 64)) &&& 1#64 == 1#64
    if received then some none else (addSeq payload.baseSeq offset).map some).map
      List.reduceOption

/-! ### Serialisation -/

def serialise (payload : SackPayload) : Bytes :=
  toLeBytes 8 payload.baseSeq ++ toLeBytes 1 payload.wordCount ++
    (payload.words.take payload.wordCount).flatMap (fun word => toLeBytes 8 word.toNat)

/-- The word behind the nine fixed bytes and `index` earlier words. -/
def wordAt (data : Bytes) (index : Nat) : BitVec 64 :=
  BitVec.ofNat 64 (RudpHeader.fieldAt data (9 + index * 8) 8)

/-- The words after `count` rounds of the copy loop, which nothing keeps inside its
array. -/
def copyWords (data : Bytes) : Nat → Except (Stop Empty) (List (BitVec 64))
  | 0 => .ok (List.replicate SACK_WORDS 0#64)
  | count + 1 =>
      match copyWords data count with
      | .error stop => .error stop
      | .ok words => store words count (wordAt data count)

theorem copyWords_length {data : Bytes} {count : Nat} {words : List (BitVec 64)}
    (copied : copyWords data count = .ok words) : words.length = SACK_WORDS := by
  induction count generalizing words with
  | zero =>
      cases copied
      exact List.length_replicate
  | succ count ih =>
      rw [copyWords] at copied
      split at copied
      · cases copied
      · rename_i earlier before
        rw [length_of_store copied, ih before]

/-- Parse a payload from the start of `data`, with the number of bytes used.
`none` stands for data that is too short. -/
def deserialise (data : Bytes) : Except (Stop Empty) (Option (SackPayload × Nat)) :=
  if data.length < 9 then .ok none
  else
    let wordCount := (data.getD 8 0).toNat
    let needed := 9 + wordCount * 8
    if data.length < needed then .ok none
    else
      match copied : copyWords data wordCount with
      | .error stop => .error stop
      | .ok words =>
          .ok (some
            ({ baseSeq := RudpHeader.fieldAt data 0 8
               wordCount := wordCount
               words := words
               words_length := copyWords_length copied }, needed))

/-! ### One bit of the window -/

theorem flatBit_moveWords (shift : Nat) (words : List (BitVec 64)) (position : Nat) :
    flatBit (moveWords shift words) position =
      flatBit words (position + 64 * (shift / 64)) := by
  unfold moveWords
  split
  · exact flatBit_dropWords (by decide) _ _ _
  · have noWords : shift / 64 = 0 := by omega
    rw [noWords, Nat.mul_zero, Nat.add_zero]

theorem flatBit_shiftWords (shift : Nat) (words : List (BitVec 64)) (position : Nat) :
    flatBit (shiftWords shift words) position = flatBit words (position + shift) := by
  unfold shiftWords
  split
  · rename_i carries
    rw [flatBit_shiftCarry _ carries (Nat.mod_lt _ (by decide)), flatBit_moveWords]
    congr 1
    omega
  · rename_i aligned
    rw [flatBit_moveWords]
    congr 1
    omega

private theorem shift_and_one (word : BitVec 64) (bit : Nat) :
    ((word >>> bit) &&& 1#64 == 1#64) = word.getLsbD bit := by
  have lowBit : (word >>> bit) &&& 1#64 = if word.getLsbD bit then 1#64 else 0#64 := by
    apply BitVec.eq_of_getLsbD_eq
    intro place _
    rw [BitVec.getLsbD_and, BitVec.getLsbD_ushiftRight, BitVec.getLsbD_one]
    by_cases first : place = 0
    · subst first
      cases word.getLsbD bit <;> simp
    · cases word.getLsbD bit <;> simp [first]
  rw [lowBit]
  cases word.getLsbD bit <;> decide

theorem isReceived_eq (payload : SackPayload) (seq : Nat) :
    payload.isReceived seq =
      (decide (seq < payload.baseSeq) ||
        flatBit payload.words (seq - payload.baseSeq)) := by
  unfold isReceived
  split
  · rename_i below
    simp [below]
  · rename_i notBelow
    rw [decide_eq_false notBelow, Bool.false_or]
    dsimp only
    split
    · rename_i outside
      rw [flatBit_of_length_le (by decide) _ _ (by
        rw [payload.words_length, Nat.mul_comm]
        exact outside)]
    · rw [shift_and_one]
      rfl

theorem isReceived_of_lt (payload : SackPayload) (seq : Nat)
    (below : seq < payload.baseSeq) : payload.isReceived seq = true := by
  rw [isReceived_eq]
  simp [below]

theorem isReceived_of_window_le (payload : SackPayload) (seq : Nat)
    (outside : payload.baseSeq + SACK_WINDOW ≤ seq) :
    payload.isReceived seq = false := by
  have notBelow : ¬ seq < payload.baseSeq := by omega
  have far : SACK_WINDOW ≤ seq - payload.baseSeq := by omega
  unfold isReceived
  rw [if_neg notBelow]
  exact if_pos far

@[simp] theorem markReceived_baseSeq (payload : SackPayload) (seq : Nat) :
    (payload.markReceived seq).baseSeq = payload.baseSeq := by
  unfold markReceived
  split
  · rfl
  · dsimp only
    split <;> rfl

theorem isReceived_markReceived (payload : SackPayload) (seq other : Nat) :
    (payload.markReceived seq).isReceived other =
      (payload.isReceived other ||
        (decide (other = seq) && decide (seq < payload.baseSeq + SACK_WINDOW))) := by
  by_cases below : seq < payload.baseSeq
  · have unchanged : payload.markReceived seq = payload := if_pos below
    rw [unchanged]
    by_cases same : other = seq
    · subst same
      rw [isReceived_of_lt payload other below, Bool.true_or]
    · simp [same]
  · by_cases far : SACK_WINDOW ≤ seq - payload.baseSeq
    · have unchanged : payload.markReceived seq = payload := by
        unfold markReceived
        rw [if_neg below]
        exact if_pos far
      have outside : ¬ seq < payload.baseSeq + SACK_WINDOW := by omega
      rw [unchanged]
      simp [outside]
    · have inside : seq < payload.baseSeq + SACK_WINDOW := by omega
      have newWords : (payload.markReceived seq).words =
          setBit payload.words (seq - payload.baseSeq) := by
        unfold markReceived
        rw [if_neg below]
        dsimp only
        rw [if_neg far]
      have wordInside : (seq - payload.baseSeq) / 64 < payload.words.length := by
        rw [payload.words_length]
        unfold SACK_WINDOW at far
        omega
      rw [isReceived_eq, isReceived_eq, markReceived_baseSeq, newWords,
        flatBit_setBit (by decide) _ _ _ wordInside]
      by_cases otherBelow : other < payload.baseSeq
      · simp [otherBelow]
      · have offsetIff : other - payload.baseSeq = seq - payload.baseSeq ↔ other = seq := by
          omega
        simp [otherBelow, inside, offsetIff, Bool.or_comm]

theorem advanceBase_baseSeq (payload : SackPayload) (newBase : Nat)
    (forward : payload.baseSeq < newBase) :
    (payload.advanceBase newBase).baseSeq = newBase := by
  unfold advanceBase
  rw [if_neg (by omega)]
  dsimp only
  split <;> rfl

theorem isReceived_advanceBase (payload : SackPayload) (newBase seq : Nat)
    (forward : payload.baseSeq < newBase) :
    (payload.advanceBase newBase).isReceived seq =
      (decide (seq < newBase) || payload.isReceived seq) := by
  rw [isReceived_eq, isReceived_eq, advanceBase_baseSeq payload newBase forward]
  by_cases below : seq < newBase
  · simp [below]
  · have notBelowOld : ¬ seq < payload.baseSeq := by omega
    simp only [below, notBelowOld, decide_false, Bool.false_or]
    unfold advanceBase
    rw [if_neg (by omega)]
    dsimp only
    split
    · change flatBit (shiftWords (newBase - payload.baseSeq) payload.words) _ = _
      rw [flatBit_shiftWords]
      congr 1
      omega
    · rename_i wholeWindow
      change flatBit (List.replicate SACK_WORDS 0#64) _ = _
      rw [flatBit_replicate_zero, flatBit_of_length_le (by decide)]
      rw [payload.words_length]
      unfold SACK_WINDOW at wholeWindow
      omega

end SackPayload

end Udpix.Protocol

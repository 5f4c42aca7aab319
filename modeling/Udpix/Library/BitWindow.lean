/-
Bit sets stored as a list of machine words.

Bit `k` of the set is bit `k % w` of word `k / w`; positions past the last word
read as absent.  Setting a bit, dropping whole words and the carry loop that
shifts across word boundaries are each described by what they do to one
arbitrary bit position.
-/

import Mathlib.Data.List.GetD
import Mathlib.Data.Nat.Basic

namespace BitWindow

variable {w : Nat}

def flatBit (words : List (BitVec w)) (position : Nat) : Bool :=
  (words.getD (position / w) 0#w).getLsbD (position % w)

def setBit (words : List (BitVec w)) (position : Nat) : List (BitVec w) :=
  words.set (position / w)
    (words.getD (position / w) 0#w ||| (1#w <<< (position % w)))

/-- Move every word `count` places down and clear the words that became free. -/
def dropWords (count : Nat) (words : List (BitVec w)) : List (BitVec w) :=
  words.drop count ++ List.replicate count 0#w

/-- One pass from the last word to the first: each word is shifted down and
takes in the bits that the word above it shifted out. -/
def shiftCarry (shift : Nat) (words : List (BitVec w)) :
    List (BitVec w) × BitVec w :=
  words.foldr
    (fun (word : BitVec w) (above : List (BitVec w) × BitVec w) =>
      ((word >>> shift ||| above.2) :: above.1, word <<< (w - shift)))
    ([], 0#w)

/-- Scan downwards from `count` past the words that are zero. -/
def trimZeros (words : List (BitVec w)) : Nat → Nat
  | 0 => 0
  | count + 1 =>
      if words.getD count 0#w = 0#w then trimZeros words count else count + 1

@[simp] theorem setBit_length (words : List (BitVec w)) (position : Nat) :
    (setBit words position).length = words.length :=
  List.length_set

theorem dropWords_length (count : Nat) (words : List (BitVec w))
    (within : count ≤ words.length) :
    (dropWords count words).length = words.length := by
  simp only [dropWords, List.length_append, List.length_drop,
    List.length_replicate]
  omega

@[simp] theorem shiftCarry_length (shift : Nat) (words : List (BitVec w)) :
    (shiftCarry shift words).1.length = words.length := by
  induction words with
  | nil => rfl
  | cons word rest ih =>
      have restLength : (shiftCarry shift rest).1.length = rest.length := ih
      change ((_ :: (shiftCarry shift rest).1).length) = _
      rw [List.length_cons, List.length_cons, restLength]

/-! ### One bit at a time -/

private theorem position_eq_iff (left right : Nat) :
    left = right ↔ left / w = right / w ∧ left % w = right % w := by
  constructor
  · intro same
    rw [same]
    exact ⟨rfl, rfl⟩
  · rintro ⟨sameWord, sameBit⟩
    rw [← Nat.div_add_mod left w, ← Nat.div_add_mod right w, sameWord, sameBit]

theorem flatBit_setBit (positive : 0 < w) (words : List (BitVec w))
    (position other : Nat) (within : position / w < words.length) :
    flatBit (setBit words position) other =
      (decide (other = position) || flatBit words other) := by
  have otherBit : other % w < w := Nat.mod_lt other positive
  unfold flatBit setBit
  by_cases sameWord : position / w = other / w
  · have newWord :
        (words.set (position / w)
          (words.getD (position / w) 0#w ||| (1#w <<< (position % w)))).getD
            (other / w) 0#w =
          words.getD (other / w) 0#w ||| (1#w <<< (position % w)) := by
      rw [← sameWord, List.getD_eq_getElem _ _ (by simpa using within),
        List.getElem_set_self]
    have bitIff : other = position ↔ other % w = position % w := by
      rw [position_eq_iff (w := w) other position]
      exact ⟨fun both => both.2, fun same => ⟨sameWord.symm, same⟩⟩
    have oneShifted :
        (1#w <<< (position % w)).getLsbD (other % w) =
          decide (other % w = position % w) := by
      rw [BitVec.getLsbD_shiftLeft, BitVec.getLsbD_one]
      by_cases same : other % w = position % w
      · simp [same, Nat.mod_lt position positive, positive]
      · by_cases before : other % w < position % w
        · simp [same, before]
        · have gap : other % w - position % w ≠ 0 := by omega
          simp [same, gap]
    rw [newWord, BitVec.getLsbD_or, oneShifted, Bool.or_comm]
    congr 1
    exact decide_eq_decide.mpr bitIff.symm
  · have differ : other ≠ position := fun same => sameWord (by rw [same])
    rw [List.getD_eq_getElem?_getD, List.getElem?_set_ne sameWord,
      ← List.getD_eq_getElem?_getD]
    simp [differ]

theorem getD_dropWords (count : Nat) (words : List (BitVec w)) (index : Nat) :
    (dropWords count words).getD index 0#w = words.getD (index + count) 0#w := by
  unfold dropWords
  by_cases inside : index < (words.drop count).length
  · rw [List.getD_append _ _ _ _ inside, List.getD_eq_getElem?_getD,
      List.getElem?_drop, ← List.getD_eq_getElem?_getD, Nat.add_comm]
  · have pastEnd : words.length ≤ index + count := by
      rw [List.length_drop] at inside
      omega
    rw [List.getD_append_right _ _ _ _ (by omega), List.getD_eq_default _ _ pastEnd,
      List.getD_eq_getElem?_getD, List.getElem?_replicate]
    split <;> rfl

theorem flatBit_dropWords (positive : 0 < w) (count : Nat)
    (words : List (BitVec w)) (position : Nat) :
    flatBit (dropWords count words) position =
      flatBit words (position + w * count) := by
  unfold flatBit
  rw [getD_dropWords, Nat.add_mul_div_left _ _ positive, Nat.add_mul_mod_self_left]

private theorem shiftCarry_snd (shift : Nat) (words : List (BitVec w)) :
    (shiftCarry shift words).2 = words.getD 0 0#w <<< (w - shift) := by
  cases words with
  | nil =>
      simp [shiftCarry]
  | cons word rest => rfl

theorem getD_shiftCarry (shift : Nat) (words : List (BitVec w)) (index : Nat) :
    (shiftCarry shift words).1.getD index 0#w =
      (words.getD index 0#w >>> shift |||
        words.getD (index + 1) 0#w <<< (w - shift)) := by
  induction words generalizing index with
  | nil =>
      simp [shiftCarry]
  | cons word rest ih =>
      have unfolded : (shiftCarry shift (word :: rest)).1 =
          (word >>> shift ||| (shiftCarry shift rest).2) ::
            (shiftCarry shift rest).1 := rfl
      rw [unfolded]
      cases index with
      | zero =>
          rw [List.getD_cons_zero, List.getD_cons_zero, List.getD_cons_succ,
            shiftCarry_snd]
      | succ index =>
          rw [List.getD_cons_succ, List.getD_cons_succ, List.getD_cons_succ, ih]

private theorem wordIndex (quotient : Nat) {remainder : Nat}
    (remainderLt : remainder < w) :
    (w * quotient + remainder) / w = quotient ∧
      (w * quotient + remainder) % w = remainder := by
  have positive : 0 < w := by omega
  constructor
  · rw [Nat.mul_add_div positive, Nat.div_eq_of_lt remainderLt, Nat.add_zero]
  · rw [Nat.mul_add_mod, Nat.mod_eq_of_lt remainderLt]

/-- The carry loop moves every bit down by the shift, also across words. -/
theorem flatBit_shiftCarry (shift : Nat) (shiftPos : 0 < shift)
    (shiftLt : shift < w) (words : List (BitVec w)) (position : Nat) :
    flatBit (shiftCarry shift words).1 position =
      flatBit words (position + shift) := by
  have positive : 0 < w := by omega
  have bitLt : position % w < w := Nat.mod_lt position positive
  have split : position = w * (position / w) + position % w :=
    (Nat.div_add_mod position w).symm
  unfold flatBit
  rw [getD_shiftCarry, BitVec.getLsbD_or, BitVec.getLsbD_ushiftRight,
    BitVec.getLsbD_shiftLeft]
  -- either the moved bit stays in its word, or it comes from the word above
  by_cases sameWord : position % w + shift < w
  · have moved : position + shift =
        w * (position / w) + (position % w + shift) := by
      omega
    have carried : position % w < w - shift := by omega
    obtain ⟨wordEq, bitEq⟩ := wordIndex (position / w) sameWord
    rw [moved, wordEq, bitEq]
    simp [carried, Nat.add_comm]
  · have moved : position + shift =
        w * (position / w + 1) + (position % w + shift - w) := by
      rw [Nat.mul_add_one]
      omega
    have overflowLt : position % w + shift - w < w := by omega
    have notCarried : ¬ position % w < w - shift := by omega
    have gone : (words.getD (position / w) 0#w).getLsbD (shift + position % w) = false :=
      BitVec.getLsbD_of_ge _ _ (by omega)
    have sub : position % w - (w - shift) = position % w + shift - w := by omega
    obtain ⟨wordEq, bitEq⟩ := wordIndex (position / w + 1) overflowLt
    rw [moved, wordEq, bitEq, gone, sub]
    simp [bitLt, notCarried]

theorem flatBit_of_length_le (positive : 0 < w) (words : List (BitVec w))
    (position : Nat) (outside : w * words.length ≤ position) :
    flatBit words position = false := by
  have pastEnd : words.length ≤ position / w :=
    (Nat.le_div_iff_mul_le positive).mpr (by rwa [Nat.mul_comm])
  unfold flatBit
  rw [List.getD_eq_default _ _ pastEnd, BitVec.getLsbD_zero]

theorem flatBit_replicate_zero (count position : Nat) :
    flatBit (List.replicate count 0#w) position = false := by
  unfold flatBit
  rw [List.getD_eq_getElem?_getD, List.getElem?_replicate]
  split <;> simp

/-! ### The last word in use -/

theorem trimZeros_le (words : List (BitVec w)) (count : Nat) :
    trimZeros words count ≤ count := by
  induction count with
  | zero => exact Nat.le_refl 0
  | succ count ih =>
      unfold trimZeros
      split
      · exact Nat.le_succ_of_le ih
      · exact Nat.le_refl (count + 1)

theorem getD_of_trimZeros_le (words : List (BitVec w)) (count index : Nat)
    (above : trimZeros words count ≤ index) (below : index < count) :
    words.getD index 0#w = 0#w := by
  induction count with
  | zero => omega
  | succ count ih =>
      unfold trimZeros at above
      split at above
      · rename_i zero
        by_cases last : index = count
        · rw [last]
          exact zero
        · exact ih above (by omega)
      · omega

/-- The scan ends right above a word that is not zero, if it finds one. -/
theorem trimZeros_eq_succ (words : List (BitVec w)) (count index : Nat) (below : index < count)
    (used : words.getD index 0#w ≠ 0#w)
    (clear : ∀ above, index < above → above < count → words.getD above 0#w = 0#w) :
    trimZeros words count = index + 1 := by
  induction count with
  | zero => omega
  | succ count ih =>
      unfold trimZeros
      by_cases last : index = count
      · rw [← last, if_neg used]
      · rw [if_pos (clear count (by omega) (Nat.lt_succ_self count))]
        exact ih (by omega) (fun above low high => clear above low (by omega))

theorem trimZeros_eq_zero (words : List (BitVec w)) (count : Nat)
    (clear : ∀ index, index < count → words.getD index 0#w = 0#w) :
    trimZeros words count = 0 := by
  induction count with
  | zero => rfl
  | succ count ih =>
      unfold trimZeros
      rw [if_pos (clear count (Nat.lt_succ_self count))]
      exact ih (fun index below => clear index (by omega))

theorem trimZeros_used (words : List (BitVec w)) (count : Nat)
    (positive : 0 < trimZeros words count) :
    words.getD (trimZeros words count - 1) 0#w ≠ 0#w := by
  induction count with
  | zero => exact absurd positive (Nat.lt_irrefl 0)
  | succ count ih =>
      unfold trimZeros at positive ⊢
      split
      · rename_i zero
        rw [if_pos zero] at positive
        exact ih positive
      · rename_i used
        exact used

theorem trimZeros_replicate_zero (length count : Nat) :
    trimZeros (List.replicate length 0#w) count = 0 := by
  apply trimZeros_eq_zero
  intro index _
  rw [List.getD_eq_getElem?_getD, List.getElem?_replicate]
  split <;> rfl

theorem trimZeros_setBit (positive : 0 < w) (words : List (BitVec w)) (position count : Nat)
    (within : position / w < words.length) (counted : position / w < count) :
    trimZeros (setBit words position) count =
      max (trimZeros words count) (position / w + 1) := by
  have bitSet : flatBit (setBit words position) position = true := by
    rw [flatBit_setBit positive words position position within, decide_eq_true rfl, Bool.true_or]
  have ownWord : (setBit words position).getD (position / w) 0#w ≠ 0#w := by
    intro zero
    rw [flatBit, zero, BitVec.getLsbD_zero] at bitSet
    cases bitSet
  have otherWord : ∀ index, index ≠ position / w →
      (setBit words position).getD index 0#w = words.getD index 0#w := by
    intro index differ
    rw [setBit, List.getD_eq_getElem?_getD, List.getElem?_set_ne (Ne.symm differ),
      ← List.getD_eq_getElem?_getD]
  have top := trimZeros_le words count
  generalize position / w = wordIdx at counted ownWord otherWord ⊢
  by_cases lower : trimZeros words count ≤ wordIdx + 1
  · rw [Nat.max_eq_right lower]
    apply trimZeros_eq_succ _ _ _ counted ownWord
    intro above low high
    rw [otherWord above (by omega)]
    exact getD_of_trimZeros_le words count above (by omega) high
  · -- the highest word in use lies above the marked one and stays as it is
    have used := trimZeros_used words count (by omega)
    rw [Nat.max_eq_left (by omega)]
    have place : trimZeros words count = trimZeros words count - 1 + 1 := by omega
    rw [place]
    apply trimZeros_eq_succ _ _ _ (by omega)
    · rw [otherWord _ (by omega)]
      exact used
    · intro above low high
      rw [otherWord above (by omega)]
      exact getD_of_trimZeros_le words count above (by omega) high

/-- The words are determined by their number and their bits. -/
theorem eq_of_flatBit_eq (left right : List (BitVec w))
    (sameLength : left.length = right.length)
    (sameBits : ∀ position, flatBit left position = flatBit right position) :
    left = right := by
  apply List.ext_getElem sameLength
  intro index leftInside rightInside
  apply BitVec.eq_of_getLsbD_eq
  intro bit bitLt
  have here := sameBits (w * index + bit)
  obtain ⟨wordEq, bitEq⟩ := wordIndex index bitLt
  simpa only [flatBit, wordEq, bitEq, List.getD_eq_getElem _ _ leftInside,
    List.getD_eq_getElem _ _ rightInside] using here

end BitWindow

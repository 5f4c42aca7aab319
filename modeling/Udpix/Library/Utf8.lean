/-
Validation of UTF-8 byte strings and their lossy reading.

Both functions walk the string by the same scan: it reads one character, or the
longest beginning of one that the bytes still allow.  A missing byte reads as
zero, which no position after the first admits.  The recursion is on a fuel that
the length of the string always covers.
-/

import Mathlib.Data.List.GetD

namespace Utf8

def isContinuation (byte : UInt8) : Bool :=
  decide (0x80 ≤ byte) && decide (byte ≤ 0xBF)

/-- The second bytes that may follow a first byte of a three-byte character. -/
def secondOfThree (first second : UInt8) : Bool :=
  if first = 0xE0 then decide (0xA0 ≤ second) && decide (second ≤ 0xBF)
  else if first = 0xED then decide (0x80 ≤ second) && decide (second ≤ 0x9F)
  else isContinuation second

def secondOfFour (first second : UInt8) : Bool :=
  if first = 0xF0 then decide (0x90 ≤ second) && decide (second ≤ 0xBF)
  else if first = 0xF4 then decide (0x80 ≤ second) && decide (second ≤ 0x8F)
  else isContinuation second

/-- Number of bytes a first byte announces; zero for a byte no character starts
with. -/
def charWidth (first : UInt8) : Nat :=
  if first < 0x80 then 1
  else if 0xC2 ≤ first ∧ first ≤ 0xDF then 2
  else if 0xE0 ≤ first ∧ first ≤ 0xEF then 3
  else if 0xF0 ≤ first ∧ first ≤ 0xF4 then 4
  else 0

/-- Whether a whole character was read, and how many bytes it or the faulty
beginning takes. -/
def scan (first : UInt8) (rest : List UInt8) : Bool × Nat :=
  let second := rest.getD 0 0
  let third := rest.getD 1 0
  let fourth := rest.getD 2 0
  match charWidth first with
  | 1 => (true, 1)
  | 2 => if isContinuation second then (true, 2) else (false, 1)
  | 3 =>
      if secondOfThree first second then
        if isContinuation third then (true, 3) else (false, 2)
      else (false, 1)
  | 4 =>
      if secondOfFour first second then
        if isContinuation third then
          if isContinuation fourth then (true, 4) else (false, 3)
        else (false, 2)
      else (false, 1)
  | _ => (false, 1)

theorem scan_width_pos (first : UInt8) (rest : List UInt8) : 0 < (scan first rest).2 := by
  unfold scan
  dsimp only
  split <;> repeat' split
  all_goals exact Nat.succ_pos _

/-- Where validation stopped; no length when the string ended inside a
character. -/
structure Utf8Error where
  validUpTo : Nat
  errorLen : Option Nat
deriving DecidableEq, Repr

def firstErrorFrom : Nat → Nat → List UInt8 → Option Utf8Error
  | 0, _, _ => none
  | _ + 1, _, [] => none
  | fuel + 1, index, first :: rest =>
      let (whole, width) := scan first rest
      if whole then firstErrorFrom fuel (index + width) ((first :: rest).drop width)
      else some
        { validUpTo := index
          errorLen :=
            if charWidth first ≠ 0 ∧ (first :: rest).length = width then none
            else some width }

def firstError (bytes : List UInt8) : Option Utf8Error :=
  firstErrorFrom bytes.length 0 bytes

def replacement : List UInt8 := [0xEF, 0xBF, 0xBD]

def lossyFrom : Nat → List UInt8 → List UInt8
  | 0, _ => []
  | _ + 1, [] => []
  | fuel + 1, first :: rest =>
      let (whole, width) := scan first rest
      (if whole then (first :: rest).take width else replacement) ++
        lossyFrom fuel ((first :: rest).drop width)

/-- The string with every faulty beginning replaced. -/
def toStringLossy (bytes : List UInt8) : List UInt8 :=
  lossyFrom bytes.length bytes

private theorem lossyFrom_of_noError (fuel index : Nat) (bytes : List UInt8)
    (covered : bytes.length ≤ fuel) (valid : firstErrorFrom fuel index bytes = none) :
    lossyFrom fuel bytes = bytes := by
  induction fuel generalizing index bytes with
  | zero =>
      have empty : bytes = [] := List.length_eq_zero_iff.mp (Nat.le_zero.mp covered)
      rw [empty]
      rfl
  | succ fuel ih =>
      cases bytes with
      | nil => rfl
      | cons first rest =>
          have progress := scan_width_pos first rest
          unfold firstErrorFrom at valid
          unfold lossyFrom
          obtain ⟨⟨whole, width⟩, scanned⟩ : ∃ read, scan first rest = read := ⟨_, rfl⟩
          rw [scanned] at progress valid ⊢
          cases whole with
          | false => cases valid
          | true =>
              have shorter : ((first :: rest).drop width).length ≤ fuel := by
                rw [List.length_drop]
                change 0 < width at progress
                omega
              change (first :: rest).take width ++ lossyFrom fuel _ = _
              rw [ih (index + width) _ shorter valid, List.take_append_drop]

theorem toStringLossy_of_valid (bytes : List UInt8) (valid : firstError bytes = none) :
    toStringLossy bytes = bytes :=
  lossyFrom_of_noError bytes.length 0 bytes (Nat.le_refl _) valid

/-! ### The lossy reading is valid -/

private theorem isContinuation_zero : isContinuation 0 = false := by decide

private theorem secondOfThree_zero (first : UInt8) : secondOfThree first 0 = false := by
  unfold secondOfThree
  split
  · decide
  · split <;> decide

private theorem secondOfFour_zero (first : UInt8) : secondOfFour first 0 = false := by
  unfold secondOfFour
  split
  · decide
  · split <;> decide

/-- A byte that a test admits is there, since a missing one reads as zero; it is
still read in any string that starts with enough of the bytes. -/
private theorem admitted_take (admits : UInt8 → Bool) (refused : admits 0 = false)
    (bytes : List UInt8) (index : Nat) (admitted : admits (bytes.getD index 0) = true) :
    index < bytes.length ∧ ∀ count tail, index < count →
      admits ((bytes.take count ++ tail).getD index 0) = true := by
  by_cases inside : index < bytes.length
  · refine ⟨inside, ?_⟩
    intro count tail kept
    have inTake : index < (bytes.take count).length := by
      rw [List.length_take]
      omega
    rw [List.getD_append _ _ _ _ inTake, List.getD_eq_getElem _ _ inTake, List.getElem_take,
      ← List.getD_eq_getElem _ 0 inside]
    exact admitted
  · rw [List.getD_eq_default _ _ (Nat.le_of_not_lt inside), refused] at admitted
    cases admitted

/-- A whole character is read from its own bytes, whatever follows them. -/
private theorem scan_take (first : UInt8) (rest : List UInt8) (width : Nat)
    (whole : scan first rest = (true, width)) :
    0 < width ∧ width ≤ (first :: rest).length ∧
      ∀ tail, scan first (rest.take (width - 1) ++ tail) = (true, width) := by
  unfold scan at whole
  dsimp only at whole
  rw [List.length_cons]
  split at whole
  · rename_i announced
    cases whole
    refine ⟨by decide, by omega, fun tail => ?_⟩
    simp only [scan, announced]
  · rename_i announced
    split at whole
    · rename_i second
      cases whole
      obtain ⟨inside, secondKept⟩ := admitted_take _ isContinuation_zero rest 0 second
      refine ⟨by decide, by omega, fun tail => ?_⟩
      simp only [scan, announced, secondKept (2 - 1) tail (by decide), if_true]
    · cases whole
  · rename_i announced
    split at whole
    · rename_i second
      split at whole
      · rename_i third
        cases whole
        obtain ⟨_, secondKept⟩ := admitted_take _ (secondOfThree_zero first) rest 0 second
        obtain ⟨inside, thirdKept⟩ := admitted_take _ isContinuation_zero rest 1 third
        refine ⟨by decide, by omega, fun tail => ?_⟩
        simp only [scan, announced, secondKept (3 - 1) tail (by decide),
          thirdKept (3 - 1) tail (by decide), if_true]
      · cases whole
    · cases whole
  · rename_i announced
    split at whole
    · rename_i second
      split at whole
      · rename_i third
        split at whole
        · rename_i fourth
          cases whole
          obtain ⟨_, secondKept⟩ := admitted_take _ (secondOfFour_zero first) rest 0 second
          obtain ⟨_, thirdKept⟩ := admitted_take _ isContinuation_zero rest 1 third
          obtain ⟨inside, fourthKept⟩ := admitted_take _ isContinuation_zero rest 2 fourth
          refine ⟨by decide, by omega, fun tail => ?_⟩
          simp only [scan, announced, secondKept (4 - 1) tail (by decide),
            thirdKept (4 - 1) tail (by decide), fourthKept (4 - 1) tail (by decide), if_true]
        · cases whole
      · cases whole
    · cases whole
  · cases whole

/-- Validation walks over a whole character to what follows it. -/
private theorem firstErrorFrom_whole (fuel index width : Nat) (first : UInt8)
    (rest tail : List UInt8) (whole : scan first rest = (true, width)) :
    firstErrorFrom (fuel + 1) index ((first :: rest).take width ++ tail) =
      firstErrorFrom fuel (index + width) tail := by
  obtain ⟨positive, within, scanned⟩ := scan_take first rest width whole
  have taken : ((first :: rest).take width).length = width := by
    rw [List.length_take]
    omega
  have behind : ((first :: rest).take width ++ tail).drop width = tail := List.drop_left' taken
  have front : (first :: rest).take width ++ tail = first :: (rest.take (width - 1) ++ tail) := by
    rw [← List.cons_append, ← List.take_succ_cons, Nat.sub_add_cancel positive]
  rw [front] at behind ⊢
  simp only [firstErrorFrom, scanned, if_true, behind]

private theorem firstErrorFrom_lossyFrom (fuel enough index : Nat) (bytes : List UInt8)
    (covered : (lossyFrom fuel bytes).length ≤ enough) :
    firstErrorFrom enough index (lossyFrom fuel bytes) = none := by
  have endOfString : ∀ index, firstErrorFrom enough index [] = none := by
    intro index
    cases enough <;> rfl
  induction fuel generalizing enough index bytes with
  | zero => exact endOfString index
  | succ fuel ih =>
      cases bytes with
      | nil => exact endOfString index
      | cons first rest =>
          obtain ⟨⟨whole, width⟩, scanned⟩ : ∃ read, scan first rest = read := ⟨_, rfl⟩
          -- either way the lossy text starts with a whole character
          obtain ⟨lead, others, size, character, image⟩ :
              ∃ lead others size, scan lead others = (true, size) ∧
                lossyFrom (fuel + 1) (first :: rest) = (lead :: others).take size ++
                  lossyFrom fuel ((first :: rest).drop width) := by
            cases whole with
            | true =>
                exact ⟨first, rest, width, scanned, by simp only [lossyFrom, scanned, if_true]⟩
            | false =>
                refine ⟨0xEF, [0xBF, 0xBD], 3, by decide, ?_⟩
                simp only [lossyFrom, scanned]
                rfl
          obtain ⟨positive, within, _⟩ := scan_take lead others size character
          rw [image, List.length_append, List.length_take] at covered
          obtain ⟨enough, rfl⟩ : ∃ fewer, enough = fewer + 1 := ⟨enough - 1, by omega⟩
          rw [image, firstErrorFrom_whole enough index size lead others _ character]
          apply ih
          · omega
          · intro index
            cases enough <;> rfl

theorem firstError_toStringLossy (bytes : List UInt8) :
    firstError (toStringLossy bytes) = none :=
  firstErrorFrom_lossyFrom bytes.length _ 0 bytes (Nat.le_refl _)

theorem toStringLossy_toStringLossy (bytes : List UInt8) :
    toStringLossy (toStringLossy bytes) = toStringLossy bytes :=
  toStringLossy_of_valid _ (firstError_toStringLossy bytes)

/-! ### The lossy reading is at most three times as long -/

private theorem length_lossyFrom_le (fuel : Nat) (bytes : List UInt8) :
    (lossyFrom fuel bytes).length ≤ 3 * bytes.length := by
  induction fuel generalizing bytes with
  | zero => exact Nat.zero_le _
  | succ fuel ih =>
      cases bytes with
      | nil => exact Nat.zero_le _
      | cons first rest =>
          have progress := scan_width_pos first rest
          rw [lossyFrom]
          obtain ⟨⟨whole, width⟩, scanned⟩ : ∃ read, scan first rest = read := ⟨_, rfl⟩
          rw [scanned] at progress ⊢
          have later := ih ((first :: rest).drop width)
          rw [List.length_drop, List.length_cons] at later
          dsimp only at progress ⊢
          rw [List.length_append, List.length_cons]
          cases whole with
          | true =>
              rw [if_pos rfl, List.length_take, List.length_cons]
              omega
          | false =>
              have three : replacement.length = 3 := rfl
              rw [if_neg Bool.false_ne_true, three]
              omega

theorem length_toStringLossy_le (bytes : List UInt8) :
    (toStringLossy bytes).length ≤ 3 * bytes.length :=
  length_lossyFrom_le bytes.length bytes

end Utf8

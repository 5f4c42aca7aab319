/-
Parsing arbitrary bytes as an acknowledgement payload.

The count of words is a byte of the input that sizes both the input and the
copy into the fixed array.  Whatever is parsed re-encodes to exactly the bytes
it was read from.
-/

import Udpix.Protocol.SackCanonical

namespace Udpix.Protocol

open LittleEndian

namespace SackPayload

def countByte (data : Bytes) : Nat := (data.getD 8 0).toNat

/-- What a parse that is total and exact does: it never leaves its array, and a
payload it returns is the one whose encoding starts the data. -/
def ReadsExactly (data : Bytes) : Prop :=
  match deserialise data with
  | .error _ => False
  | .ok none => True
  | .ok (some (payload, size)) =>
      size ≤ data.length ∧ size = payload.wireSize ∧
        (∀ index, payload.wordCount ≤ index → payload.words.getD index 0#64 = 0#64) ∧
        payload.serialise = data.take size

/-- The data ends before the counted words do, or the count fits the array. -/
def CountFits (data : Bytes) : Prop :=
  data.length < 9 + countByte data * 8 ∨ countByte data ≤ SACK_WORDS

/-! ### Re-encoding -/

theorem toLeBytes_wordAt (data : Bytes) (index : Nat) (inside : 9 + index * 8 + 8 ≤ data.length) :
    toLeBytes 8 (wordAt data index).toNat = (data.drop (9 + index * 8)).take 8 := by
  have size : ((data.drop (9 + index * 8)).take 8).length = 8 := by
    rw [List.length_take, List.length_drop]
    omega
  have fits : RudpHeader.fieldAt data (9 + index * 8) 8 < 2 ^ 64 := by
    have bounded := fromLeBytes_lt ((data.drop (9 + index * 8)).take 8)
    rw [size] at bounded
    exact bounded
  rw [wordAt, BitVec.toNat_ofNat, Nat.mod_eq_of_lt fits]
  have same := toLeBytes_fromLeBytes ((data.drop (9 + index * 8)).take 8)
  rw [size] at same
  exact same

theorem take_wordsFrom (data : Bytes) (count : Nat) :
    (wordsFrom data count).take count = (List.range count).map (wordAt data) := by
  rw [wordsFrom]
  exact List.take_left' (by rw [List.length_map, List.length_range])

theorem flatMap_wordsFrom (data : Bytes) (count : Nat) (long : 9 + count * 8 ≤ data.length) :
    ((wordsFrom data count).take count).flatMap (fun word => toLeBytes 8 word.toNat) =
      (data.drop 9).take (count * 8) := by
  rw [take_wordsFrom, List.flatMap_map, ← flatMap_range_fields]
  apply List.flatMap_congr
  intro index member
  exact toLeBytes_wordAt data index (by rw [List.mem_range] at member; omega)

/-- The payload that is parsed from data long enough for its count. -/
def parsed (data : Bytes) (counted : countByte data ≤ SACK_WORDS) : SackPayload :=
  { baseSeq := RudpHeader.fieldAt data 0 8
    wordCount := countByte data
    words := wordsFrom data (countByte data)
    words_length := wordsFrom_length data counted }

theorem serialise_parsed (data : Bytes) (counted : countByte data ≤ SACK_WORDS)
    (long : 9 + countByte data * 8 ≤ data.length) :
    (parsed data counted).serialise = data.take (9 + countByte data * 8) := by
  have base : toLeBytes 8 (RudpHeader.fieldAt data 0 8) = data.take 8 := by
    have size : (data.take 8).length = 8 := by
      rw [List.length_take]
      omega
    have same := toLeBytes_fromLeBytes (data.take 8)
    rw [size] at same
    exact same
  have count : toLeBytes 1 (countByte data) = (data.drop 8).take 1 := by
    have inside : 8 < data.length := by omega
    rw [List.drop_eq_getElem_cons inside, List.take_succ_cons, List.take_zero, countByte,
      List.getD_eq_getElem _ _ inside]
    exact congrArg (· :: []) UInt8.ofNat_toNat
  have words := flatMap_wordsFrom data (countByte data) long
  change toLeBytes 8 (RudpHeader.fieldAt data 0 8) ++ toLeBytes 1 (countByte data) ++
    ((wordsFrom data (countByte data)).take (countByte data)).flatMap _ = _
  rw [base, count, words, ← List.take_add, ← List.take_add]

/-! ### Every input -/

theorem deserialise_short (data : Bytes) (short : data.length < 9 + countByte data * 8) :
    deserialise data = .ok none := by
  unfold deserialise
  split
  · rfl
  · exact if_pos short

theorem deserialise_overrun (data : Bytes) (long : 9 + countByte data * 8 ≤ data.length)
    (many : SACK_WORDS < countByte data) : deserialise data = .error .outOfRange := by
  have fixed : ¬ data.length < 9 := by omega
  have complete : ¬ data.length < 9 + (data.getD 8 0).toNat * 8 := Nat.not_lt.mpr long
  have overrun : copyWords data (data.getD 8 0).toNat = .error .outOfRange :=
    copyWords_overrun data many
  rw [deserialise, if_neg fixed]
  dsimp only
  rw [if_neg complete]
  split
  · rename_i stop failed
    rw [failed] at overrun
    cases overrun
    rfl
  · rename_i words copied
    rw [copied] at overrun
    cases overrun

theorem deserialise_parsed (data : Bytes) (long : 9 + countByte data * 8 ≤ data.length)
    (counted : countByte data ≤ SACK_WORDS) :
    deserialise data = .ok (some (parsed data counted, 9 + countByte data * 8)) := by
  have fixed : ¬ data.length < 9 := by omega
  exact deserialise_of_copied fixed (Nat.not_lt.mpr long) (copyWords_eq data counted)

/-- Parsing is total and exact on exactly the data whose count fits the array or
reaches past its end. -/
theorem readsExactly_iff_countFits (data : Bytes) : ReadsExactly data ↔ CountFits data := by
  by_cases short : data.length < 9 + countByte data * 8
  · rw [ReadsExactly, deserialise_short data short]
    exact iff_of_true trivial (Or.inl short)
  · have long : 9 + countByte data * 8 ≤ data.length := Nat.le_of_not_lt short
    by_cases counted : countByte data ≤ SACK_WORDS
    · refine iff_of_true ?_ (Or.inr counted)
      rw [ReadsExactly, deserialise_parsed data long counted]
      refine ⟨long, rfl, ?_, serialise_parsed data counted long⟩
      intro index unused
      change countByte data ≤ index at unused
      change (wordsFrom data (countByte data)).getD index 0#64 = 0#64
      rw [getD_wordsFrom, if_neg (Nat.not_lt.mpr unused)]
    · refine iff_of_false ?_ ?_
      · rw [ReadsExactly, deserialise_overrun data long (Nat.lt_of_not_le counted)]
        exact not_false
      · rintro (tooShort | fits)
        · exact short tooShort
        · exact counted fits

/-- A datagram that announces seventeen words and carries them. -/
theorem readsExactly_fails_at_seventeen_words : ¬ ∀ data : Bytes, ReadsExactly data := by
  intro readsAll
  obtain ⟨data, size, counted⟩ : ∃ data : Bytes, data.length = 145 ∧ countByte data = 17 :=
    ⟨List.replicate 8 0 ++ 17 :: List.replicate 136 0, rfl, rfl⟩
  have reads := readsAll data
  rw [ReadsExactly, deserialise_overrun data (by omega) (by rw [counted]; decide)] at reads
  exact reads

end SackPayload

end Udpix.Protocol

import Mathlib.Data.List.Basic
import Phrasebook.Text.Class

/-! The ASCII classes by code point, and how they lie in the classes of all scripts. -/
namespace Phrasebook.Text

theorem digitRange {c : Char} : isAsciiDigit c = true ↔ 48 ≤ c.toNat ∧ c.toNat ≤ 57 := by
  simp only [isAsciiDigit, Bool.and_eq_true, decide_eq_true_eq, Char.le_def, UInt32.le_iff_toNat_le]
  exact Iff.rfl

theorem letterRange {c : Char} :
    isAsciiLetter c = true ↔
      (97 ≤ c.toNat ∧ c.toNat ≤ 122) ∨ (65 ≤ c.toNat ∧ c.toNat ≤ 90) := by
  simp only [isAsciiLetter, Bool.or_eq_true, Bool.and_eq_true, decide_eq_true_eq, Char.le_def,
    UInt32.le_iff_toNat_le]
  exact Iff.rfl

theorem alnumRange {c : Char} :
    isAsciiAlnum c = true ↔ isAsciiLetter c = true ∨ isAsciiDigit c = true := by
  simp [isAsciiAlnum]

theorem letterIs (c : Char) : isAsciiLetter c = c.isAlpha := by
  have upper : c.isUpper = decide ('A' ≤ c ∧ c ≤ 'Z') := rfl
  have lower : c.isLower = (decide ('a' ≤ c) && decide (c ≤ 'z')) := rfl
  have either : c.isAlpha = (c.isUpper || c.isLower) := rfl
  rw [either, upper, lower, isAsciiLetter, Bool.or_comm, Bool.decide_and]

theorem digitIs (c : Char) : isAsciiDigit c = c.isDigit := by
  simp [isAsciiDigit, Char.isDigit, Char.le_def]

theorem alnumIs (c : Char) : isAsciiAlnum c = c.isAlphanum := by
  rw [isAsciiAlnum, letterIs, digitIs, Char.isAlphanum]

theorem asciiDecimal {c : Char} (digit : isAsciiDigit c = true) :
    decimalValue? c = some (c.toNat - 48) := by
  obtain ⟨low, high⟩ := digitRange.mp digit
  have first : ClassTable.decimalZeros.find? (fun first => first ≤ c.toNat && c.toNat < first + 10) =
      some 48 := by
    simp only [ClassTable.decimalZeros, List.find?_cons]
    have inside : (decide (48 ≤ c.toNat) && decide (c.toNat < 48 + 10)) = true := by
      simp only [Bool.and_eq_true, decide_eq_true_eq]
      omega
    simp [inside]
  simp [decimalValue?, first]

theorem asciiNoDecimal {c : Char} (ascii : c.toNat < 128) (other : isAsciiDigit c = false) :
    decimalValue? c = none := by
  have outside : ∀ first ∈ ClassTable.decimalZeros, first = 48 ∨ 128 ≤ first := by decide
  simp only [decimalValue?, Option.map_eq_none_iff, List.find?_eq_none, Bool.and_eq_true,
    decide_eq_true_eq]
  rintro first mem ⟨low, high⟩
  rcases outside first mem with rfl | beyond
  · exact absurd (digitRange.mpr ⟨low, by omega⟩) (by simp [other])
  · omega

theorem nameStart {c : Char} (start : (isAsciiLetter c || c = '_') = true) :
    c.toNat < 128 ∧ isAsciiDigit c = false := by
  simp only [Bool.or_eq_true, decide_eq_true_eq] at start
  rcases start with letter | rfl
  · have range := letterRange.mp letter
    refine ⟨by omega, Bool.eq_false_iff.mpr fun digit => ?_⟩
    have := digitRange.mp digit
    omega
  · decide

theorem lettersOpening : ∃ beyond,
    ClassTable.letters = (0x41, 0x5a) :: (0x61, 0x7a) :: (0xaa, 0xaa) :: beyond := ⟨_, rfl⟩

theorem asciiIsLetter {c : Char} (ascii : c.toNat < 128) : isLetter c = isAsciiLetter c := by
  obtain ⟨beyond, table⟩ := lettersOpening
  have low : ¬ 0xaa ≤ c.toNat := by omega
  rw [isLetter, table, Bool.eq_iff_iff, letterRange]
  simp only [inRanges, low, decide_false, Bool.false_and, Bool.or_false, Bool.and_eq_true,
    Bool.or_eq_true, decide_eq_true_eq]
  omega

theorem asciiLetter {c : Char} (letter : isAsciiLetter c = true) : isLetter c = true := by
  rw [asciiIsLetter ?_, letter]
  have := letterRange.mp letter
  omega

end Phrasebook.Text

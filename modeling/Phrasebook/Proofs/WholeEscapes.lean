import Phrasebook.Proofs.LogicalLines

/-! Escapes stay whole. A backslash and the character after it are never parted: not where physical lines
are joined, not where a line is split into key and value, and not where the escapes are read. What carries it
through is one parity, that of the backslashes at the end. -/
namespace Phrasebook.Properties

open Text

/-! ### Backslashes at the end -/

theorem dropLastEven {line : List Char} (on : goesOn line = true) :
    endingBackslashes line.dropLast % 2 = 0 := by
  obtain rfl | ⟨front, c, rfl⟩ := List.eq_nil_or_concat line
  · exact absurd on (by decide)
  · have odd : endingBackslashes (front ++ [c]) % 2 = 1 := by simpa [goesOn] using on
    rw [endingSnoc] at odd
    rw [List.concat_eq_append, List.dropLast_concat]
    split at odd
    · omega
    · contradiction

theorem pairParity (c : Char) (rest : List Char) :
    endingBackslashes ('\\' :: c :: rest) % 2 = endingBackslashes rest % 2 :=
  parityAfter (pairEven c) rest

theorem plainParity {c : Char} (other : c ≠ '\\') (rest : List Char) :
    endingBackslashes (c :: rest) % 2 = endingBackslashes rest % 2 := by
  have single : endingBackslashes [c] % 2 = 0 := by rw [← List.nil_append [c], endingOther [] other]
  exact parityAfter single rest

theorem loneOdd : ¬ endingBackslashes ['\\'] % 2 = 0 := by
  decide

/-- A text that ends in an even run opens with a backslash only where a character comes after it. -/
theorem evenHead {c : Char} {rest : List Char} (even : endingBackslashes (c :: rest) % 2 = 0)
    (unpaired : ∀ d more, c = '\\' → rest = d :: more → False) : c ≠ '\\' := by
  rintro rfl
  cases rest with
  | nil => exact loneOdd even
  | cons d more => exact unpaired d more rfl rfl

/-! ### Joined lines -/

theorem joinedEven {pending : Option (List Char)} {raws : List (List Char)}
    (whole : ∀ start ∈ pending, endingBackslashes start % 2 = 0) :
    ∀ line ∈ joinContinued pending raws, endingBackslashes line % 2 = 0 := by
  induction raws generalizing pending with
  | nil =>
    intro line mem
    exact whole line (Option.mem_toList.mp mem)
  | cons raw rest ih =>
    have fresh : ∀ line ∈ joinContinued none rest, endingBackslashes line % 2 = 0 := ih (by simp)
    cases pending with
    | none =>
      simp only [joinContinued]
      split
      · exact fresh
      · split
        · rename_i on
          exact ih (by simpa using dropLastEven on)
        · rename_i ends
          exact List.forall_mem_cons.mpr ⟨by simpa [goesOn] using ends, fresh⟩
    | some start =>
      have before : endingBackslashes start % 2 = 0 := whole start rfl
      simp only [joinContinued]
      split
      · rename_i on
        exact ih (by simpa using endingEven before (dropLastEven on))
      · rename_i ends
        have after : endingBackslashes (raw.dropWhile isBlank) % 2 = 0 := by simpa [goesOn] using ends
        exact List.forall_mem_cons.mpr ⟨endingEven before after, fresh⟩

/-! ### Keys and values -/

/-- The place where the search for the end of a key stops. A backslash takes it two places on, also when
nothing stands after the backslash. -/
def keyEnd : List Char → Nat
  | [] => 0
  | ['\\'] => 2
  | '\\' :: _ :: rest => keyEnd rest + 2
  | c :: rest => if endsKey c then 0 else keyEnd rest + 1

theorem splitAtEnd (line : List Char) :
    splitKey line = (line.take (keyEnd line), line.drop (keyEnd line)) := by
  fun_induction keyEnd line with
  | case1 => rfl
  | case2 => rfl
  | case3 c rest ih => simp [splitKey, ih]
  | case4 c rest lone unpaired ends => simp [splitKey, ends]
  | case5 c rest lone unpaired inside ih => simp [splitKey, inside, ih]

section

variable {line : List Char}

theorem endWithin (even : endingBackslashes line % 2 = 0) : keyEnd line ≤ line.length := by
  fun_induction keyEnd line with
  | case1 => exact Nat.le_refl 0
  | case2 => exact absurd even loneOdd
  | case3 c rest ih =>
    rw [pairParity] at even
    exact Nat.succ_le_succ (Nat.succ_le_succ (ih even))
  | case4 => exact Nat.zero_le _
  | case5 c rest lone unpaired inside ih =>
    rw [plainParity (evenHead even unpaired)] at even
    exact Nat.succ_le_succ (ih even)

theorem keyEven (even : endingBackslashes line % 2 = 0) :
    endingBackslashes (splitKey line).1 % 2 = 0 := by
  induction line using splitKey.induct with
  | case1 => rfl
  | case2 c rest key after found ih =>
    rw [pairParity] at even
    exact (pairParity c (splitKey rest).1).trans (ih even)
  | case3 c rest unpaired ends =>
    rw [splitKey.eq_3 c rest unpaired, if_pos ends]
    rfl
  | case4 c rest unpaired inside key after found ih =>
    have other := evenHead even unpaired
    rw [plainParity other] at even
    rw [splitKey.eq_3 c rest unpaired, if_neg inside]
    exact (plainParity other (splitKey rest).1).trans (ih even)

theorem afterEven (even : endingBackslashes line % 2 = 0) :
    endingBackslashes (splitKey line).2 % 2 = 0 := by
  have whole := parityAfter (keyEven even) (splitKey line).2
  rw [splitKeyWhole] at whole
  exact whole.symm.trans even

theorem valueEven {after : List Char} (even : endingBackslashes after % 2 = 0) :
    endingBackslashes (valueOf after) % 2 = 0 := by
  have blanks (text : List Char) :
      endingBackslashes (text.dropWhile isSeparatorBlank) = endingBackslashes text :=
    endingDropped (by decide) text
  rw [← blanks] at even
  unfold valueOf
  split
  · rename_i mark rest found
    rw [found] at even
    split
    · rename_i separates
      have other : mark ≠ '\\' := by
        rintro rfl
        exact absurd separates (by decide)
      rwa [blanks, ← plainParity other]
    · exact even
  · rfl

/-! ### Escapes -/

/-- The units of a text, or nothing as soon as a backslash is met with no character after it. -/
def wholeUnits? : List Char → Option (List Nat)
  | [] => some []
  | ['\\'] => none
  | '\\' :: 'u' :: a :: b :: c :: d :: rest =>
    match hexValue? a, hexValue? b, hexValue? c, hexValue? d with
    | some h, some i, some j, some k =>
      (wholeUnits? rest).map ((((h * 16 + i) * 16 + j) * 16 + k) :: ·)
    | _, _, _, _ => (wholeUnits? (a :: b :: c :: d :: rest)).map ('u'.toNat :: ·)
  | '\\' :: c :: rest => (wholeUnits? rest).map ((escapedChar c).toNat :: ·)
  | c :: rest => (wholeUnits? rest).map (c.toNat :: ·)

theorem digitOther {d : Char} {n : Nat} (reads : hexValue? d = some n) : d ≠ '\\' :=
  alnumOther (hexAlnum reads)

theorem unitsWhole {text : List Char} (even : endingBackslashes text % 2 = 0) :
    wholeUnits? text = some (unescapeUnits text) := by
  fun_induction wholeUnits? text with
  | case1 => rfl
  | case2 => exact absurd even loneOdd
  | case3 a b c d rest h i j k fourth third second first ih =>
    rw [pairParity, plainParity (digitOther first), plainParity (digitOther second),
      plainParity (digitOther third), plainParity (digitOther fourth)] at even
    simp only [ih even, unescapeUnits, first, second, third, fourth, Option.map_some]
  | case4 a b c d rest noCode ih =>
    rw [pairParity] at even
    simp only [ih even, unescapeUnits, Option.map_some]
  | case5 c rest noCode ih =>
    rw [pairParity] at even
    rw [ih even, unescapeUnits.eq_2 c rest noCode, Option.map_some]
  | case6 c rest lone noCode unpaired ih =>
    have other := evenHead even unpaired
    rw [plainParity other] at even
    rw [ih even, unescapePlain other, Option.map_some]

end

/-- A line on which no escape is cut: the search for the end of the key stays within it, and neither the key
nor the value ends in a backslash that escapes nothing. -/
structure IsUncut (line : List Char) : Prop where
  even : endingBackslashes line % 2 = 0
  split : splitKey line = (line.take (keyEnd line), line.drop (keyEnd line))
  within : keyEnd line ≤ line.length
  key : endingBackslashes (splitKey line).1 % 2 = 0
  keyUnits : wholeUnits? (splitKey line).1 = some (unescapeUnits (splitKey line).1)
  value : endingBackslashes (valueOf (splitKey line).2) % 2 = 0
  valueUnits : wholeUnits? (valueOf (splitKey line).2) = some (unescapeUnits (valueOf (splitKey line).2))

theorem evenUncut {line : List Char} (even : endingBackslashes line % 2 = 0) : IsUncut line where
  even := even
  split := splitAtEnd line
  within := endWithin even
  key := keyEven even
  keyUnits := unitsWhole (keyEven even)
  value := valueEven (afterEven even)
  valueUnits := unitsWhole (valueEven (afterEven even))

/-- No escape of a text is ever cut, over however many physical lines a logical line goes. -/
theorem escapesUncut (text : String) (line : List Char) (yielded : line ∈ logicalLines text.toList) :
    IsUncut line :=
  evenUncut (joinedEven (by simp) line yielded)

theorem continuedUncut :
    "k\\\\\\= v\\u0041".toList ∈ logicalLines "k\\\\\\\n  \\= v\\u0041\\".toList ∧
      IsUncut "k\\\\\\= v\\u0041".toList ∧
      parse "k\\\\\\\n  \\= v\\u0041\\" = .ofList [("k\\=", "vA")] := by
  have yielded : "k\\\\\\= v\\u0041".toList ∈ logicalLines "k\\\\\\\n  \\= v\\u0041\\".toList := by
    decide
  exact ⟨yielded, escapesUncut _ _ yielded, by decide⟩

end Phrasebook.Properties

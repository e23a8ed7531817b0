import Phrasebook.Accessor.Naming
import Phrasebook.Proofs.CaseMaps

/-! Words in names. A name is spelled as the words it is made of, character by character: case mapping
leaves a character of a word alone or, where it opens names, puts an identifier in its place, whatever the
style. -/
namespace Phrasebook

open Text

namespace Text

/-! ### Classes of code points as masks -/

/-- A class as the number with the bits of its code points. -/
def classMask : List (Nat × Nat) → Nat
  | [] => 0
  | (first, last) :: rest => ((below (last + 1) ||| classMask rest) >>> first) <<< first

theorem classBit {ranges : List (Nat × Nat)} {n : Nat} :
    (classMask ranges).testBit n = inRanges n ranges := by
  induction ranges with
  | nil => simp [classMask, inRanges]
  | cons range rest ih =>
    obtain ⟨first, last⟩ := range
    by_cases low : first ≤ n
    · simp [classMask, inRanges, low, belowBit, ih, Nat.lt_succ_iff]
    · simp [classMask, inRanges, low]

theorem masksWithin {a b n : Nat} (within : a &&& b = a) (bit : a.testBit n = true) :
    b.testBit n = true := by
  rw [← within, Nat.testBit_and, Bool.and_eq_true] at bit
  exact bit.2

theorem startsAreParts : classMask ClassTable.nameStarts &&& classMask ClassTable.nameParts =
    classMask ClassTable.nameStarts := by
  decide +kernel

theorem startIsPart {c : Char} (start : isNameStart c = true) : isNamePart c = true := by
  rw [isNameStart, ← classBit] at start
  rw [isNamePart, ← classBit]
  exact masksWithin startsAreParts start

/-! ### Case mapping within names -/

/-- Code points that have case and open no name: circled letters and a combining mark. -/
def nameless : List Nat := 0x345 :: List.range' 0x24b6 52

theorem namelessOutside : classMask ClassTable.letters &&& maskOf nameless = 0 ∧
    ∀ n ∈ nameless, isNumeric (Char.ofNat n) = false ∧ n ≠ '_'.toNat := by
  decide +kernel

theorem wordNamed {c : Char} (word : isWordChar c = true) : (maskOf nameless).testBit c.toNat = false := by
  simp only [isWordChar, Bool.or_eq_true, decide_eq_true_eq] at word
  rcases word with (mark | letter) | numeric
  · refine Bool.eq_false_iff.mpr fun bit => ?_
    exact (namelessOutside.2 _ (maskBit.mp bit)).2 (mark ▸ rfl)
  · rw [isLetter, ← classBit] at letter
    exact masksApart namelessOutside.1 letter
  · refine Bool.eq_false_iff.mpr fun bit => ?_
    have outside := (namelessOutside.2 _ (maskBit.mp bit)).1
    rw [Char.ofNat_toNat, numeric] at outside
    contradiction

/-- A case table that maps what opens names to what opens names. -/
structure NamedTable (runs : List (Nat × Nat × Nat × Int)) (strings : List (Nat × List Nat)) : Prop where
  points : pointsOf runs strings &&& (classMask ClassTable.nameStarts ||| maskOf nameless) =
    pointsOf runs strings
  moved : imageMask (maskOf nameless) runs &&& classMask ClassTable.nameStarts =
    imageMask (maskOf nameless) runs
  heads : maskOf (strings.filterMap (·.2.head?)) &&& classMask ClassTable.nameStarts =
    maskOf (strings.filterMap (·.2.head?))
  parts : maskOf (strings.flatMap Prod.snd) &&& classMask ClassTable.nameParts =
    maskOf (strings.flatMap Prod.snd)

theorem lowerNamed : NamedTable CaseTable.lowerRuns CaseTable.lowerStrings := by
  constructor <;> decide +kernel

theorem upperNamed : NamedTable CaseTable.upperRuns CaseTable.upperStrings := by
  constructor <;> decide +kernel

/-- How a character stands in a name: as it is or, where it opens names, as an identifier of its own. -/
inductive Cased (c : Char) : List Char → Prop where
  | itself : Cased c [c]
  | image {piece : List Char} (start : isNameStart c = true) (named : isIdentifier piece = true) :
      Cased c piece

section

variable {runs : List (Nat × Nat × Nat × Int)} {strings : List (Nat × List Nat)}

theorem pointRead {code : Nat} {ranges : List (Nat × Nat)} (valid : code.isValidChar)
    (bit : (classMask ranges).testBit code = true) : inRanges (Char.ofNat code).toNat ranges = true := by
  rwa [codeRead valid, ← classBit]

theorem listedNamed (settled : SettledTable runs strings) (named : NamedTable runs strings)
    {n : Nat} {codes : List Nat} (listed : (n, codes) ∈ strings) :
    isIdentifier (codes.map Char.ofNat) = true := by
  have each : ∀ code ∈ codes, code ∈ strings.flatMap Prod.snd :=
    fun code mem => List.mem_flatMap.mpr ⟨_, listed, mem⟩
  have valid : ∀ code ∈ codes, code.isValidChar := by
    intro code mem
    refine (settled.allowed ?_).1
    rw [imagesOf, Nat.testBit_or, maskBit.mpr (each code mem), Bool.or_true]
  obtain ⟨first, rest, rfl⟩ := List.exists_cons_of_ne_nil (settled.filled _ listed)
  have head : first ∈ strings.filterMap (·.2.head?) := List.mem_filterMap.mpr ⟨_, listed, rfl⟩
  simp only [List.map_cons, isIdentifier, Bool.and_eq_true, List.all_eq_true, List.forall_mem_map]
  refine ⟨pointRead (valid _ List.mem_cons_self) (masksWithin named.heads (maskBit.mpr head)), ?_⟩
  intro code mem
  have inside := List.mem_cons_of_mem first mem
  exact pointRead (valid _ inside) (masksWithin named.parts (maskBit.mpr (each _ inside)))

theorem movedNamed (settled : SettledTable runs strings) (named : NamedTable runs strings) {n : Nat}
    (outside : (maskOf nameless).testBit n = false) :
    runImage n runs = n ∨ isNameStart (Char.ofNat (runImage n runs)) = true := by
  rcases runMove settled.grounded (Nat.zero_testBit n) with fixed | ⟨-, any⟩
  · exact .inl fixed
  · refine (runMove settled.grounded outside).imp_right fun ⟨_, moved⟩ => ?_
    have valid : (runImage n runs).isValidChar :=
      (settled.allowed (by rw [imagesOf, Nat.testBit_or, any, Bool.true_or])).1
    exact pointRead valid (masksWithin named.moved moved)

theorem imageCased (settled : SettledTable runs strings) (named : NamedTable runs strings) {c : Char}
    (word : isWordChar c = true) : Cased c (image runs strings c) := by
  have outside := wordNamed word
  cases listed : (pointsOf runs strings).testBit c.toNat with
  | false =>
    rw [imageStays settled listed]
    exact .itself
  | true =>
    have start : isNameStart c = true := by
      have within := masksWithin named.points listed
      rwa [Nat.testBit_or, outside, Bool.or_false, classBit] at within
    unfold image
    split
    · rename_i codes found
      obtain ⟨before, after, spelled, -⟩ := List.lookup_eq_some_iff.mp found
      exact .image start (listedNamed settled named (n := c.toNat) (by simp [spelled]))
    · rcases movedNamed settled named outside with fixed | opens
      · rw [fixed, Char.ofNat_toNat]
        exact .itself
      · exact .image start (by simp [isIdentifier, opens])

end

theorem lowerCased {c : Char} (word : isWordChar c = true) : Cased c (lowerChar c) :=
  imageCased lowerTable lowerNamed word

theorem upperCased {c : Char} (word : isWordChar c = true) : Cased c (upperChar c) :=
  imageCased upperTable upperNamed word

end Text

namespace Accessor

/-! ### Words in a name -/

/-- Characters of words and what a name makes of them, with marks anywhere. -/
inductive Respelled : List Char → List Char → Prop where
  | nil : Respelled [] []
  | mark {chars name} (rest : Respelled chars name) : Respelled chars ('_' :: name)
  | char {c piece chars name} (first : Cased c piece) (rest : Respelled chars name) :
      Respelled (c :: chars) (piece ++ name)

/-- The same, with no mark before the first character. -/
inductive Spelled : List Char → List Char → Prop where
  | mk {c piece chars name} (first : Cased c piece) (rest : Respelled chars name) :
      Spelled (c :: chars) (piece ++ name)

theorem Spelled.respelled {chars name : List Char} (spelled : Spelled chars name) : Respelled chars name := by
  obtain ⟨first, rest⟩ := spelled
  exact .char first rest

theorem Respelled.same (chars : List Char) : Respelled chars chars := by
  induction chars with
  | nil => exact .nil
  | cons c rest ih => exact .char .itself ih

theorem Respelled.append {chars name others more : List Char} (before : Respelled chars name)
    (after : Respelled others more) : Respelled (chars ++ others) (name ++ more) := by
  induction before with
  | nil => exact after
  | mark rest ih => exact .mark ih
  | char first rest ih =>
    rw [List.append_assoc]
    exact .char first ih

theorem Spelled.append {chars name others more : List Char} (before : Spelled chars name)
    (after : Respelled others more) : Spelled (chars ++ others) (name ++ more) := by
  obtain ⟨first, rest⟩ := before
  rw [List.append_assoc]
  exact .mk first (rest.append after)

theorem identifierParts {name : List Char} (named : isIdentifier name = true) :
    ∀ d ∈ name, isNamePart d = true := by
  cases name with
  | nil => simp
  | cons c rest =>
    simp only [isIdentifier, Bool.and_eq_true, List.all_eq_true] at named
    exact List.forall_mem_cons.mpr ⟨startIsPart named.1, named.2⟩

theorem casedParts {c : Char} {piece : List Char} (cased : Cased c piece) :
    piece.all isNamePart = isNamePart c := by
  cases cased with
  | itself => simp
  | image start named =>
    rw [startIsPart start]
    exact List.all_eq_true.mpr (identifierParts named)

/-- What holds of all characters of words and of names holds of all that is made of them. -/
theorem Respelled.holds {p : Char → Prop} {chars name : List Char} (respelled : Respelled chars name)
    (parts : ∀ d, isNamePart d = true → p d) (each : ∀ c ∈ chars, p c) : ∀ d ∈ name, p d := by
  induction respelled with
  | nil => simp
  | mark rest ih => exact List.forall_mem_cons.mpr ⟨parts '_' (by decide), ih each⟩
  | char first rest ih =>
    obtain ⟨own, later⟩ := List.forall_mem_cons.mp each
    refine List.forall_mem_append.mpr ⟨?_, ih later⟩
    cases first with
    | itself => exact List.forall_mem_singleton.mpr own
    | image start named => exact fun d mem => parts d (identifierParts named d mem)

theorem Respelled.parts {chars name : List Char} (respelled : Respelled chars name) :
    name.all isNamePart = chars.all isNamePart := by
  induction respelled with
  | nil => rfl
  | mark rest ih =>
    have mark : isNamePart '_' = true := by decide
    rw [List.all_cons, mark, ih, Bool.true_and]
  | char first rest ih => rw [List.all_append, casedParts first, ih, List.all_cons]

/-! ### The styles -/

theorem sigmaCased (final : Bool) : Cased 'Σ' [if final then 'ς' else 'σ'] := by
  cases final <;> exact .image (by decide +kernel) (by decide +kernel)

theorem lowerAfterCons {c : Char} (word : isWordChar c = true) (before rest : List Char) :
    ∃ piece, Cased c piece ∧ lowerAfter before (c :: rest) = piece ++ lowerAfter (c :: before) rest := by
  rw [lowerAfter]
  split
  · rename_i sigma
    subst sigma
    exact ⟨_, sigmaCased _, rfl⟩
  · exact ⟨_, lowerCased word, rfl⟩

theorem lowerAfterMark (before rest : List Char) :
    lowerAfter before ('_' :: rest) = '_' :: lowerAfter ('_' :: before) rest := by
  have plain : lowerChar '_' = ['_'] := by decide
  rw [lowerAfter, if_neg (by decide), plain]
  rfl

theorem humpsSpelled {c : Char} {rest : List Char} (words : ∀ d ∈ c :: rest, isWordChar d = true)
    (before : List Char) : Spelled (c :: rest) (lowerAfter before (markHumps (c :: rest))) := by
  induction rest generalizing c before with
  | nil =>
    obtain ⟨piece, cased, lowered⟩ := lowerAfterCons (words c List.mem_cons_self) before []
    rw [markHumps, lowered]
    · exact .mk cased .nil
    · simp
  | cons d rest ih =>
    obtain ⟨own, later⟩ := List.forall_mem_cons.mp words
    rw [markHumps]
    split
    · obtain ⟨piece, cased, lowered⟩ := lowerAfterCons own before ('_' :: markHumps (d :: rest))
      rw [lowered, lowerAfterMark]
      exact .mk cased (.mark (ih later _).respelled)
    · obtain ⟨piece, cased, lowered⟩ := lowerAfterCons own before (markHumps (d :: rest))
      rw [lowered]
      exact .mk cased (ih later _).respelled

theorem wordSpelled {word : List Char} (filled : word ≠ []) (chars : ∀ c ∈ word, isWordChar c = true) :
    Spelled word (lowerChars (markHumps word)) := by
  obtain ⟨c, rest, rfl⟩ := List.exists_cons_of_ne_nil filled
  exact humpsSpelled chars []

theorem snakeSpelled {word : List Char} {rest : List (List Char)} (filled : ∀ w ∈ word :: rest, w ≠ [])
    (chars : ∀ w ∈ word :: rest, ∀ c ∈ w, isWordChar c = true) :
    Spelled (word :: rest).flatten (joinWords .snake (word :: rest)) := by
  induction rest generalizing word with
  | nil =>
    have own := wordSpelled (filled word List.mem_cons_self) (chars word List.mem_cons_self)
    simpa [joinWords, joined] using own
  | cons next rest ih =>
    obtain ⟨own, later⟩ := List.forall_mem_cons.mp filled
    obtain ⟨ownChars, laterChars⟩ := List.forall_mem_cons.mp chars
    have joins : joinWords .snake (word :: next :: rest) =
        lowerChars (markHumps word) ++ '_' :: joinWords .snake (next :: rest) := by
      simp [joinWords, joined]
    rw [joins, List.flatten_cons]
    exact (wordSpelled own ownChars).append (.mark (ih later laterChars).respelled)

theorem upperRespelled {words : List (List Char)} (chars : ∀ w ∈ words, ∀ c ∈ w, isWordChar c = true) :
    Respelled words.flatten (words.flatMap upperFirst) := by
  induction words with
  | nil => exact .nil
  | cons word rest ih =>
    obtain ⟨own, later⟩ := List.forall_mem_cons.mp chars
    rw [List.flatten_cons, List.flatMap_cons]
    refine Respelled.append ?_ (ih later)
    cases word with
    | nil => exact .nil
    | cons c more => exact .char (upperCased (own c List.mem_cons_self)) (.same more)

theorem camelSpelled {word : List Char} {rest : List (List Char)} (filled : word ≠ [])
    (chars : ∀ w ∈ word :: rest, ∀ c ∈ w, isWordChar c = true) :
    Spelled (word :: rest).flatten (joinWords .camel (word :: rest)) := by
  obtain ⟨own, later⟩ := List.forall_mem_cons.mp chars
  obtain ⟨c, more, rfl⟩ := List.exists_cons_of_ne_nil filled
  have opening : Spelled (c :: more) (lowerFirst (c :: more)) :=
    .mk (lowerCased (own c List.mem_cons_self)) (.same more)
  exact opening.append (upperRespelled later)

theorem joinedSpelled {naming : Naming} {words : List (List Char)} (some : words ≠ [])
    (filled : ∀ word ∈ words, word ≠ []) (chars : ∀ word ∈ words, ∀ c ∈ word, isWordChar c = true) :
    Spelled words.flatten (joinWords naming words) := by
  obtain ⟨word, rest, rfl⟩ := List.exists_cons_of_ne_nil some
  cases naming with
  | snake => exact snakeSpelled filled chars
  | camel => exact camelSpelled (filled word List.mem_cons_self) chars

end Accessor

end Phrasebook

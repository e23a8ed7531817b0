import Phrasebook.Proofs.LocaleTags

/-! The grammar of locale tags and what of it is recognized. Nothing outside the grammar is taken for a tag;
of the grammar, the tags with a short variant are left out. -/
namespace Phrasebook.Locale

open Text

/-- A variant of four characters, which opens with a digit as a year does. -/
structure IsShortVariant (part : List Char) : Prop where
  size : part.length = 4
  digit : ∀ c ∈ part.head?, c.isDigit
  chars : ∀ c ∈ part, c.isAlphanum

/-- What may follow the language of a tag. -/
inductive Subtag (part : List Char) : Prop
  | region (two : part.length = 2) (letters : ∀ c ∈ part, c.isAlpha)
  | area (three : part.length = 3) (digits : ∀ c ∈ part, c.isDigit)
  | script (four : part.length = 4) (letters : ∀ c ∈ part, c.isAlpha)
  | variant (five : 5 ≤ part.length) (eight : part.length ≤ 8) (chars : ∀ c ∈ part, c.isAlphanum)
  | short (short : IsShortVariant part)

def underscored (c : Char) : Char := if c = '-' then '_' else c

/-- A tag of the grammar with its parts: a language of two or three letters, then any number of subtags. -/
structure Grammatical (tag : String) (language : List Char) (rest : List (List Char)) : Prop where
  spelled : tag.toList.map underscored = joined ['_'] (language :: rest)
  size : language.length = 2 ∨ language.length = 3
  letters : ∀ c ∈ language, c.isAlpha
  subtags : ∀ part ∈ rest, Subtag part

def IsGrammatical (tag : String) : Prop := ∃ language rest, Grammatical tag language rest

/-! ### Characters and pieces -/

theorem letterNoDigit {c : Char} (letter : c.isAlpha) : ¬ c.isDigit := by
  intro digit
  rw [← letterIs, letterRange] at letter
  rw [← digitIs, digitRange] at digit
  omega

theorem underscoredPieces (text : List Char) :
    piecesAt (· = '_') (text.map underscored) = piecesAt isSeparator text := by
  induction text with
  | nil => rfl
  | cons c rest ih =>
    rw [List.map_cons, piecesAt, piecesAt, ih]
    by_cases hyphen : c = '-'
    · simp [underscored, isSeparator, hyphen]
    · simp [underscored, isSeparator, hyphen]

/-! ### Parts -/

theorem languageExactly {part : List Char} :
    isLanguage part = true ↔ (part.length = 2 ∨ part.length = 3) ∧ ∀ c ∈ part, c.isAlpha := by
  simp only [isLanguage, letterIs, Bool.and_eq_true, Bool.or_eq_true, decide_eq_true_eq,
    List.all_eq_true]

theorem scriptNotShort {part : List Char} (filled : part ≠ []) (letters : ∀ c ∈ part, c.isAlpha) :
    ¬ IsShortVariant part := by
  intro short
  obtain ⟨c, rest, rfl⟩ := List.exists_cons_of_ne_nil filled
  exact letterNoDigit (letters c List.mem_cons_self) (short.digit c rfl)

theorem subtagExactly {part : List Char} :
    isSubtag part = true ↔ Subtag part ∧ ¬ IsShortVariant part := by
  simp only [isSubtag, letterIs, digitIs, alnumIs, Bool.and_eq_true, Bool.or_eq_true,
    decide_eq_true_eq, List.all_eq_true]
  constructor
  · rintro (((⟨two, letters⟩ | ⟨three, digits⟩) | ⟨four, letters⟩) | ⟨⟨five, eight⟩, chars⟩)
    · exact ⟨.region two letters, fun short => by have := short.size; omega⟩
    · exact ⟨.area three digits, fun short => by have := short.size; omega⟩
    · exact ⟨.script four letters, scriptNotShort (by rintro rfl; contradiction) letters⟩
    · exact ⟨.variant five eight chars, fun short => by have := short.size; omega⟩
  · rintro ⟨shape, long⟩
    cases shape with
    | region two letters => exact .inl (.inl (.inl ⟨two, letters⟩))
    | area three digits => exact .inl (.inl (.inr ⟨three, digits⟩))
    | script four letters => exact .inl (.inr ⟨four, letters⟩)
    | variant five eight chars => exact .inr ⟨⟨five, eight⟩, chars⟩
    | short short => exact absurd short long

/-! ### Tags -/

theorem Subtag.chars {part : List Char} (shape : Subtag part) : ∀ c ∈ part, c.isAlphanum := by
  cases shape with
  | region _ letters | script _ letters => exact fun c mem => by simp [Char.isAlphanum, letters c mem]
  | area _ digits => exact fun c mem => by simp [Char.isAlphanum, digits c mem]
  | variant _ _ chars => exact chars
  | short short => exact short.chars

theorem Grammatical.pieces {tag : String} {language : List Char} {rest : List (List Char)}
    (shape : Grammatical tag language rest) : piecesAt isSeparator tag.toList = language :: rest := by
  have alnum : ∀ part ∈ language :: rest, ∀ c ∈ part, c.isAlphanum :=
    List.forall_mem_cons.mpr ⟨fun c mem => by simp [Char.isAlphanum, shape.letters c mem],
      fun part mem => (shape.subtags part mem).chars⟩
  rw [← underscoredPieces, shape.spelled]
  refine piecesJoined (by decide) (by simp) fun part mem c inside => ?_
  rw [decide_eq_false_iff_not]
  rintro rfl
  exact absurd (alnum part mem '_' inside) (by decide)

/-- A text is recognized exactly when it is a tag of the grammar and none of its parts is a short variant. -/
theorem tagsRecognized (tag : String) :
    isTag tag = true ↔ IsGrammatical tag ∧ ∀ part ∈ piecesAt isSeparator tag.toList, ¬ IsShortVariant part := by
  constructor
  · intro shape
    obtain ⟨language, rest, cut, first, later⟩ := shapedPieces shape
    obtain ⟨size, letters⟩ := languageExactly.mp first
    have shapes := fun part mem => subtagExactly.mp (List.all_eq_true.mp later part mem)
    have spelled : tag.toList.map underscored = joined ['_'] (language :: rest) := by
      rw [← cut, ← underscoredPieces, joinedPieces]
    refine ⟨⟨language, rest, spelled, size, letters, fun part mem => (shapes part mem).1⟩, ?_⟩
    rw [cut]
    exact List.forall_mem_cons.mpr ⟨fun short => by have := short.size; omega,
      fun part mem => (shapes part mem).2⟩
  · rintro ⟨⟨language, rest, shape⟩, long⟩
    rw [shape.pieces] at long
    obtain ⟨-, later⟩ := List.forall_mem_cons.mp long
    exact piecesShaped shape.pieces (languageExactly.mpr ⟨shape.size, shape.letters⟩) fun part mem =>
      subtagExactly.mpr ⟨shape.subtags part mem, later part mem⟩

/-- The reform of German spelling in 1996 is a variant of the grammar, and it is not recognized. -/
theorem reformUnrecognized : IsGrammatical "de_1996" ∧ isTag "de_1996" = false := by
  have year : IsShortVariant ['1', '9', '9', '6'] := by
    refine ⟨rfl, ?_, List.all_eq_true.mp (by decide)⟩
    rintro c ⟨⟩
    rfl
  have shape : Grammatical "de_1996" ['d', 'e'] [['1', '9', '9', '6']] :=
    ⟨by decide, .inl rfl, List.all_eq_true.mp (by decide), List.forall_mem_singleton.mpr (.short year)⟩
  exact ⟨⟨_, _, shape⟩, by decide⟩

end Phrasebook.Locale

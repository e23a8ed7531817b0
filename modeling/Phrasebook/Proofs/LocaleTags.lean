import Mathlib.Data.List.Nodup
import Phrasebook.Locale
import Phrasebook.Proofs.CaseMaps
import Phrasebook.Proofs.Characters
import Phrasebook.Proofs.Pieces

/-! Normalized locale tags. The spelling of any text settles when it is normalized a second time, which
is what a look-up by file name needs; that of a tag settles at once, and so do all tags of a fallback
chain. -/
namespace Phrasebook.Locale

open Text

theorem separatorMark {c : Char} : isSeparator c = true ↔ c ∈ ['-', '_'] := by
  simp [isSeparator]

def WellCut (parts : List (List Char)) : Prop :=
  ∀ part ∈ parts, part ≠ [] ∧ ∀ c ∈ part, isSeparator c = false

theorem subtagsCut (tag : List Char) : WellCut (subtags tag) := by
  intro part mem
  obtain ⟨piece, filled⟩ := fieldMember.mp mem
  exact ⟨filled, piecesClean piece⟩

theorem keptCut {part image : List Char} (longer : part.length ≤ image.length)
    (plain : ∀ d ∈ image, d ∈ ['-', '_'] → d ∈ part)
    (cut : part ≠ [] ∧ ∀ c ∈ part, isSeparator c = false) :
    image ≠ [] ∧ ∀ c ∈ image, isSeparator c = false := by
  obtain ⟨filled, clean⟩ := cut
  constructor
  · rintro rfl
    exact filled (List.eq_nil_of_length_eq_zero (Nat.le_zero.mp longer))
  · intro d mem
    by_contra mark
    have separator : isSeparator d = true := by simpa using mark
    have inside := plain d mem (separatorMark.mp separator)
    simp [clean d inside] at separator

theorem subtagLength (part : List Char) : part.length ≤ (normalizeSubtag part).length := by
  unfold normalizeSubtag
  split
  · exact upperCharsLength part
  · split
    · exact capitalizeLength part
    · exact Nat.le_refl _

theorem subtagPlain {part : List Char} {d : Char} (mem : d ∈ normalizeSubtag part)
    (mark : d ∈ ['-', '_']) : d ∈ part := by
  unfold normalizeSubtag at mem
  split at mem
  · exact upperCharsPlain mem mark
  · split at mem
    · exact capitalizePlain mem mark
    · exact mem

theorem normalizedCut {parts : List (List Char)} (cut : WellCut parts) :
    WellCut (normalizeParts parts) := by
  cases parts with
  | nil => exact cut
  | cons language rest =>
    obtain ⟨first, later⟩ := List.forall_mem_cons.mp cut
    refine List.forall_mem_cons.mpr ⟨?_, ?_⟩
    · exact keptCut (lowerAfterLength [] language) (fun d mem mark => lowerAfterPlain mem mark) first
    · intro image mem
      obtain ⟨part, inside, rfl⟩ := List.mem_map.mp mem
      exact keptCut (subtagLength part) (fun d mem mark => subtagPlain mem mark) (later part inside)

theorem joinedSubtags {parts : List (List Char)} (cut : WellCut parts) :
    subtags (joined ['_'] parts) = parts :=
  fieldsJoined (by decide) (fun part mem => (cut part mem).1) fun part mem => (cut part mem).2

theorem normalizedSubtags (tag : List Char) :
    subtags (normalizeChars tag) = normalizeParts (subtags tag) :=
  joinedSubtags (normalizedCut (subtagsCut tag))

theorem normalizedTwice (tag : List Char) :
    normalizeChars (normalizeChars tag) =
      joined ['_'] (normalizeParts (normalizeParts (subtags tag))) := by
  rw [normalizeChars, normalizedSubtags]

theorem otherSubtag {part : List Char} (two : part.length ≠ 2) (four : part.length ≠ 4) :
    normalizeSubtag part = part := by
  simp [normalizeSubtag, two, four]

theorem scriptSettled {part : List Char} (four : part.length = 4) :
    normalizeSubtag (capitalizeChars part) = capitalizeChars part := by
  have longer := capitalizeLength part
  by_cases same : (capitalizeChars part).length = 4
  · by_cases letters : (capitalizeChars part).all isLetter = true
    · simp only [normalizeSubtag, same, letters]
      simpa using capitalizeSettled (same.trans four.symm)
    · simp [normalizeSubtag, same, letters]
  -- A capital that is several letters long leaves no script behind.
  · exact otherSubtag (by omega) same

/-- A part is spelled as a region, as a script or as it is. -/
theorem subtagCases (part : List Char) :
    ((part.length = 2 ∧ part.all isLetter = true) ∧ normalizeSubtag part = upperChars part) ∨
    ((part.length = 4 ∧ part.all isLetter = true) ∧ normalizeSubtag part = capitalizeChars part) ∨
    (¬ (part.length = 2 ∧ part.all isLetter = true) ∧ ¬ (part.length = 4 ∧ part.all isLetter = true) ∧
      normalizeSubtag part = part) := by
  simp only [normalizeSubtag, Bool.and_eq_true, decide_eq_true_eq]
  by_cases two : part.length = 2 ∧ part.all isLetter = true
  · exact .inl ⟨two, if_pos two⟩
  · by_cases four : part.length = 4 ∧ part.all isLetter = true
    · exact .inr (.inl ⟨four, (if_neg two).trans (if_pos four)⟩)
    · exact .inr (.inr ⟨two, four, (if_neg two).trans (if_neg four)⟩)

theorem regionSettled (part : List Char) :
    normalizeSubtag (normalizeSubtag (upperChars part)) = normalizeSubtag (upperChars part) := by
  -- Two letters in upper case need not be two letters: they can be four, and so a script.
  rcases subtagCases (upperChars part) with ⟨-, region⟩ | ⟨⟨four, -⟩, script⟩ | ⟨-, -, same⟩
  · rw [upperCharsSettled] at region
    rw [region, region]
  · rw [script, scriptSettled four]
  · rw [same, same]

theorem subtagThrice (part : List Char) :
    normalizeSubtag (normalizeSubtag (normalizeSubtag part)) =
      normalizeSubtag (normalizeSubtag part) := by
  rcases subtagCases part with ⟨-, region⟩ | ⟨⟨four, -⟩, script⟩ | ⟨-, -, same⟩
  · rw [region, regionSettled]
  · rw [script, scriptSettled four, scriptSettled four]
  · simp only [same]

theorem partsThrice (parts : List (List Char)) :
    normalizeParts (normalizeParts (normalizeParts parts)) = normalizeParts (normalizeParts parts) := by
  cases parts with
  | nil => rfl
  | cons language rest =>
    have lowered : lowerChars (lowerChars language) = lowerChars language := lowStays lowerAfterLow
    simp only [normalizeParts, lowered, List.map_map, List.cons.injEq, true_and]
    exact List.map_congr_left fun part _ => subtagThrice part

theorem normalizeThrice (tag : Option String) :
    normalize (some (normalize (some (normalize tag)))) = normalize (some (normalize tag)) := by
  simp only [normalize, Option.getD_some, String.toList_ofList]
  rw [normalizedTwice, normalizedSubtags, partsThrice, normalizedTwice]

def isOneLetter : List Char → Bool
  | [c] => isAsciiLetter c
  | _ => false

theorem oneLetter {cs : List Char} (one : isOneLetter cs = true) :
    ∃ d, cs = [d] ∧ isAsciiLetter d = true := by
  unfold isOneLetter at one
  split at one
  · exact ⟨_, rfl, one⟩
  · contradiction

theorem asciiTable : ∀ n ∈ List.range 128, isAsciiLetter (Char.ofNat n) = true →
    isOneLetter (lowerChar (Char.ofNat n)) = true ∧ isOneLetter (upperChar (Char.ofNat n)) = true ∧
      isOneLetter (titleChar (Char.ofNat n)) = true := by
  decide +kernel

theorem asciiCases {c : Char} (letter : isAsciiLetter c = true) :
    c ≠ 'Σ' ∧ (∃ d, lowerChar c = [d] ∧ isAsciiLetter d = true) ∧
      (∃ d, upperChar c = [d] ∧ isAsciiLetter d = true) ∧
      ∃ d, titleChar c = [d] ∧ isAsciiLetter d = true := by
  have range := letterRange.mp letter
  have cases := asciiTable c.toNat (List.mem_range.mpr (by omega))
  rw [Char.ofNat_toNat] at cases
  obtain ⟨low, upper, title⟩ := cases letter
  refine ⟨?_, oneLetter low, oneLetter upper, oneLetter title⟩
  rintro rfl
  exact absurd letter (by decide)

/-- What normalizing does to ASCII letters: they are as many as before, and still ASCII letters. -/
def Lettered (part image : List Char) : Prop :=
  image.length = part.length ∧ image.all isAsciiLetter = true

theorem lowerLettered {before part : List Char} (letters : part.all isAsciiLetter = true) :
    Lettered part (lowerAfter before part) := by
  induction part generalizing before with
  | nil => exact ⟨rfl, rfl⟩
  | cons c rest ih =>
    simp only [List.all_cons, Bool.and_eq_true] at letters
    obtain ⟨other, ⟨d, single, letter⟩, -⟩ := asciiCases letters.1
    obtain ⟨size, all⟩ := @ih (c :: before) letters.2
    simp [Lettered, lowerAfter, other, single, letter, size, all]

theorem upperLettered {part : List Char} (letters : part.all isAsciiLetter = true) :
    Lettered part (upperChars part) := by
  induction part with
  | nil => exact ⟨rfl, rfl⟩
  | cons c rest ih =>
    simp only [List.all_cons, Bool.and_eq_true] at letters
    obtain ⟨-, -, ⟨d, single, letter⟩, -⟩ := asciiCases letters.1
    obtain ⟨size, all⟩ := ih letters.2
    unfold upperChars at size all ⊢
    simp only [Lettered, List.flatMap_cons, single, List.cons_append, List.nil_append,
      List.length_cons, List.all_cons, letter, Bool.true_and]
    exact ⟨by omega, all⟩

theorem capitalizeLettered {part : List Char} (letters : part.all isAsciiLetter = true) :
    Lettered part (capitalizeChars part) := by
  cases part with
  | nil => exact ⟨rfl, rfl⟩
  | cons c rest =>
    simp only [List.all_cons, Bool.and_eq_true] at letters
    obtain ⟨-, -, -, d, single, letter⟩ := asciiCases letters.1
    obtain ⟨size, all⟩ := @lowerLettered [c] rest letters.2
    simp [Lettered, capitalizeChars, single, letter, size, all]

theorem asciiAllLetters {part : List Char} (letters : part.all isAsciiLetter = true) :
    part.all isLetter = true := by
  simp only [List.all_eq_true] at letters ⊢
  exact fun c mem => asciiLetter (letters c mem)

theorem languageSettles {part : List Char} (shape : isLanguage part = true) :
    isLanguage (lowerChars part) = true := by
  simp only [isLanguage, Bool.and_eq_true, Bool.or_eq_true, decide_eq_true_eq] at shape ⊢
  obtain ⟨size, all⟩ := @lowerLettered [] part shape.2
  exact ⟨by unfold lowerChars; omega, all⟩

theorem subtagSettles {part : List Char} (shape : isSubtag part = true) :
    isSubtag (normalizeSubtag part) = true ∧
      normalizeSubtag (normalizeSubtag part) = normalizeSubtag part := by
  have shapes := shape
  simp only [isSubtag, Bool.or_eq_true, Bool.and_eq_true, decide_eq_true_eq] at shapes
  rcases shapes with ((⟨two, letters⟩ | ⟨three, -⟩) | ⟨four, letters⟩) | ⟨⟨five, -⟩, -⟩
  · have region : normalizeSubtag part = upperChars part := by
      simp [normalizeSubtag, two, asciiAllLetters letters]
    obtain ⟨size, all⟩ := upperLettered letters
    rw [region]
    refine ⟨by simp [isSubtag, size, two, all], ?_⟩
    simpa [normalizeSubtag, size, two, asciiAllLetters all] using upperCharsSettled part
  · rw [otherSubtag (by omega) (by omega), otherSubtag (by omega) (by omega)]
    exact ⟨shape, rfl⟩
  · have script : normalizeSubtag part = capitalizeChars part := by
      simp [normalizeSubtag, four, asciiAllLetters letters]
    obtain ⟨size, all⟩ := capitalizeLettered letters
    rw [script]
    exact ⟨by simp [isSubtag, size, four, all], scriptSettled four⟩
  · rw [otherSubtag (by omega) (by omega), otherSubtag (by omega) (by omega)]
    exact ⟨shape, rfl⟩

theorem shapedPieces {tag : String} (shape : isTag tag = true) :
    ∃ language rest, piecesAt isSeparator tag.toList = language :: rest ∧
      isLanguage language = true ∧ rest.all isSubtag = true := by
  unfold isTag at shape
  split at shape
  · contradiction
  · rename_i language rest cut
    rw [Bool.and_eq_true] at shape
    exact ⟨language, rest, cut, shape⟩

theorem piecesShaped {tag : String} {language : List Char} {rest : List (List Char)}
    (cut : piecesAt isSeparator tag.toList = language :: rest) (first : isLanguage language = true)
    (later : ∀ part ∈ rest, isSubtag part = true) : isTag tag = true := by
  simp only [isTag, cut, first, Bool.true_and]
  exact List.all_eq_true.mpr later

theorem languageFilled {part : List Char} (shape : isLanguage part = true) : part ≠ [] := by
  rintro rfl
  simp [isLanguage] at shape

theorem subtagFilled {part : List Char} (shape : isSubtag part = true) : part ≠ [] := by
  rintro rfl
  simp [isSubtag] at shape

theorem tagSubtags {tag : String} (shape : isTag tag = true) :
    subtags tag.toList = piecesAt isSeparator tag.toList := by
  obtain ⟨language, rest, cut, first, later⟩ := shapedPieces shape
  refine List.filter_eq_self.mpr fun part mem => ?_
  rw [cut] at mem
  rcases List.mem_cons.mp mem with rfl | inside
  · simpa using languageFilled first
  · simpa using subtagFilled (List.all_eq_true.mp later part inside)

theorem subtagChars {part : List Char} (shape : isSubtag part = true) :
    ∀ c ∈ part, isAsciiAlnum c = true := by
  intro c mem
  rw [alnumRange]
  simp only [isSubtag, Bool.or_eq_true, Bool.and_eq_true, List.all_eq_true] at shape
  rcases shape with ((⟨-, letters⟩ | ⟨-, digits⟩) | ⟨-, letters⟩) | ⟨-, both⟩
  · exact .inl (letters c mem)
  · exact .inr (digits c mem)
  · exact .inl (letters c mem)
  · exact alnumRange.mp (both c mem)

theorem tagChars {tag : String} (shape : isTag tag = true) :
    ∀ c ∈ tag.toList, isSeparator c = true ∨ isAsciiAlnum c = true := by
  intro c mem
  obtain ⟨language, rest, cut, first, later⟩ := shapedPieces shape
  refine (@pieceHolds isSeparator tag.toList c mem).imp_right fun ⟨part, inside, held⟩ => ?_
  rw [cut] at inside
  rcases List.mem_cons.mp inside with rfl | other
  · simp only [isLanguage, Bool.and_eq_true, List.all_eq_true] at first
    exact alnumRange.mpr (.inl (first.2 c held))
  · exact subtagChars (List.all_eq_true.mp later part other) c held

def tagText (parts : List (List Char)) : String := String.ofList (joined ['_'] parts)

/-- The parts of a tag in a spelling that stands, and those of the default, which are none. -/
structure Settled (parts : List (List Char)) : Prop where
  cut : WellCut parts
  fixed : normalizeParts parts = parts
  language : ∀ part ∈ parts.head?, isLanguage part = true
  shaped : ∀ part ∈ parts.tail, isSubtag part = true

section

variable {parts : List (List Char)}

theorem Settled.text (settled : Settled parts) :
    subtags (tagText parts).toList = parts ∧ normalize (some (tagText parts)) = tagText parts := by
  have cut : subtags (tagText parts).toList = parts := by
    rw [tagText, String.toList_ofList, joinedSubtags settled.cut]
  refine ⟨cut, ?_⟩
  rw [normalize, normalizeChars, Option.getD_some, cut, settled.fixed, tagText]

theorem Settled.shape (settled : Settled parts) (filled : parts ≠ []) : isTag (tagText parts) = true := by
  have pieces : piecesAt isSeparator (tagText parts).toList = parts := by
    rw [tagText, String.toList_ofList]
    exact piecesJoined (by decide) filled fun part mem => (settled.cut part mem).2
  obtain ⟨language, rest, rfl⟩ := List.exists_cons_of_ne_nil filled
  exact piecesShaped pieces (settled.language language rfl) settled.shaped

end

theorem tagSettled {tag : String} (shape : isTag tag = true) :
    Settled (normalizeParts (subtags tag.toList)) := by
  obtain ⟨language, rest, cut, first, later⟩ := shapedPieces shape
  have lowered : lowerChars (lowerChars language) = lowerChars language := lowStays lowerAfterLow
  rw [List.all_eq_true] at later
  constructor
  case cut => exact normalizedCut (subtagsCut tag.toList)
  all_goals rw [tagSubtags shape, cut, normalizeParts]
  case fixed =>
    simp only [normalizeParts, lowered, List.map_map, List.cons.injEq, true_and]
    exact List.map_congr_left fun part mem => (subtagSettles (later part mem)).2
  case language =>
    rintro part ⟨⟩
    exact languageSettles first
  case shaped =>
    intro image mem
    obtain ⟨part, inside, rfl⟩ := List.mem_map.mp mem
    exact (subtagSettles (later part inside)).1

theorem tagFilled {tag : String} (shape : isTag tag = true) : subtags tag.toList ≠ [] := by
  rw [tagSubtags shape]
  exact piecesFilled tag.toList

theorem tagSettles {tag : String} (shape : isTag tag = true) :
    isTag (normalize (some tag)) = true ∧
      normalize (some (normalize (some tag))) = normalize (some tag) := by
  have settled := tagSettled shape
  have filled : normalizeParts (subtags tag.toList) ≠ [] := by
    obtain ⟨language, rest, cut⟩ := List.exists_cons_of_ne_nil (tagFilled shape)
    simp [cut, normalizeParts]
  exact ⟨settled.shape filled, settled.text.2⟩

theorem generalizationMember {parts : List (List Char)} {tag : List Char}
    (mem : tag ∈ generalizations parts) :
    ∃ count, 0 < count ∧ tag = joined ['_'] (parts.take count) := by
  induction parts generalizing tag with
  | nil => simp [generalizations] at mem
  | cons part rest ih =>
    rcases List.mem_append.mp mem with longer | alone
    · obtain ⟨tail, inside, rfl⟩ := List.mem_map.mp longer
      obtain ⟨count, positive, rfl⟩ := ih inside
      refine ⟨count + 1, by omega, ?_⟩
      cases rest with
      | nil => simp [generalizations] at inside
      | cons next rest =>
        obtain ⟨before, rfl⟩ := Nat.exists_eq_add_of_lt positive
        simp [joined]
    · exact ⟨1, by omega, by simpa [joined] using alone⟩

theorem generalizationsDistinct (parts : List (List Char)) : (generalizations parts).Nodup := by
  induction parts with
  | nil => exact .nil
  | cons part rest ih =>
    refine List.nodup_append.mpr ⟨List.Nodup.map ?_ ih, List.nodup_singleton part, ?_⟩
    · intro tail other same
      exact (List.cons.inj (List.append_cancel_left same)).2
    · -- All tags before the last are longer than it.
      intro longer mem short alone same
      obtain ⟨tail, -, rfl⟩ := List.mem_map.mp mem
      obtain rfl := List.mem_singleton.mp alone
      simpa using congrArg List.length same

theorem generalizationsSnoc (parts : List (List Char)) (last : List Char) :
    generalizations (parts ++ [last]) = joined ['_'] (parts ++ [last]) :: generalizations parts := by
  induction parts with
  | nil => rfl
  | cons part rest ih =>
    obtain ⟨next, more, filled⟩ := List.exists_cons_of_ne_nil (List.concat_ne_nil last rest)
    have spelled : joined ['_'] (part :: (rest ++ [last])) =
        part ++ '_' :: joined ['_'] (rest ++ [last]) := by simp [filled, joined]
    rw [List.cons_append, spelled, generalizations, ih, List.map_cons, List.cons_append, generalizations]

theorem generalizationHead {parts : List (List Char)} (filled : parts ≠ []) :
    joined ['_'] parts ∈ generalizations parts := by
  have snoc := generalizationsSnoc parts.dropLast (parts.getLast filled)
  rw [List.dropLast_concat_getLast] at snoc
  rw [snoc]
  exact List.mem_cons_self

theorem chainHead {tag : String} (settled : normalize (some tag) = tag) (filled : tag ≠ "") :
    tag ∈ (fallbackChain (some tag)).dropLast := by
  have chars : tag.toList.isEmpty = false := by simpa using filled
  simp only [fallbackChain, settled, chars, Bool.false_eq_true, if_false, List.dropLast_concat]
  have whole := @generalizationHead (piecesAt (· = '_') tag.toList) (piecesFilled _)
  rw [joinedPieces] at whole
  exact List.mem_map.mpr ⟨tag.toList, whole, String.ofList_toList⟩

theorem chainDistinct (tag : Option String) : (fallbackChain tag).dropLast.Nodup := by
  simp only [fallbackChain, List.dropLast_concat]
  exact List.Nodup.map (fun _ _ => String.ofList_inj.mp) (generalizationsDistinct _)

theorem normalizedTake (parts : List (List Char)) (count : Nat) :
    normalizeParts (parts.take count) = (normalizeParts parts).take count := by
  cases parts with
  | nil => simp [normalizeParts]
  | cons language rest =>
    cases count with
    | zero => rfl
    | succ count => simp [normalizeParts, List.map_take]

theorem joinedEmpty {parts : List (List Char)} (cut : WellCut parts) :
    joined ['_'] parts = [] ↔ parts = [] := by
  constructor
  · intro empty
    rw [← joinedSubtags cut, empty]
    rfl
  · rintro rfl
    rfl

/-- The chain of a tag that has the parts, from the longest on. -/
def chainOf (parts : List (List Char)) : List String :=
  (generalizations parts).map String.ofList ++ [""]

theorem chainParts (tag : Option String) :
    fallbackChain tag = chainOf (normalizeParts (subtags (tag.getD "").toList)) := by
  have cut : WellCut (normalizeParts (subtags (tag.getD "").toList)) := normalizedCut (subtagsCut _)
  simp only [fallbackChain, normalize, normalizeChars, String.toList_ofList, List.isEmpty_iff]
  generalize normalizeParts (subtags (tag.getD "").toList) = parts at cut ⊢
  split
  · rename_i empty
    rw [(joinedEmpty cut).mp empty, chainOf]
  · rename_i filled
    rw [piecesJoined (by decide) (mt (joinedEmpty cut).mpr filled) ?_, chainOf]
    intro part mem c inside
    have plain := (cut part mem).2 c inside
    simp only [isSeparator, Bool.or_eq_false_iff] at plain
    exact plain.2

theorem chainSettled {tag : Option String}
    (settled : normalize (some (normalize tag)) = normalize tag) {general : String}
    (mem : general ∈ (fallbackChain tag).dropLast) :
    normalize (some general) = general ∧ general ≠ "" := by
  have cut : WellCut (normalizeParts (subtags (tag.getD "").toList)) := normalizedCut (subtagsCut _)
  have spelled : normalize tag = tagText (normalizeParts (subtags (tag.getD "").toList)) := rfl
  rw [chainParts, chainOf, List.dropLast_concat] at mem
  generalize normalizeParts (subtags (tag.getD "").toList) = parts at cut spelled mem
  have fixed : normalizeParts parts = parts := by
    rw [spelled] at settled
    simp only [normalize, normalizeChars, tagText, Option.getD_some, String.toList_ofList,
      joinedSubtags cut] at settled
    have joins := congrArg (fun s => subtags s.toList) settled
    simpa only [String.toList_ofList, joinedSubtags cut, joinedSubtags (normalizedCut cut)] using joins
  obtain ⟨chars, inside, rfl⟩ := List.mem_map.mp mem
  obtain ⟨count, positive, rfl⟩ := generalizationMember inside
  have cutTake : WellCut (parts.take count) := fun part mem => cut part (List.mem_of_mem_take mem)
  constructor
  · simp only [normalize, normalizeChars, Option.getD_some, String.toList_ofList,
      joinedSubtags cutTake, normalizedTake, fixed]
  · intro empty
    have none : parts.take count = [] := (joinedEmpty cutTake).mp (String.ofList_inj.mp empty)
    rw [List.take_eq_nil_iff] at none
    rcases none with zero | bare
    · omega
    · simp [bare, generalizations] at inside

end Phrasebook.Locale

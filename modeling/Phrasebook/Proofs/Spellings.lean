import Phrasebook.Proofs.Shelves
import Phrasebook.Proofs.Transcripts

/-! The spelling that a locale is brought to. It stands when it is normalized again unless a region outgrew
its two letters, and tags that differ in case and separators share it as far as they spell their variants
alike. -/
namespace Phrasebook.Locale

open Text Resolver

/-! ### Normalizing again -/

/-- Two letters whose upper case is four letters: a region that is read as a script afterwards. -/
def Outgrows (part : List Char) : Prop :=
  (part.length = 2 ∧ part.all isLetter = true) ∧
    (upperChars part).length = 4 ∧ (upperChars part).all isLetter = true

instance (part : List Char) : Decidable (Outgrows part) := inferInstanceAs (Decidable (_ ∧ _))

theorem raisedTable : ∀ entry ∈ CaseTable.upperStrings,
    (∃ code ∈ entry.2, lowerChar (Char.ofNat code) ≠ [Char.ofNat code]) ∧
    (entry.2.length = 3 → (∀ code ∈ entry.2, isLetter (Char.ofNat code) = true) →
      ∃ code ∈ entry.2.tail, lowerChar (Char.ofNat code) ≠ [Char.ofNat code]) := by
  decide +kernel

/-- An upper case of several characters has one that lower case takes back; one of three letters has it
after the first. -/
theorem raisedBack {c : Char} (several : 1 < (upperChar c).length) :
    (∃ d ∈ upperChar c, ¬ isLow d) ∧
    ((upperChar c).length = 3 → (upperChar c).all isLetter = true →
      ∃ d ∈ (upperChar c).tail, ¬ isLow d) := by
  unfold upperChar image at several ⊢
  split at several
  · rename_i codes found
    obtain ⟨before, after, listed, -⟩ := List.lookup_eq_some_iff.mp found
    obtain ⟨some, tail⟩ := raisedTable (c.toNat, codes) (by simp [listed])
    constructor
    · obtain ⟨code, mem, moves⟩ := some
      exact ⟨_, List.mem_map_of_mem mem, fun low => moves low.2⟩
    · intro three letters
      rw [List.length_map] at three
      rw [List.all_map, List.all_eq_true] at letters
      obtain ⟨code, mem, moves⟩ := tail three letters
      rw [← List.map_tail]
      exact ⟨_, List.mem_map_of_mem mem, fun low => moves low.2⟩
  · simp at several

theorem outgrownMoves {part : List Char} (outgrows : Outgrows part) :
    capitalizeChars (upperChars part) ≠ upperChars part := by
  obtain ⟨⟨two, -⟩, four, letters⟩ := outgrows
  obtain ⟨c, d, rfl⟩ := List.length_eq_two.mp two
  have spelled : upperChars [c, d] = upperChar c ++ upperChar d := by simp [upperChars]
  rw [spelled] at four letters ⊢
  rw [List.length_append] at four
  rw [List.all_append, Bool.and_eq_true] at letters
  have first : upperChar c ≠ [] := imageFilled upperTable c
  have second : 0 < (upperChar d).length := List.length_pos_iff.mpr (imageFilled upperTable d)
  obtain ⟨head, tail, opened⟩ := List.exists_cons_of_ne_nil first
  intro same
  have low : ∀ x ∈ tail ++ upperChar d, isLow x := by
    refine @capitalizedLow head _ ?_
    rwa [← List.cons_append, ← opened]
  by_cases several : 1 < (upperChar d).length
  · obtain ⟨x, mem, high⟩ := (raisedBack several).1
    exact high (low x (List.mem_append_right tail mem))
  · have three : (upperChar c).length = 3 := by omega
    obtain ⟨x, mem, high⟩ := (raisedBack (by omega)).2 three letters.1
    rw [opened, List.tail_cons] at mem
    exact high (low x (List.mem_append_left _ mem))

theorem subtagStands (part : List Char) :
    normalizeSubtag (normalizeSubtag part) = normalizeSubtag part ↔ ¬ Outgrows part := by
  rcases subtagCases part with ⟨two, region⟩ | ⟨⟨four, -⟩, script⟩ | ⟨other, -, same⟩
  · rw [region]
    rcases subtagCases (upperChars part) with ⟨⟨again, -⟩, same⟩ | ⟨four, script⟩ | ⟨-, other, same⟩
    · rw [upperCharsSettled] at same
      refine iff_of_true same fun outgrows => ?_
      have four := outgrows.2.1
      omega
    · have outgrows : Outgrows part := ⟨two, four⟩
      rw [script]
      exact iff_of_false (outgrownMoves outgrows) (not_not_intro outgrows)
    · exact iff_of_true same fun outgrows => other outgrows.2
  · rw [script]
    refine iff_of_true (scriptSettled four) fun outgrows => ?_
    have two := outgrows.1.1
    omega
  · rw [same]
    exact iff_of_true same fun outgrows => other outgrows.1

theorem partsStand (parts : List (List Char)) :
    normalizeParts (normalizeParts parts) = normalizeParts parts ↔
      ∀ part ∈ parts.tail, ¬ Outgrows part := by
  cases parts with
  | nil => simp [normalizeParts]
  | cons language rest =>
    have lowered : lowerChars (lowerChars language) = lowerChars language := lowStays lowerAfterLow
    simp only [normalizeParts, lowered, List.map_map, List.cons.injEq, true_and, List.tail_cons]
    rw [List.map_inj_left]
    exact forall₂_congr fun part _ => subtagStands part

theorem joinedSame {parts others : List (List Char)} (cut : WellCut parts) (cutOthers : WellCut others) :
    joined ['_'] parts = joined ['_'] others ↔ parts = others := by
  refine ⟨fun same => ?_, congrArg _⟩
  rw [← joinedSubtags cut, same, joinedSubtags cutOthers]

theorem normalizedStands (tag : Option String) :
    normalize (some (normalize tag)) = normalize tag ↔
      ∀ part ∈ (subtags (tag.getD "").toList).tail, ¬ Outgrows part := by
  have cut := subtagsCut (tag.getD "").toList
  rw [← partsStand]
  simp only [normalize, Option.getD_some, String.toList_ofList, String.ofList_inj]
  rw [normalizedTwice, normalizeChars]
  exact joinedSame (normalizedCut (normalizedCut cut)) (normalizedCut cut)

/-- A spelling stands exactly when none of its regions outgrew its two letters; in any case it stands after
the second time. -/
theorem spellingStands (tag : Option String) :
    (normalize (some (normalize tag)) = normalize tag ↔
      ∀ part ∈ (subtags (tag.getD "").toList).tail, ¬ Outgrows part) ∧
    normalize (some (normalize (some (normalize tag)))) = normalize (some (normalize tag)) :=
  ⟨normalizedStands tag, normalizeThrice tag⟩

/-- The capital of ß is two letters, so that of a region ßß is no region. -/
theorem sharpRegionMoves :
    normalize (some "de-ßß") = "de_SSSS" ∧ normalize (some (normalize (some "de-ßß"))) = "de_Ssss" := by
  decide +kernel

/-! ### Equivalent spellings -/

/-- A character without its ASCII case, separators being all one. -/
def plainChar (c : Char) : Char := if isSeparator c then '_' else c.toLower

def Equivalent (a b : String) : Prop := a.toList.map plainChar = b.toList.map plainChar

instance (a b : String) : Decidable (Equivalent a b) := inferInstanceAs (Decidable (_ = _))

/-- The parts of a tag that keep their case, the variants. -/
def variantsOf (tag : String) : List (List Char) :=
  (subtags tag.toList).filter fun part => 5 ≤ part.length

theorem alnumUnmarked {c : Char} (alnum : isAsciiAlnum c = true) : isSeparator c = false := by
  refine Bool.eq_false_iff.mpr fun separator => ?_
  have mark := separatorMark.mp separator
  simp only [List.mem_cons, List.not_mem_nil, or_false] at mark
  rcases mark with rfl | rfl
  · exact absurd alnum (by decide)
  · exact absurd alnum (by decide)

theorem capitalTable : ∀ n ∈ List.range 26,
    (isAsciiLetter (Char.ofNat (n + 65)) = true ∧ isAsciiLetter (Char.ofNat (n + 97)) = true) ∧
    lowerChar (Char.ofNat (n + 97)) = lowerChar (Char.ofNat (n + 65)) ∧
    upperChar (Char.ofNat (n + 97)) = upperChar (Char.ofNat (n + 65)) ∧
    titleChar (Char.ofNat (n + 97)) = titleChar (Char.ofNat (n + 65)) := by
  decide +kernel

theorem loweredChar (c : Char) :
    c.toLower = c ∨
      ∃ n ∈ List.range 26, c = Char.ofNat (n + 65) ∧ c.toLower = Char.ofNat (n + 97) := by
  by_cases upper : c.val ≥ 'A'.val ∧ c.val ≤ 'Z'.val
  · have low : 65 ≤ c.toNat := UInt32.le_iff_toNat_le.mp upper.1
    have high : c.toNat ≤ 90 := UInt32.le_iff_toNat_le.mp upper.2
    have moved : c.toLower.toNat = c.toNat + 32 := by
      have added : c.toLower.toNat = (c.toNat + 32) % 2 ^ 32 :=
        (congrArg Char.toNat (dif_pos upper)).trans (UInt32.toNat_add ..)
      omega
    refine .inr ⟨c.toNat - 65, List.mem_range.mpr (by omega), ?_, ?_⟩
    · rw [Nat.sub_add_cancel low, Char.ofNat_toNat]
    · rw [← Char.ofNat_toNat c.toLower, moved]
      congr 1
      omega
  · exact .inl (dif_neg upper)

theorem plainSeparator (c : Char) : isSeparator (plainChar c) = isSeparator c := by
  unfold plainChar
  split
  · rename_i separator
    rw [separator]
    rfl
  · rcases loweredChar c with same | ⟨n, mem, capital, lowered⟩
    · rw [same]
    · obtain ⟨⟨upper, lower⟩, -⟩ := capitalTable n mem
      rw [lowered, capital, alnumUnmarked (alnumRange.mpr (.inl upper)),
        alnumUnmarked (alnumRange.mpr (.inl lower))]

theorem plainDigit {c : Char} (digit : isAsciiDigit c = true) : plainChar c = c := by
  have unmarked := alnumUnmarked (alnumRange.mpr (.inr digit))
  rcases loweredChar c with same | ⟨n, mem, capital, -⟩
  · simp [plainChar, unmarked, same]
  · have range := digitRange.mp digit
    have letter := (capitalTable n mem).1.1
    rw [← capital] at letter
    have other := letterRange.mp letter
    omega

theorem plainCases {c : Char} (letter : isAsciiLetter c = true) :
    isAsciiLetter (plainChar c) = true ∧ lowerChar (plainChar c) = lowerChar c ∧
      upperChar (plainChar c) = upperChar c ∧ titleChar (plainChar c) = titleChar c := by
  have unmarked := alnumUnmarked (alnumRange.mpr (.inl letter))
  simp only [plainChar, unmarked, Bool.false_eq_true, if_false]
  rcases loweredChar c with same | ⟨n, mem, capital, lowered⟩
  · rw [same]
    exact ⟨letter, rfl, rfl, rfl⟩
  · obtain ⟨letters, images⟩ := capitalTable n mem
    rw [lowered, capital]
    exact ⟨letters.2, images⟩

theorem plainLower {before other part : List Char} (letters : part.all isAsciiLetter = true) :
    lowerAfter other (part.map plainChar) = lowerAfter before part := by
  induction part generalizing before other with
  | nil => rfl
  | cons c rest ih =>
    simp only [List.all_cons, Bool.and_eq_true] at letters
    obtain ⟨letter, lower, -⟩ := plainCases letters.1
    simp only [List.map_cons, lowerAfter, (asciiCases letter).1, (asciiCases letters.1).1, if_false,
      lower]
    rw [ih letters.2]

theorem plainUpper {part : List Char} (letters : part.all isAsciiLetter = true) :
    upperChars (part.map plainChar) = upperChars part := by
  rw [List.all_eq_true] at letters
  unfold upperChars
  rw [List.flatMap_map]
  exact List.flatMap_congr fun c mem => (plainCases (letters c mem)).2.2.1

theorem plainCapitalize {part : List Char} (letters : part.all isAsciiLetter = true) :
    capitalizeChars (part.map plainChar) = capitalizeChars part := by
  cases part with
  | nil => rfl
  | cons c rest =>
    simp only [List.all_cons, Bool.and_eq_true] at letters
    simp only [List.map_cons, capitalizeChars, (plainCases letters.1).2.2.2]
    rw [plainLower letters.2]

theorem plainLetters {part : List Char} (letters : part.all isAsciiLetter = true) :
    (part.map plainChar).all isLetter = true := by
  refine asciiAllLetters ?_
  rw [List.all_map]
  rw [List.all_eq_true] at letters ⊢
  exact fun c mem => (plainCases (letters c mem)).1

theorem plainSubtag {part : List Char} (shape : isSubtag part = true) (short : part.length < 5) :
    normalizeSubtag (part.map plainChar) = normalizeSubtag part := by
  have size : (part.map plainChar).length = part.length := List.length_map plainChar
  simp only [isSubtag, Bool.or_eq_true, Bool.and_eq_true, decide_eq_true_eq] at shape
  rcases shape with ((⟨two, letters⟩ | ⟨-, digits⟩) | ⟨four, letters⟩) | ⟨⟨five, -⟩, -⟩
  · simpa [normalizeSubtag, size, two, plainLetters letters, asciiAllLetters letters] using
      plainUpper letters
  · rw [List.all_eq_true] at digits
    rw [List.map_congr_left fun c mem => plainDigit (digits c mem), List.map_id']
  · simpa [normalizeSubtag, size, four, plainLetters letters, asciiAllLetters letters] using
      plainCapitalize letters
  · omega

/-- Parts that are alike but for case are normalized alike if the long ones among them are the same. -/
theorem subtagsAlike {parts others : List (List Char)} (shaped : ∀ part ∈ parts, isSubtag part = true)
    (shapedOthers : ∀ part ∈ others, isSubtag part = true)
    (alike : parts.map (List.map plainChar) = others.map (List.map plainChar)) :
    parts.map normalizeSubtag = others.map normalizeSubtag ↔
      parts.filter (fun part => 5 ≤ part.length) = others.filter fun part => 5 ≤ part.length := by
  induction parts generalizing others with
  | nil =>
    obtain rfl := List.map_eq_nil_iff.mp alike.symm
    simp
  | cons part rest ih =>
    obtain ⟨other, later, rfl, same, alike⟩ := List.map_eq_cons_iff.mp alike.symm
    obtain ⟨shape, shaped⟩ := List.forall_mem_cons.mp shaped
    obtain ⟨otherShape, shapedOthers⟩ := List.forall_mem_cons.mp shapedOthers
    have size : other.length = part.length := by simpa using congrArg List.length same
    have rests := ih shaped shapedOthers alike.symm
    by_cases long : 5 ≤ part.length
    · have longOther : 5 ≤ other.length := by omega
      simp only [List.map_cons, List.filter_cons, long, longOther, decide_true, if_true,
        List.cons.injEq, rests, otherSubtag (show part.length ≠ 2 by omega) (by omega),
        otherSubtag (show other.length ≠ 2 by omega) (by omega)]
    · have first : normalizeSubtag part = normalizeSubtag other := by
        rw [← plainSubtag shape (by omega), ← same, plainSubtag otherShape (by omega)]
      have shortOther : ¬ 5 ≤ other.length := by omega
      simp only [List.map_cons, List.filter_cons, long, shortOther, decide_false, Bool.false_eq_true,
        if_false, List.cons.injEq, first, true_and, rests]

theorem variantsAfter {tag : String} {language : List Char} {rest : List (List Char)}
    (cut : subtags tag.toList = language :: rest) (shape : isLanguage language = true) :
    variantsOf tag = rest.filter fun part => 5 ≤ part.length := by
  have short : ¬ 5 ≤ language.length := by
    simp only [isLanguage, Bool.and_eq_true, Bool.or_eq_true, decide_eq_true_eq] at shape
    omega
  simp only [variantsOf, cut, List.filter_cons, short, decide_false, Bool.false_eq_true, if_false]

section

variable {a b : String}

theorem normalizedAlike (first : isTag a = true) (second : isTag b = true)
    (equivalent : Equivalent a b) :
    normalize (some a) = normalize (some b) ↔ variantsOf a = variantsOf b := by
  obtain ⟨language, rest, cut, shape, shaped⟩ := shapedPieces first
  obtain ⟨other, later, cutOther, otherShape, shapedOther⟩ := shapedPieces second
  have alike := congrArg (piecesAt isSeparator) equivalent
  rw [piecesMap plainSeparator, piecesMap plainSeparator, cut, cutOther] at alike
  obtain ⟨same, alike⟩ := List.cons.inj alike
  rw [← tagSubtags first] at cut
  rw [← tagSubtags second] at cutOther
  rw [List.all_eq_true] at shaped shapedOther
  have languages : lowerChars language = lowerChars other := by
    simp only [isLanguage, Bool.and_eq_true] at shape otherShape
    calc lowerChars language = lowerChars (language.map plainChar) := (plainLower shape.2).symm
      _ = lowerChars other := by rw [same]; exact plainLower otherShape.2
  simp only [normalize, Option.getD_some, String.ofList_inj]
  unfold normalizeChars
  rw [joinedSame (normalizedCut (subtagsCut _)) (normalizedCut (subtagsCut _)),
    variantsAfter cut shape, variantsAfter cutOther otherShape, ← subtagsAlike shaped shapedOther alike,
    cut, cutOther]
  simp only [normalizeParts, languages, List.cons.injEq, true_and]

theorem tagRequested (shape : isTag a = true) (r : Resolver) : r.tagOf (some a) = normalize (some a) := by
  have filled : (normalize (some a)).isEmpty = false := by
    by_contra bare
    rw [Bool.not_eq_false, String.isEmpty_iff] at bare
    have settled := (tagSettles shape).1
    rw [bare] at settled
    exact absurd settled (by decide)
  simp only [tagOf, filled, Bool.false_eq_true, if_false]

/-- Resolving one tag leaves what is kept for another. -/
theorem resolvedElsewhere {source : Source} {r : Resolver} {locale : Option String} {tag : String}
    (other : r.tagOf locale ≠ tag) :
    (r.resolve source locale).state.resolved.get? tag = r.resolved.get? tag := by
  have kept := @populateResolved source r (r.tagOf locale)
  unfold resolve
  dsimp only
  split
  · rfl
  · split
    · simp only [OrderedMap.insertGet, kept, other, if_false]
    · rw [kept]

/-- Tags that differ in case and separators are one locale exactly if they spell their variants alike. Then
they have one resolution and one catalog; if not, resolving one leaves the other as it was. -/
theorem equivalentShared (first : isTag a = true) (second : isTag b = true)
    (equivalent : Equivalent a b) :
    (normalize (some a) = normalize (some b) ↔ variantsOf a = variantsOf b) ∧
    (variantsOf a = variantsOf b →
      (∀ (source : Source) (r : Resolver), r.resolve source (some a) = r.resolve source (some b)) ∧
      ∀ (shelf : Shelf) (bundle : String), shelf.source.find bundle a = shelf.source.find bundle b) ∧
    (variantsOf a ≠ variantsOf b → ∀ (source : Source) (r : Resolver),
      r.tagOf (some a) ≠ r.tagOf (some b) ∧
      (r.resolve source (some a)).state.resolved.get? (r.tagOf (some b)) =
        r.resolved.get? (r.tagOf (some b))) := by
  have spelled := normalizedAlike first second equivalent
  refine ⟨spelled, fun same => ?_, fun apart source r => ?_⟩
  · have one := spelled.mpr same
    refine ⟨fun source r => ?_, fun shelf bundle => ?_⟩
    · simp only [resolve, tagOf, one]
    · cases shelf with
      | memory bundles => simp only [Shelf.source, Bundles.source, one]
      | directory path tree =>
        simp only [Shelf.source, Catalog.Directory.source, Catalog.Directory.find,
          Catalog.Directory.pathFor, one]
  · have tags : r.tagOf (some a) ≠ r.tagOf (some b) := by
      rw [tagRequested first, tagRequested second]
      exact mt spelled.mp apart
    exact ⟨tags, resolvedElsewhere tags⟩

end

theorem valenciaShared :
    isTag "CA-es-valencia" = true ∧ isTag "ca_ES_valencia" = true ∧
    Equivalent "CA-es-valencia" "ca_ES_valencia" ∧
    variantsOf "CA-es-valencia" = variantsOf "ca_ES_valencia" ∧
    normalize (some "CA-es-valencia") = normalize (some "ca_ES_valencia") ∧
    (∀ (source : Source) (r : Resolver),
      r.resolve source (some "CA-es-valencia") = r.resolve source (some "ca_ES_valencia")) ∧
    variantsOf "ca-1996abcd" ≠ variantsOf "CA_1996ABCD" ∧
    ∀ r : Resolver, r.tagOf (some "ca-1996abcd") ≠ r.tagOf (some "CA_1996ABCD") := by
  have first : isTag "CA-es-valencia" = true := by decide
  have second : isTag "ca_ES_valencia" = true := by decide
  have equivalent : Equivalent "CA-es-valencia" "ca_ES_valencia" := by decide
  have same : variantsOf "CA-es-valencia" = variantsOf "ca_ES_valencia" := by decide
  have apart : variantsOf "ca-1996abcd" ≠ variantsOf "CA_1996ABCD" := by decide
  obtain ⟨spelled, shared, -⟩ := equivalentShared first second equivalent
  obtain ⟨-, -, kept⟩ := @equivalentShared "ca-1996abcd" "CA_1996ABCD" (by decide) (by decide) (by decide)
  exact ⟨first, second, equivalent, same, spelled.mpr same, (shared same).1, apart,
    fun r => (kept apart (Bundles.source .empty) r).1⟩

/-- A variant keeps the case it was asked for in. -/
theorem valenciaApart :
    isTag "ca_ES_valencia" = true ∧ isTag "ca-es-VALENCIA" = true ∧
    Equivalent "ca_ES_valencia" "ca-es-VALENCIA" ∧
    normalize (some "ca_ES_valencia") ≠ normalize (some "ca-es-VALENCIA") := by
  decide +kernel

end Phrasebook.Locale

import Phrasebook.Proofs.CatalogFiles
import Phrasebook.Proofs.CatalogSets

/-! Discovery and look-up of catalog files. Discovery reads a locale off a file name, look-up makes a
file name from a locale; they meet on every spelling that is the normalized one. -/
namespace Phrasebook.Catalog.Directory

open Text FileTree Report

section

variable {tree : FileTree} {path : Path} {place : List String} {bundle : String}

def usualEndings : List String := ["properties", "json", "yaml", "yml"]

theorem endingsPlain : ∀ ending ∈ usualEndings, '.' ∉ ending.toList ∧ ending ≠ "" ∧
    lower ("." ++ ending) = "." ++ ending := by
  decide +kernel

theorem dottedEndings : usualExtensions = usualEndings.map ("." ++ ·) := by
  decide

theorem stemVariant {locale : String} (filled : locale ≠ "") :
    stemOf bundle locale = bundle ++ "_" ++ locale := by
  simp [stemOf, filled]

theorem tagRead (valid : Target.isBundleName bundle = true) {locale name : String}
    (shape : Locale.isTag locale = true) (mem : name ∈ fileNamesOf bundle locale) :
    (usual path).tagIn? bundle name = some locale := by
  have plain := plainFile valid (.inr shape) name mem
  obtain ⟨extension, listed, rfl⟩ := List.mem_map.mp mem
  rw [dottedEndings] at listed
  obtain ⟨ending, inside, rfl⟩ := List.mem_map.mp listed
  obtain ⟨noDot, filled, low⟩ := endingsPlain ending inside
  have tagFilled : locale ≠ "" := by
    rintro rfl
    exact absurd shape (by decide)
  have stem := @stemVariant bundle locale tagFilled
  have read : (Path.ofString (stemOf bundle locale ++ ("." ++ ending))).nameParts =
      (stemOf bundle locale, "." ++ ending) := by
    rw [Path.plainRead plain, ← String.append_assoc]
    exact Path.namedParts noDot ⟨stemFilled valid, filled⟩ ⟨.relative, []⟩
  have counts : (usual path).extensions.contains (lower ("." ++ ending)) = true := by
    show usualExtensions.contains (lower ("." ++ ending)) = true
    rw [low, dottedEndings]
    exact List.contains_iff_mem.mpr listed
  have chars : (stemOf bundle locale).toList = (bundle ++ "_").toList ++ locale.toList := by
    rw [stem, String.toList_append]
  have opens : (bundle ++ "_").toList.isPrefixOf ((bundle ++ "_").toList ++ locale.toList) = true :=
    List.isPrefixOf_iff_prefix.mpr (List.prefix_append _ _)
  simp only [tagIn?, Path.stem, Path.suffix, read, counts, opens, Bool.and_self, if_true, chars,
    List.drop_left, String.ofList_toList]

theorem listedLocale {locales : List String} {locale : String}
    (ok : ((usual path).locales tree bundle).outcome = .ok locales) :
    locale ∈ locales ↔ ∃ place name tag, tree.Opens path place ∧ name ∈ tree.fileNames place ∧
      (usual path).tagIn? bundle name = some tag ∧ Locale.isTag tag = true ∧
      locale = Locale.normalize (some tag) := by
  simp only [Directory.locales, bindOutcomeOk, ofFilesOk] at ok
  obtain ⟨isDirectory, test, rest⟩ := ok
  cases isDirectory with
  | false =>
    obtain rfl : locales = [] := by simpa [eq_comm] using rest
    simp only [List.not_mem_nil, false_iff]
    rintro ⟨place, -, -, opens, -⟩
    simp [usual, opensDirectory opens] at test
  | true =>
    obtain ⟨place, opens⟩ := directoryOpens test
    have only : ∀ other, tree.Opens path other → other = place := fun other others =>
      Except.ok.inj (others.found.symm.trans opens.found)
    simp only [Bool.not_true, Bool.false_eq_true, if_false, bindOutcomeOk, ofFilesOk] at rest
    obtain ⟨there, located, last⟩ := rest
    obtain rfl : there = place := Except.ok.inj (located.symm.trans opens.found)
    obtain rfl := Except.ok.inj last
    simp only [List.mem_mergeSort, List.mem_eraseDups, List.mem_map, List.mem_filter,
      List.mem_filterMap, Option.map_eq_some_iff]
    constructor
    · rintro ⟨⟨name, tag⟩, ⟨⟨found, listed, told, read, same⟩, shape⟩, rfl⟩
      cases same
      exact ⟨there, name, tag, opens, listed, read, shape, rfl⟩
    · rintro ⟨other, name, tag, others, listed, read, shape, rfl⟩
      obtain rfl := only other others
      exact ⟨(name, tag), ⟨⟨name, listed, tag, read, rfl⟩, shape⟩, rfl⟩

theorem foundAt {locale : String} {file : Path} {answer : Option Catalog}
    (ok : ((usual path).find tree bundle locale).outcome = .ok answer)
    (asked : (usual path).pathFor tree bundle (Locale.normalize (some locale)) = .ok (some file)) :
    ∃ catalog, answer = some catalog ∧ catalog.source = some file ∧
      messagesOfFile tree file (some bundle) = .ok catalog.messages := by
  rcases findOutcome.mp ok with ⟨missing, -⟩ | ⟨other, messages, found, read, -, rfl⟩
  · exact absurd (Except.ok.inj (missing.symm.trans asked)) (by simp)
  · obtain rfl : other = file := by simpa using found.symm.trans asked
    exact ⟨_, rfl, rfl, read⟩

end

/-- Whatever is requested: the catalog it is served from lies directly in the directory, and a set that
is loaded for the bundle holds the same messages from the same file. -/
theorem servedFromSet (tree : FileTree) (path : Path) (bundle requested : String) (catalog : Catalog)
    (valid : Target.isBundleName bundle = true)
    (served : ((usual path).find tree bundle requested).outcome = .ok (some catalog)) :
    (∃ place name content, tree.locate path = .ok place ∧ '/' ∉ name.toList ∧
      tree.entryAt? (place ++ [name]) = some (.file content) ∧
      catalog.source = some ⟨path.root, path.segments ++ [name]⟩ ∧
      messagesOfFile tree ⟨path.root, path.segments ++ [name]⟩ (some bundle) =
        .ok catalog.messages) ∧
    ∀ set, (((usual path).source tree).loadSet bundle).outcome = .ok set →
      ∃ loaded ∈ set.default :: set.variants,
        loaded.source = catalog.source ∧ loaded.messages = catalog.messages := by
  rcases findOutcome.mp served with ⟨-, missing⟩ | ⟨file, messages, found, read, -, same⟩
  · simp at missing
  obtain rfl := Option.some.inj same
  obtain ⟨askable, place, name, opens, named, listed, rfl⟩ := foundPath valid found
  have plain := plainFile valid askable name named
  obtain ⟨content, stands⟩ := fileListed.mp listed
  refine ⟨⟨place, name, content, opens.found, plain.noSlash, stands, rfl, read⟩, ?_⟩
  intro set ok
  obtain ⟨default, -, locales, answers, discovered, answered, variants⟩ :=
    Source.loadSetOutcome.mp ok
  -- A locale whose spelling settles where that of the request does leads to the same file.
  have inSet : ∀ locale, Locale.normalize (some (Locale.normalize (some locale))) =
      Locale.normalize (some (Locale.normalize (some requested))) → ∀ answer,
      ((usual path).find tree bundle locale).outcome = .ok answer → ∃ loaded, answer = some loaded ∧
        loaded.source = some (path.child name) ∧ loaded.messages = messages := by
    intro locale meets answer outcome
    obtain ⟨loaded, same, source, readAgain⟩ := foundAt outcome ((samePath meets).trans found)
    exact ⟨loaded, same, source, Except.ok.inj (readAgain.symm.trans read)⟩
  rcases askable with empty | shape
  · obtain ⟨loaded, same, source, equal⟩ := inSet "" (by rw [empty]; rfl) _ default
    cases same
    exact ⟨set.default, List.mem_cons_self, source, equal⟩
  · -- The set asks for the tag it reads off the file, which is normalized once more than the request.
    have settled := Locale.normalizeThrice (some requested)
    have known := (listedLocale discovered).mpr
      ⟨place, name, _, opens, listed, tagRead valid shape named, shape, settled.symm⟩
    obtain ⟨answer, outcome, member⟩ := Source.answerLoaded answered known
    obtain ⟨loaded, rfl, source, equal⟩ := inSet _ (by rw [settled, settled]) answer outcome
    refine ⟨loaded, List.mem_cons_of_mem _ ?_, source, equal⟩
    rw [variants]
    exact member loaded rfl

def twoFiles (other : String) : FileTree where
  base := []
  entries := .ofList
    [(["i18n"], .directory),
      (["i18n", "messages.properties"], .file "greet=Hello \x7b0\x7d".toUTF8),
      (["i18n", other], .file "greet=Salut \x7b0\x7d".toUTF8)]

def greeting (locale word file : String) : Catalog where
  bundle := "messages"
  locale := locale
  messages := .ofList [("greet", word ++ " \x7b0\x7d")]
  source := some ⟨.relative, ["i18n", file]⟩

theorem frenchFound :
    ((usual ⟨.relative, ["i18n"]⟩).find (twoFiles "messages_fr.properties") "messages" "FR").outcome =
      .ok (some (greeting "fr" "Salut" "messages_fr.properties")) := by
  decide +kernel

theorem frenchServedFromSet :
    Target.isBundleName "messages" = true ∧
    ((usual ⟨.relative, ["i18n"]⟩).find (twoFiles "messages_fr.properties") "messages" "FR").outcome =
      .ok (some (greeting "fr" "Salut" "messages_fr.properties")) ∧
    ∃ loaded ∈ [greeting "" "Hello" "messages.properties",
        greeting "fr" "Salut" "messages_fr.properties"],
      loaded.source = some ⟨.relative, ["i18n", "messages_fr.properties"]⟩ ∧
        loaded.messages = .ofList [("greet", "Salut \x7b0\x7d")] :=
  ⟨by decide, frenchFound,
    (servedFromSet (twoFiles "messages_fr.properties") ⟨.relative, ["i18n"]⟩ "messages" "FR"
      (greeting "fr" "Salut" "messages_fr.properties") (by decide) frenchFound).2
      { bundle := "messages"
        default := greeting "" "Hello" "messages.properties"
        variants := [greeting "fr" "Salut" "messages_fr.properties"] } (by decide +kernel)⟩

def lists (tree : FileTree) (path : Path) (name : String) : Bool :=
  match tree.locate path with
  | .ok place => decide (name ∈ tree.fileNames place)
  | .error _ => false

section

variable {tree : FileTree} {path : Path} {place : List String} {bundle : String}

theorem openedLists (opens : tree.Opens path place) {name : String} :
    lists tree path name = true ↔ name ∈ tree.fileNames place := by
  simp [lists, opens.found]

theorem discoveredSettled {locales : List String} {locale : String}
    (ok : ((usual path).locales tree bundle).outcome = .ok locales) (mem : locale ∈ locales) :
    Locale.isTag locale = true ∧ Locale.normalize (some locale) = locale ∧
      ∃ place, tree.Opens path place := by
  obtain ⟨place, name, tag, opens, -, -, shape, rfl⟩ := (listedLocale ok).mp mem
  obtain ⟨shaped, settled⟩ := Locale.tagSettles shape
  exact ⟨shaped, settled, place, opens⟩

theorem settledPath (valid : Target.isBundleName bundle = true) (opens : tree.Opens path place)
    {locale : String} (shape : Locale.isTag locale = true)
    (settled : Locale.normalize (some locale) = locale) :
    (usual path).pathFor tree bundle (Locale.normalize (some locale)) =
      if Fits path (longestOf bundle locale) then
        .ok (((fileNamesOf bundle locale).find? fun name => lists tree path name).map path.child)
      else .error .nameTooLong := by
  have asked := @askedPath tree path place bundle locale valid opens (by rw [settled]; exact .inr shape)
  rw [settled] at asked ⊢
  rw [asked]
  simp only [lists, opens.found]

theorem droppedVariant (valid : Target.isBundleName bundle = true) {locales : List String}
    (ok : ((usual path).locales tree bundle).outcome = .ok locales) {locale : String}
    (mem : locale ∈ locales) (fits : Fits path (longestOf bundle locale)) :
    ((usual path).find tree bundle locale).outcome = .ok none ↔
      (fileNamesOf bundle locale).any (lists tree path) = false := by
  obtain ⟨shape, settled, place, opens⟩ := discoveredSettled ok mem
  have asked := settledPath valid opens shape settled
  rw [if_pos fits] at asked
  rw [findOutcome, asked]
  simp only [reduceCtorEq, and_false, exists_const, exists_false, or_false, and_true,
    Except.ok.injEq, Option.map_eq_none_iff, List.find?_eq_none, List.any_eq_false]

theorem longVariant (valid : Target.isBundleName bundle = true) {locales : List String}
    (ok : ((usual path).locales tree bundle).outcome = .ok locales) {locale : String}
    (mem : locale ∈ locales) (long : ¬ Fits path (longestOf bundle locale)) :
    ((usual path).find tree bundle locale).outcome = .error (.breach (.file .nameTooLong)) := by
  obtain ⟨shape, settled, place, opens⟩ := discoveredSettled ok mem
  have asked := settledPath valid opens shape settled
  rw [if_neg long] at asked
  have files := ofFilesError.mpr ⟨_, asked, rfl⟩
  exact bindOutcomeError.mpr (.inl files)

theorem answeredVariant (valid : Target.isBundleName bundle = true) {locales : List String}
    (ok : ((usual path).locales tree bundle).outcome = .ok locales) {locale : String}
    (mem : locale ∈ locales) {answer : Option Catalog}
    (answered : ((usual path).find tree bundle locale).outcome = .ok answer) :
    answer.toList.map Catalog.locale =
      [locale].filter fun locale => (fileNamesOf bundle locale).any (lists tree path) := by
  obtain ⟨-, settled, -⟩ := discoveredSettled ok mem
  have fits : Fits path (longestOf bundle locale) := by
    by_contra long
    simp [longVariant valid ok mem long] at answered
  have dropped := droppedVariant valid ok mem fits
  rw [answered] at dropped
  cases answer with
  | none =>
    have unlisted := dropped.mp rfl
    simp only [Option.toList, List.map_nil, List.filter_cons, unlisted, Bool.false_eq_true, if_false,
      List.filter_nil]
  | some catalog =>
    have listed : (fileNamesOf bundle locale).any (lists tree path) = true := by
      simpa using dropped
    rcases findOutcome.mp answered with ⟨-, missing⟩ | ⟨file, messages, -, -, -, same⟩
    · simp at missing
    · cases same
      simp only [Option.toList, List.map_cons, List.map_nil, List.filter_cons, listed, if_true,
        settled, List.filter_nil]

theorem loadedLocales (valid : Target.isBundleName bundle = true) {discovered locales : List String}
    (ok : ((usual path).locales tree bundle).outcome = .ok discovered)
    (within : ∀ locale ∈ locales, locale ∈ discovered) {found : List (Option Catalog)}
    (answers : Source.Answers ((usual path).source tree) bundle locales found) :
    (found.flatMap Option.toList).map Catalog.locale =
      locales.filter fun locale => (fileNamesOf bundle locale).any (lists tree path) := by
  induction answers with
  | nil => rfl
  | @cons locale answer rest found head later ih =>
    obtain ⟨mem, others⟩ := List.forall_mem_cons.mp within
    have first := answeredVariant valid ok mem head
    rw [List.flatMap_cons, List.map_append, first, ih others, ← List.filter_append]
    rfl

end

/-- What becomes of the variants that a directory is said to have. A variant is dropped without a word
when no file bears its locale in the normalized spelling, and only then. -/
theorem discoveredVariants (tree : FileTree) (path : Path) (bundle : String) (locales : List String)
    (valid : Target.isBundleName bundle = true)
    (discovered : (((usual path).source tree).locales bundle).outcome = .ok locales) :
    (∀ locale ∈ locales,
      (¬ Fits path (longestOf bundle locale) →
        (((usual path).source tree).find bundle locale).outcome =
          .error (.breach (.file .nameTooLong))) ∧
      (Fits path (longestOf bundle locale) →
        ((((usual path).source tree).find bundle locale).outcome = .ok none ↔
          ∀ name ∈ fileNamesOf bundle locale, lists tree path name = false)) ∧
      ∀ issue, (((usual path).source tree).find bundle locale).outcome = .error (.issue issue) →
        IsFormatIssue bundle issue) ∧
    ∀ set, (((usual path).source tree).loadSet bundle).outcome = .ok set →
      set.locales =
        locales.filter fun locale => (fileNamesOf bundle locale).any (lists tree path) := by
  refine ⟨fun locale mem => ⟨longVariant valid discovered mem, fun fits => ?_, fun issue => findIssue⟩,
    fun set ok => ?_⟩
  · have dropped := droppedVariant valid discovered mem fits
    simp only [List.any_eq_false, Bool.not_eq_true] at dropped
    exact dropped
  · obtain ⟨-, -, others, found, again, answers, variants⟩ := Source.loadSetOutcome.mp ok
    obtain rfl : others = locales := Except.ok.inj (again.symm.trans discovered)
    rw [CatalogSet.locales, variants]
    exact loadedLocales valid discovered (fun _ mem => mem) answers

theorem capitalListed :
    (((usual ⟨.relative, ["i18n"]⟩).source (twoFiles "messages_FR.properties")).locales
      "messages").outcome = .ok ["fr"] := by
  decide +kernel

theorem capitalVariantsDiscovered :
    Target.isBundleName "messages" = true ∧
    (((usual ⟨.relative, ["i18n"]⟩).source (twoFiles "messages_FR.properties")).locales
      "messages").outcome = .ok ["fr"] ∧
    ((((usual ⟨.relative, ["i18n"]⟩).source (twoFiles "messages_FR.properties")).find
      "messages" "fr").outcome = .ok none ↔
        ∀ name ∈ fileNamesOf "messages" "fr",
          lists (twoFiles "messages_FR.properties") ⟨.relative, ["i18n"]⟩ name = false) :=
  ⟨by decide, capitalListed,
    (((discoveredVariants (twoFiles "messages_FR.properties") ⟨.relative, ["i18n"]⟩ "messages" ["fr"]
      (by decide) capitalListed).1 "fr" (by decide)).2.1 (by decide +kernel))⟩

theorem capitalVariantDropped :
    (((usual ⟨.relative, ["i18n"]⟩).source (twoFiles "messages_FR.properties")).locales
      "messages").outcome = .ok ["fr"] ∧
    (((usual ⟨.relative, ["i18n"]⟩).source (twoFiles "messages_FR.properties")).find
      "messages" "fr").outcome = .ok none ∧
    (((usual ⟨.relative, ["i18n"]⟩).source (twoFiles "messages_FR.properties")).loadSet
      "messages").outcome =
        .ok { bundle := "messages", default := greeting "" "Hello" "messages.properties",
              variants := [] } := by
  refine ⟨capitalListed, ?_, ?_⟩ <;> decide +kernel

end Phrasebook.Catalog.Directory

import Phrasebook.Catalog.Directory
import Phrasebook.Proofs.FileNames
import Phrasebook.Proofs.LocaleTags
import Phrasebook.Proofs.Outcome
import Phrasebook.Target

/-! The file of a catalog. A directory is asked for four names in turn; each is a plain name, and the
first one that is listed there counts, unless the longest of them does not fit. -/
namespace Phrasebook.Catalog.Directory

open Text FileTree Report

def usual (path : Path) : Directory := { path := path }

def usualExtensions : List String := [".properties", ".json", ".yaml", ".yml"]

/-- Locales that a directory has files for: the default one, and those with the shape of a tag. -/
def IsAskable (locale : String) : Prop := locale = "" ∨ Locale.isTag locale = true

def isFileChar (c : Char) : Bool := isAsciiAlnum c || c = '_' || c = '.' || c = '-'

def fileNamesOf (bundle locale : String) : List String :=
  usualExtensions.map fun extension => stemOf bundle locale ++ extension

def longestOf (bundle locale : String) : String := stemOf bundle locale ++ ".properties"

section

variable {tree : FileTree} {path : Path} {place : List String} {bundle locale : String}

theorem bundleChars (valid : Target.isBundleName bundle = true) :
    bundle ≠ "" ∧ ∀ c ∈ bundle.toList, isFileChar c = true := by
  simp only [Target.isBundleName, Bool.and_eq_true, List.all_eq_true] at valid
  exact ⟨by simpa using valid.1, valid.2⟩

theorem localeChars (shape : Locale.isTag locale = true) :
    ∀ c ∈ locale.toList, isFileChar c = true := by
  intro c mem
  rcases Locale.tagChars shape c mem with mark | alnum
  · rcases List.mem_pair.mp (Locale.separatorMark.mp mark) with rfl | rfl <;> rfl
  · simp [isFileChar, alnum]

theorem stemFilled (valid : Target.isBundleName bundle = true) : stemOf bundle locale ≠ "" := by
  have named := (bundleChars valid).1
  unfold stemOf
  split
  · exact named
  · simp [named]

theorem stemChars (valid : Target.isBundleName bundle = true) (askable : IsAskable locale) :
    ∀ c ∈ (stemOf bundle locale).toList, isFileChar c = true := by
  obtain ⟨-, chars⟩ := bundleChars valid
  unfold stemOf
  split
  · exact chars
  · rename_i filled
    intro c mem
    simp only [String.toList_append, List.mem_append] at mem
    rcases mem with (inside | mark) | inside
    · exact chars c inside
    · obtain rfl : c = '_' := by simpa using mark
      rfl
    · rcases askable with rfl | shape
      · simp at inside
      · exact localeChars shape c inside

theorem extensionChars : ∀ extension ∈ usualExtensions,
    extension.toList.all isFileChar = true ∧ 4 ≤ extension.toList.length ∧
      extension.utf8ByteSize ≤ ".properties".utf8ByteSize := by
  decide

theorem plainFile (valid : Target.isBundleName bundle = true) (askable : IsAskable locale) :
    ∀ name ∈ fileNamesOf bundle locale, Path.IsPlainName name := by
  intro name mem
  obtain ⟨extension, usual, rfl⟩ := List.mem_map.mp mem
  obtain ⟨chars, size, -⟩ := extensionChars extension usual
  have all : ∀ c ∈ (stemOf bundle locale ++ extension).toList, isFileChar c = true := by
    intro c mem
    rw [String.toList_append, List.mem_append] at mem
    exact mem.elim (stemChars valid askable c) (List.all_eq_true.mp chars c)
  have long : 4 ≤ (stemOf bundle locale ++ extension).toList.length := by
    rw [String.toList_append, List.length_append]
    omega
  refine ⟨fun slash => ?_, fun null => ?_, ?_, ?_, ?_⟩
  · exact absurd (all _ slash) (by decide)
  · exact absurd (all _ null) (by decide)
  all_goals
    intro same
    rw [same] at long
    exact absurd long (by decide)

theorem candidateNames (valid : Target.isBundleName bundle = true) (askable : IsAskable locale) :
    (usual path).candidates bundle locale = (fileNamesOf bundle locale).map path.child := by
  simp only [candidates, fileNamesOf, List.map_map]
  refine List.map_congr_left fun extension mem => ?_
  exact Path.joinedChild (plainFile valid askable _ (List.mem_map.mpr ⟨extension, mem, rfl⟩)) path

theorem allFit (fits : Fits path (longestOf bundle locale)) :
    ∀ name ∈ fileNamesOf bundle locale, Fits path name := by
  intro name mem
  obtain ⟨extension, usual, rfl⟩ := List.mem_map.mp mem
  refine shorterFits fits ?_
  have shorter := (extensionChars extension usual).2.2
  simp only [longestOf, String.utf8ByteSize_append]
  omega

theorem unaskedPath (other : ¬ IsAskable (Locale.normalize (some locale))) :
    (usual path).pathFor tree bundle locale = .ok none := by
  simp only [IsAskable, not_or, Bool.not_eq_true] at other
  simp [pathFor, other]

theorem askedNames (valid : Target.isBundleName bundle = true)
    (askable : IsAskable (Locale.normalize (some locale))) :
    (usual path).pathFor tree bundle locale =
      tree.firstFile ((fileNamesOf bundle (Locale.normalize (some locale))).map path.child) := by
  have asks : (!(Locale.normalize (some locale)).isEmpty &&
      !Locale.isTag (Locale.normalize (some locale))) = false := by
    rcases askable with empty | shape
    · simp [empty]
    · simp [shape]
  simp only [pathFor, asks, Bool.false_eq_true, if_false, candidateNames valid askable]

theorem askedPath (valid : Target.isBundleName bundle = true) (opens : tree.Opens path place)
    (askable : IsAskable (Locale.normalize (some locale))) :
    (usual path).pathFor tree bundle locale =
      if Fits path (longestOf bundle (Locale.normalize (some locale))) then
        .ok (((fileNamesOf bundle (Locale.normalize (some locale))).find?
          fun name => decide (name ∈ tree.fileNames place)).map path.child)
      else .error .nameTooLong := by
  have plain := plainFile valid askable
  rw [askedNames valid askable]
  split
  · rename_i fits
    exact firstListed opens plain (allFit fits)
  · rename_i long
    -- The longest name is the first to be tested, and its fault ends the search.
    have test := childIsFile opens (plain (longestOf bundle _) List.mem_cons_self)
    rw [if_neg long] at test
    simp only [fileNamesOf, usualExtensions, List.map_cons, firstFile]
    unfold longestOf at test
    rw [test]
    rfl

theorem foundPath (valid : Target.isBundleName bundle = true) {file : Path}
    (found : (usual path).pathFor tree bundle locale = .ok (some file)) :
    IsAskable (Locale.normalize (some locale)) ∧ ∃ place name, tree.Opens path place ∧
      name ∈ fileNamesOf bundle (Locale.normalize (some locale)) ∧ name ∈ tree.fileNames place ∧
      file = path.child name := by
  by_cases askable : IsAskable (Locale.normalize (some locale))
  · rw [askedNames valid askable] at found
    obtain ⟨mem, isFile⟩ := firstFound found
    obtain ⟨name, named, rfl⟩ := List.mem_map.mp mem
    have plain := plainFile valid askable name named
    obtain ⟨place, opens⟩ := childOpens plain isFile
    rw [childIsFile opens plain] at isFile
    split at isFile
    · exact ⟨askable, place, name, opens, named, by simpa using isFile, rfl⟩
    · exact absurd isFile (by simp)
  · simp [unaskedPath askable] at found

theorem samePath {other : String}
    (same : Locale.normalize (some locale) = Locale.normalize (some other)) :
    (usual path).pathFor tree bundle locale = (usual path).pathFor tree bundle other := by
  simp only [pathFor, same]

theorem catalogMade {messages : OrderedMap String String} {source : Option Path} {catalog : Catalog} :
    Catalog.make bundle locale messages source = .ok catalog ↔
      "" ∉ messages.keys ∧
        catalog = { bundle := bundle, locale := locale, messages := messages, source := source } := by
  by_cases empty : "" ∈ messages.keys
  · simp [Catalog.make, empty]
  · simp [Catalog.make, empty, eq_comm]

theorem findOutcome {answer : Option Catalog} :
    ((usual path).find tree bundle locale).outcome = .ok answer ↔
      ((usual path).pathFor tree bundle (Locale.normalize (some locale)) = .ok none ∧ answer = none) ∨
      ∃ file messages,
        (usual path).pathFor tree bundle (Locale.normalize (some locale)) = .ok (some file) ∧
        messagesOfFile tree file (some bundle) = .ok messages ∧
        "" ∉ messages.keys ∧
        answer = some { bundle := bundle, locale := Locale.normalize (some locale),
                        messages := messages, source := some file } := by
  simp only [find, bindOutcomeOk, ofFilesOk]
  constructor
  · rintro ⟨asked, path, last⟩
    cases asked with
    | none => exact .inl ⟨path, by simpa [eq_comm] using last⟩
    | some file =>
      simp only [bindOutcomeOk, ofExceptOutcome] at last
      obtain ⟨messages, read, -, -, catalog, made, last⟩ := last
      obtain ⟨filled, rfl⟩ := catalogMade.mp made
      exact .inr ⟨file, messages, path, read, filled, (Except.ok.inj last).symm⟩
  · rintro (⟨path, rfl⟩ | ⟨file, messages, path, read, filled, rfl⟩)
    · exact ⟨none, path, rfl⟩
    · refine ⟨some file, path, ?_⟩
      simp only [bindOutcomeOk, ofExceptOutcome]
      exact ⟨messages, read, (), rfl, _, catalogMade.mpr ⟨filled, rfl⟩, rfl⟩

/-- The issues of a file in reading and of a catalog in the making are issues of format. -/
def IsFormatIssue (bundle : String) (issue : Issue) : Prop :=
  ∃ file reason, issue = .catalogFormat file reason (some bundle)

theorem flatIssue {outcome : Except Breach (OrderedMap String String)} {issue : Issue} :
    outcome.mapError Failure.breach ≠ .error (.issue issue) := by
  intro same
  cases outcome with
  | ok messages => cases same
  | error breach => exact absurd (Except.error.inj same) (by simp)

theorem documentIssue {file : Path} {fault : Document.Fault} {issue : Issue}
    (same : documentFailure file (some bundle) fault = .issue issue) : IsFormatIssue bundle issue := by
  cases fault <;> simp only [documentFailure, formatIssue, Failure.issue.injEq, reduceCtorEq] at same
  all_goals exact ⟨_, _, same.symm⟩

theorem structuredIssue {file : Path} {suffix text : String} {issue : Issue}
    (refused : readStructured file (some bundle) suffix text = .error (.issue issue)) :
    IsFormatIssue bundle issue := by
  have mapped : ∀ {read : Except Document.Fault Value},
      read.mapError (documentFailure file (some bundle)) = .error (.issue issue) →
      IsFormatIssue bundle issue := by
    intro read same
    cases read with
    | ok v => cases same
    | error fault => exact documentIssue (Except.error.inj same)
  unfold readStructured at refused
  split at refused
  · split at refused
    · simp at refused
    · exact mapped refused
  · split at refused
    · exact mapped refused
    · exact ⟨_, _, (Failure.issue.inj (Except.error.inj refused)).symm⟩

theorem readIssue {file : Path} {issue : Issue}
    (refused : messagesOfFile tree file (some bundle) = .error (.issue issue)) :
    IsFormatIssue bundle issue := by
  unfold messagesOfFile at refused
  split at refused
  · rename_i fault _
    unfold readFailure at refused
    split at refused
    · simp at refused
    · exact ⟨_, _, (Failure.issue.inj (Except.error.inj refused)).symm⟩
    · exact ⟨_, _, (Failure.issue.inj (Except.error.inj refused)).symm⟩
  · unfold Catalog.readText at refused
    split at refused
    · simp at refused
    · split at refused
      · rename_i failure failed
        rw [Except.error.inj refused] at failed
        exact structuredIssue failed
      · exact absurd refused flatIssue
      · exact ⟨_, _, (Failure.issue.inj (Except.error.inj refused)).symm⟩

theorem findIssue {issue : Issue}
    (refused : ((usual path).find tree bundle locale).outcome = .error (.issue issue)) :
    IsFormatIssue bundle issue := by
  simp only [find, bindOutcomeError, ofFilesError] at refused
  rcases refused with ⟨fault, -, same⟩ | ⟨asked, -, rest⟩
  · simp at same
  cases asked with
  | none => simp at rest
  | some file =>
    simp only [bindOutcomeError, ofExceptOutcome] at rest
    rcases rest with read | ⟨messages, -, same | ⟨-, -, made | ⟨catalog, -, same⟩⟩⟩
    · exact readIssue read
    · simp at same
    · unfold Catalog.make at made
      split at made
      · exact ⟨_, _, (Failure.issue.inj (Except.error.inj made)).symm⟩
      · simp at made
    · simp at same

end

end Phrasebook.Catalog.Directory

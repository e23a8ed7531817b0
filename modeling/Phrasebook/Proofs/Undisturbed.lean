import Mathlib.Data.List.Find
import Phrasebook.Proofs.Discovery
import Phrasebook.Proofs.Drafts

/-! Catalogs after a module is written. A module is no catalog file and makes none, so that the catalogs of
a bundle, and with them its accessor, read the same as before. -/
namespace Phrasebook.Catalog.Directory

open FileTree Report Text

section

variable {tree left : FileTree} {output path : Path} {place there : List String}
  {content : ByteArray} {bundle locale : String}

theorem fileSuffix (valid : Target.isBundleName bundle = true) {name : String}
    (mem : name ∈ fileNamesOf bundle locale) (path : Path) :
    (path.child name).suffix ∈ usualExtensions := by
  obtain ⟨extension, listed, rfl⟩ := List.mem_map.mp mem
  rw [dottedEndings] at listed
  obtain ⟨ending, inside, rfl⟩ := List.mem_map.mp listed
  obtain ⟨noDot, filled, -⟩ := endingsPlain ending inside
  rw [← String.append_assoc, Path.suffix, Path.namedParts noDot ⟨stemFilled valid, filled⟩ path,
    dottedEndings]
  exact List.mem_map.mpr ⟨ending, inside, rfl⟩

theorem moduleName (isModule : output.suffix = ".py") :
    ∃ front, output.segments = front ++ [output.name] ∧ output.name ≠ ".." := by
  -- Neither an empty path nor one that ends upwards has a suffix.
  rcases List.eq_nil_or_concat output.segments with none | ⟨front, last, segments⟩
  · have bare : output.suffix = "" := by simp [Path.suffix, Path.nameParts, Path.name, none, splitLast?]
    exact absurd (bare.symm.trans isModule) (by decide)
  · have named : output.name = last := by simp [Path.name, segments]
    refine ⟨front, by rw [segments, named, List.concat_eq_append], fun up => ?_⟩
    have bare : output.suffix = "" := by rw [Path.suffix, Path.nameParts, up]; rfl
    exact absurd (bare.symm.trans isModule) (by decide)

theorem outputLast (isModule : output.suffix = ".py") (found : tree.locate output = .ok place) :
    ∃ before, place = before ++ [output.name] := by
  obtain ⟨front, segments, down⟩ := moduleName isModule
  obtain ⟨-, -, walked⟩ := located.mp found
  rw [segments, walkAppend] at walked
  obtain ⟨before, -, last⟩ := exceptBindOk.mp walked
  exact ⟨before, walkDown down last⟩

theorem outputApart (isModule : output.suffix = ".py") (found : tree.locate output = .ok place)
    {name : String} (other : name ≠ output.name) (there : List String) : there ++ [name] ≠ place := by
  obtain ⟨before, rfl⟩ := outputLast isModule found
  exact fun same => other (List.cons.inj (List.append_inj_right' same rfl)).1

theorem catalogApart (isModule : output.suffix = ".py") (valid : Target.isBundleName bundle = true)
    {name : String} (mem : name ∈ fileNamesOf bundle locale) : name ≠ output.name := by
  rintro rfl
  have suffix := fileSuffix valid mem output
  have same : (output.child output.name).suffix = output.suffix := by
    simp [Path.suffix, Path.nameParts, Path.name, Path.child]
  rw [same, isModule] at suffix
  exact absurd suffix (by decide)

theorem moduleUntagged (isModule : output.suffix = ".py") :
    (usual path).tagIn? bundle output.name = none := by
  have other : (usual path).extensions.contains (lower (Path.ofString output.name).suffix) = false := by
    have filled : output.suffix ≠ "" := by simp [isModule]
    have clean : '/' ∉ output.suffix.toList := by simp [isModule]
    rcases Path.suffixReread filled clean with same | empty
    · rw [same, isModule]
      exact (by decide +kernel : usualExtensions.contains (lower ".py") = false)
    · rw [empty]
      exact (by decide +kernel : usualExtensions.contains (lower "") = false)
  simp only [tagIn?, other, Bool.false_and, Bool.false_eq_true, if_false]

/-! ### Catalogs read again -/

theorem catalogListed (written : Written tree left output place content)
    (isModule : output.suffix = ".py") (valid : Target.isBundleName bundle = true) {name : String}
    (mem : name ∈ fileNamesOf bundle locale) (there : List String) :
    name ∈ left.fileNames there ↔ name ∈ tree.fileNames there := by
  have apart := outputApart isModule written.found (catalogApart isModule valid mem) there
  have listed : name ∈ (left.fileNames there).filter (fun name => there ++ [name] ≠ place) ↔
      name ∈ (tree.fileNames there).filter fun name => there ++ [name] ≠ place := by
    rw [written.listed there]
  simpa [List.mem_filter, apart] using listed

theorem pathAgain (written : Written tree left output place content)
    (isModule : output.suffix = ".py") (valid : Target.isBundleName bundle = true)
    (opens : tree.Opens path there) :
    (usual path).pathFor left bundle locale = (usual path).pathFor tree bundle locale := by
  by_cases askable : IsAskable (Locale.normalize (some locale))
  · rw [askedPath valid opens askable,
      askedPath valid (opensExtends written.extends opens) askable]
    congr 3
    exact List.find?_congr fun name mem =>
      decide_eq_decide.mpr (catalogListed written isModule valid mem there)
  · rw [unaskedPath askable, unaskedPath askable]

theorem messagesAgain (written : Written tree left output place content)
    (isModule : output.suffix = ".py") (valid : Target.isBundleName bundle = true)
    {file : Path} (found : (usual path).pathFor tree bundle locale = .ok (some file)) :
    messagesOfFile left file (some bundle) = messagesOfFile tree file (some bundle) := by
  obtain ⟨askable, there, name, opens, named, listed, rfl⟩ := foundPath valid found
  have plain := plainFile valid askable name named
  have apart := outputApart isModule written.found (catalogApart isModule valid named) there
  obtain ⟨text, stands⟩ := fileListed.mp listed
  have again : left.entryAt? (there ++ [name]) = some (.file text) := by
    rcases written.entries _ apart with same | fresh
    · exact same.trans stands
    · cases fresh.missing.symm.trans stands
  have stat : left.stat (path.child name) = tree.stat (path.child name) := by
    unfold FileTree.stat
    rw [childLocated opens plain, childLocated (opensExtends written.extends opens) plain]
    split
    · rfl
    · rename_i leads
      split at leads
      · obtain rfl := Except.ok.inj leads
        rw [stands, again]
      · cases leads
  simp only [messagesOfFile, FileTree.readText, readBytes, stat]

theorem findAgain (written : Written tree left output place content)
    (isModule : output.suffix = ".py") (valid : Target.isBundleName bundle = true)
    (opens : tree.Opens path there) {answer : Option Catalog}
    (ok : ((usual path).find tree bundle locale).outcome = .ok answer) :
    ((usual path).find left bundle locale).outcome = .ok answer := by
  rw [findOutcome, pathAgain written isModule valid opens]
  refine (findOutcome.mp ok).imp_right ?_
  rintro ⟨file, messages, found, read, filled, same⟩
  exact ⟨file, messages, found, (messagesAgain written isModule valid found).trans read, filled, same⟩

def tagged (path : Path) (bundle : String) (names : List String) : List (String × String) :=
  names.filterMap fun name => ((usual path).tagIn? bundle name).map fun tag => (name, tag)

theorem openedLocales (opens : tree.Opens path there) :
    ((usual path).locales tree bundle).outcome =
      .ok (((tagged path bundle (tree.fileNames there)).filter fun entry =>
        Locale.isTag entry.2).map fun entry => Locale.normalize (some entry.2)).eraseDups.mergeSort := by
  refine bindOutcomeOk.mpr ⟨true, ofFilesOk.mpr (opensDirectory opens), ?_⟩
  exact bindOutcomeOk.mpr ⟨there, ofFilesOk.mpr opens.found, rfl⟩

theorem taggedAgain (written : Written tree left output place content)
    (isModule : output.suffix = ".py") (there : List String) :
    tagged path bundle (left.fileNames there) = tagged path bundle (tree.fileNames there) := by
  have spared (names : List String) : tagged path bundle names =
      tagged path bundle (names.filter fun name => there ++ [name] ≠ place) := by
    unfold tagged
    rw [List.filterMap_filter]
    refine List.filterMap_congr fun name _ => ?_
    split
    · rfl
    · -- The name that is left out is that of the output, which no bundle reads a tag off.
      rename_i same
      have named : name = output.name := by
        by_contra other
        exact outputApart isModule written.found other there (by simpa using same)
      rw [named, moduleUntagged isModule]
      rfl
  rw [spared, written.listed, ← spared]

theorem localesAgain (written : Written tree left output place content)
    (isModule : output.suffix = ".py") (opens : tree.Opens path there) :
    ((usual path).locales left bundle).outcome = ((usual path).locales tree bundle).outcome := by
  rw [openedLocales opens, openedLocales (opensExtends written.extends opens),
    taggedAgain written isModule]

theorem setAgain (written : Written tree left output place content)
    (isModule : output.suffix = ".py") (valid : Target.isBundleName bundle = true) {set : CatalogSet}
    (ok : (((usual path).source tree).loadSet bundle).outcome = .ok set) :
    (((usual path).source left).loadSet bundle).outcome = .ok set := by
  obtain ⟨default, named, locales, found, listed, answers, variants⟩ := Source.loadSetOutcome.mp ok
  obtain ⟨there, opens⟩ : ∃ there, tree.Opens path there := by
    rcases findOutcome.mp default with ⟨-, missing⟩ | ⟨file, -, found, -⟩
    · cases missing
    · obtain ⟨-, there, -, opens, -⟩ := foundPath valid found
      exact ⟨there, opens⟩
  refine Source.loadSetOutcome.mpr ⟨findAgain written isModule valid opens default, named, locales,
    found, (localesAgain written isModule opens).trans listed, ?_, variants⟩
  exact answers.imp fun locale answer => findAgain written isModule valid opens

end

end Phrasebook.Catalog.Directory

namespace Phrasebook.Target

open Accessor Catalog.Directory FileTree Text

variable {tree left : FileTree} {t : Target} {place : List String} {content : ByteArray}

theorem specAgain (written : Written tree left t.output place content)
    (isModule : t.output.suffix = ".py") (valid : isBundleName t.bundle = true) {spec : Spec}
    (ok : (t.spec tree).outcome = .ok spec) : (t.spec left).outcome = .ok spec := by
  obtain ⟨catalogs, options, accessor, directory, isRelative, loaded, named, built, placed, same⟩ :=
    specOutcome.mp ok
  refine specOutcome.mpr ⟨catalogs, options, accessor, directory, isRelative,
    setAgain written isModule valid loaded, named, built, ?_, same⟩
  rw [← placed]
  simp only [runtimeDirectory, placeOf, FileTree.resolve, written.base]

/-- A module that reads as a draft leaves nothing to change. -/
theorem draftAgain {draft : Generation} {text : String} (drafted : (t.draft tree).outcome = .ok draft)
    (written : Written tree left t.output place text.toUTF8)
    (same : unifyLineEnds text.toList = draft.source.toList) (isModule : t.output.suffix = ".py")
    (valid : isBundleName t.bundle = true) :
    (t.draft left).outcome = .ok { draft with changed := false, written := false } := by
  have reads := currentRead (writtenStands written) (Utf8.decodeEncoded text)
  rw [same, String.ofList_toList] at reads
  obtain ⟨spec, source, current, built, rendered, -, rfl⟩ := draftOutcome.mp drafted
  exact draftOutcome.mpr ⟨spec, source, some source, specAgain written isModule valid built, rendered,
    reads, by simp⟩

end Phrasebook.Target

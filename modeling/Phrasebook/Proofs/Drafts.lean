import Phrasebook.Proofs.CatalogSets
import Phrasebook.Proofs.SourceLines
import Phrasebook.Proofs.TreeGrowth

/-! Drafts of modules and what generating makes of them. Every fault that is an issue shows in the draft,
before anything is written; a draft that is written is read back as the text it was. -/
namespace Phrasebook.Target

open Accessor FileTree Report Text

section

variable {tree left : FileTree} {t : Target} {spec : Spec} {draft : Generation}

theorem accessorBuilt {options : Options} {catalogs : CatalogSet}
    (ok : (t.accessorOf options catalogs).outcome = .ok spec) :
    ∃ settled, (build settled catalogs).outcome = .ok spec := by
  unfold accessorOf at ok
  split at ok
  · exact ⟨_, ok⟩
  · obtain ⟨⟨_, shapes⟩, -, last⟩ := bindOutcomeOk.mp ok
    simp only at last
    split at last
    · cases last
    · exact ⟨_, last⟩

theorem specOutcome :
    (t.spec tree).outcome = .ok spec ↔
      ∃ catalogs options accessor directory isRelative,
        ((({ path := t.sourceDir } : Catalog.Directory).source tree).loadSet t.bundle).outcome =
          .ok catalogs ∧
        Options.ofNames? (some t.mode) t.naming = some options ∧
        (t.accessorOf { options with className := t.classNameText } catalogs).outcome = .ok accessor ∧
        t.runtimeDirectory tree = .ok (directory, isRelative) ∧
        spec = { accessor with catalogDir := directory.text, isRelative := isRelative } := by
  simp only [Target.spec, bindOutcomeOk]
  constructor
  · rintro ⟨catalogs, loaded, last⟩
    split at last
    · cases last
    · rename_i options named
      simp only [bindOutcomeOk, ofExceptOutcome] at last
      obtain ⟨accessor, built, ⟨directory, isRelative⟩, placed, last⟩ := last
      exact ⟨catalogs, options, accessor, directory, isRelative, loaded, named, built, placed,
        (Except.ok.inj last).symm⟩
  · rintro ⟨catalogs, options, accessor, directory, isRelative, loaded, named, built, placed, rfl⟩
    refine ⟨catalogs, loaded, ?_⟩
    simp only [named, bindOutcomeOk, ofExceptOutcome]
    exact ⟨accessor, built, (directory, isRelative), placed, rfl⟩

theorem specPlain (named : isBundleName t.bundle = true) (ok : (t.spec tree).outcome = .ok spec)
    (formed : spec.isWellFormed = true) : spec.IsPlain := by
  obtain ⟨catalogs, options, accessor, directory, isRelative, loaded, -, asked, -, rfl⟩ :=
    specOutcome.mp ok
  obtain ⟨settled, built⟩ := accessorBuilt asked
  have bundle : accessor.bundle = t.bundle :=
    (builtEntries built).1.trans (Source.loadSetOutcome.mp loaded).2.1
  have shaped := builtShaped built
  exact formedPlain (bundle ▸ named) shaped formed

theorem draftOutcome :
    (t.draft tree).outcome = .ok draft ↔
      ∃ spec source current, (t.spec tree).outcome = .ok spec ∧
        (render spec).outcome = .ok source ∧ currentText tree t.output = .ok current ∧
        draft = { spec := spec, source := source, output := t.output,
                  changed := current ≠ some source } := by
  simp only [Target.draft, bindOutcomeOk, ofExceptOutcome]
  constructor
  · rintro ⟨spec, built, source, rendered, current, found, last⟩
    exact ⟨spec, source, current, built, rendered, found, (Except.ok.inj last).symm⟩
  · rintro ⟨spec, source, current, built, rendered, found, rfl⟩
    exact ⟨spec, built, source, rendered, current, found, rfl⟩

theorem draftNoReturn (named : isBundleName t.bundle = true)
    (ok : (t.draft tree).outcome = .ok draft) : '\r' ∉ draft.source.toList := by
  obtain ⟨spec, source, current, built, rendered, -, same⟩ := draftOutcome.mp ok
  obtain ⟨-, formed, text⟩ := renderOutcome.mp rendered
  have clean := unlinesNoReturn (linesPlain (specPlain named built formed))
  rw [← sourceLines, ← text] at clean
  rw [same]
  exact clean

/-! ### What is read of a file -/

theorem currentRead {path : Path} {content : ByteArray} {text : String}
    (stands : tree.stat path = .ok (.file content)) (decoded : Utf8.decode content = .ok text) :
    currentText tree path = .ok (some (.ofList (unifyLineEnds text.toList))) := by
  have isFile : tree.isFile path = .ok true := by simp [FileTree.isFile, FileTree.test, stands]
  simp only [currentText, isFile, FileTree.readText, readBytes, stands, decoded]

theorem writtenStands {path : Path} {place : List String} {content : ByteArray}
    (written : Written tree left path place content) : left.stat path = .ok (.file content) := by
  simp only [FileTree.stat, written.found, written.stands]

/-! ### Generating -/

inductive Generated (force : Bool) (tree : FileTree) (t : Target) :
    FileTree → Except Failure Generation → Prop
  | refused {failure : Failure} (drafted : (t.draft tree).outcome = .error failure) :
      Generated force tree t tree (.error failure)
  | settled {draft : Generation} (drafted : (t.draft tree).outcome = .ok draft)
      (same : draft.changed = false) (relaxed : force = false) :
      Generated force tree t tree (.ok draft)
  | written {draft : Generation} {left : FileTree} (drafted : (t.draft tree).outcome = .ok draft)
      (due : draft.changed = true ∨ force = true)
      (wrote : writeText tree t.output draft.source = (left, none)) :
      Generated force tree t left (.ok { draft with written := true })
  | broken {left : FileTree} {fault : FileFault} :
      Generated force tree t left (.error (.breach (.file fault)))

theorem generated (force : Bool) (tree : FileTree) (t : Target) :
    Generated force tree t (generate force tree t).1 (generate force tree t).2.outcome := by
  unfold generate
  generalize report : t.draft tree = drafted
  obtain ⟨log, outcome⟩ := drafted
  cases outcome with
  | error failure => exact .refused (congrArg Report.outcome report)
  | ok draft =>
    have drafted := congrArg Report.outcome report
    simp only
    split
    · rename_i due
      split
      · exact .broken
      · rename_i wrote
        exact .written drafted (by simpa using due) wrote
    · rename_i undue
      simp only [Bool.or_eq_true, not_or, Bool.not_eq_true] at undue
      exact .settled drafted undue.1 undue.2

theorem settledGenerate (drafted : (t.draft tree).outcome = .ok draft) (same : draft.changed = false) :
    (generate false tree t).1 = tree ∧ (generate false tree t).2.outcome = .ok draft := by
  unfold generate
  generalize t.draft tree = report at drafted
  obtain ⟨log, outcome⟩ := report
  cases drafted
  simp only [same, Bool.or_self, Bool.false_eq_true, if_false, and_self]

theorem writtenGenerate {force : Bool} (drafted : (t.draft tree).outcome = .ok draft)
    (due : draft.changed = true ∨ force = true)
    (wrote : writeText tree t.output draft.source = (left, none)) :
    (generate force tree t).1 = left ∧
      (generate force tree t).2.outcome = .ok { draft with written := true } := by
  unfold generate
  generalize t.draft tree = report at drafted
  obtain ⟨log, outcome⟩ := report
  cases drafted
  have writes : (draft.changed || force) = true := by simpa using due
  simp only [writes, wrote, if_true, and_self]

theorem settledCompare (drafted : (t.draft tree).outcome = .ok draft) (same : draft.changed = false) :
    (t.compare tree).outcome = .ok draft := by
  refine bindOutcomeOk.mpr ⟨draft, drafted, ?_⟩
  rw [if_neg (by simp [same])]
  rfl

end

end Phrasebook.Target

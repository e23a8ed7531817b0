import Phrasebook.Proofs.Footprints

/-! Generating once is enough. A module that was written reads as the draft it was written from, and the
draft made of the tree with the module in it is the same. -/
namespace Phrasebook.Target

open Catalog.Directory FileTree Report Text

theorem checkedTarget {t : Target} {file : Option String} (checked : t.check file = .ok ()) :
    isBundleName t.bundle = true ∧ t.output.suffix = ".py" := by
  simp only [check, exceptBindOk] at checked
  obtain ⟨_, named, _, -, _, -, _, -, _, -, output⟩ := checked
  constructor
  · simp only [bundleOf] at named
    split at named
    · assumption
    · cases named
  · unfold checkOutput at output
    split at output
    · assumption
    · cases output

/-- A module that was generated is up to date: checking finds nothing changed, and generating again writes
nothing. -/
theorem generateSettles (force : Bool) (tree : FileTree) (t : Target) (file : Option String)
    (result : Generation) (checked : t.check file = .ok ())
    (returned : (generate force tree t).2.outcome = .ok result) :
    (compare (generate force tree t).1 t).outcome =
        .ok { result with changed := false, written := false } ∧
      (generate false (generate force tree t).1 t).2.outcome =
        .ok { result with changed := false, written := false } ∧
      (generate false (generate force tree t).1 t).1 = (generate force tree t).1 := by
  obtain ⟨valid, isModule⟩ := checkedTarget checked
  have outcome := generated force tree t
  rw [returned] at outcome
  generalize (generate force tree t).1 = left at outcome ⊢
  have drafted : (t.draft left).outcome = .ok { result with changed := false, written := false } := by
    cases outcome with
    | settled drafted same =>
      obtain ⟨spec, source, current, -, -, -, rfl⟩ := draftOutcome.mp drafted
      simp only at same
      rw [drafted, same]
    | written drafted due wrote =>
      obtain ⟨place, written⟩ := textWritten wrote
      have reads := unifiedAlready (draftNoReturn valid drafted)
      have again := draftAgain drafted written reads isModule valid
      exact again
  obtain ⟨kept, again⟩ := settledGenerate drafted rfl
  exact ⟨settledCompare drafted rfl, again, kept⟩

theorem greetingSettles : ∃ result,
    greetingTarget.check none = .ok () ∧
    (generate false (twoFiles "messages_fr.properties") greetingTarget).2.outcome = .ok result ∧
    result.written = true ∧
    (compare (generate false (twoFiles "messages_fr.properties") greetingTarget).1
      greetingTarget).outcome = .ok { result with changed := false, written := false } := by
  obtain ⟨result, returned, written⟩ := greetingGenerated
  have checked : greetingTarget.check none = .ok () := by decide +kernel
  exact ⟨result, checked, returned, written,
    (generateSettles false (twoFiles "messages_fr.properties") greetingTarget none result checked
      returned).1⟩

end Phrasebook.Target

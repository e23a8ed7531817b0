import Phrasebook.Command.Run
import Phrasebook.Proofs.Drafts
import Phrasebook.Proofs.GeneratedCalls
import Phrasebook.Proofs.Undisturbed

/-! What generating leaves behind. A generation that fails with an issue leaves the tree as it was; one
that succeeds changes its output and the directories that were missing before it, or nothing. -/
namespace Phrasebook.Target

open Accessor Catalog.Directory FileTree Report Text

/-- Two trees differ at most in an output and in directories on the way to it. -/
structure Touches (tree left : FileTree) (output : Path) : Prop where
  base : left.base = tree.base
  entries : ∀ place, left.entryAt? place = tree.entryAt? place ∨ left.locate output = .ok place ∨
    MadeOn tree left output.parent place

theorem writtenTouches {tree left : FileTree} {output : Path} {place : List String}
    {content : ByteArray} (written : Written tree left output place content) :
    Touches tree left output := by
  refine ⟨written.base, fun other => ?_⟩
  by_cases same : other = place
  · exact .inr (.inl (same ▸ written.found))
  · exact (written.entries other same).imp_right .inr

/-- Checking and inspecting change nothing, and neither does generating that ends in an issue. Generating
that succeeds says whether it wrote: if so, the output holds the bytes of the source; if not, the tree is
as it was and the output read as the source already. -/
theorem generateTouchesOutput (force : Bool) (tree : FileTree) (t : Target) :
    (∀ choices targets, (Command.perform tree .check choices targets).1 = tree ∧
      (Command.perform tree .inspect choices targets).1 = tree) ∧
    (∀ failure, (generate force tree t).2.outcome = .error failure →
      (∀ breach, failure ≠ .breach breach) → (generate force tree t).1 = tree) ∧
    ∀ result, (generate force tree t).2.outcome = .ok result →
      Touches tree (generate force tree t).1 t.output ∧
      (result.written = true ↔
        force = true ∨ currentText tree t.output ≠ .ok (some result.source)) ∧
      (result.written = true →
        (generate force tree t).1.readBytes t.output = .ok result.source.toUTF8) ∧
      (result.written = false → (generate force tree t).1 = tree) := by
  have outcome := generated force tree t
  generalize (generate force tree t).1 = left at outcome ⊢
  generalize (generate force tree t).2.outcome = answer at outcome ⊢
  refine ⟨fun _ _ => ⟨rfl, rfl⟩, ?_⟩
  cases outcome with
  | refused => exact ⟨fun _ _ _ => rfl, fun _ same => by cases same⟩
  | broken =>
    refine ⟨fun failure same issue => ?_, fun _ same => by cases same⟩
    exact absurd (Except.error.inj same).symm (issue _)
  | settled drafted same relaxed =>
    -- A draft without changes was compared with a text that is its source.
    refine ⟨fun _ other => (by cases other), fun result ok => ?_⟩
    cases ok
    obtain ⟨spec, source, current, -, -, found, rfl⟩ := draftOutcome.mp drafted
    simp only [ne_eq, decide_not, Bool.not_eq_false', decide_eq_true_eq] at same
    subst same
    exact ⟨⟨rfl, fun _ => .inl rfl⟩, by simp [relaxed, found], nofun, fun _ => rfl⟩
  | written drafted due wrote =>
    refine ⟨fun _ other => (by cases other), fun result ok => ?_⟩
    cases ok
    obtain ⟨place, written⟩ := textWritten wrote
    have bytes := writtenStands written
    refine ⟨writtenTouches written, ?_, fun _ => by simp only [readBytes, bytes], nofun⟩
    obtain ⟨spec, source, current, -, -, found, rfl⟩ := draftOutcome.mp drafted
    simp only [ne_eq, decide_not, Bool.not_eq_true', decide_eq_false_iff_not] at due
    simpa [found, or_comm] using due

def greetingTarget : Target where
  bundle := "messages"
  sourceDir := ⟨.relative, ["i18n"]⟩
  output := ⟨.relative, ["gen", "greetings.py"]⟩

def placedGreeter : Spec := { greeter with catalogDir := "../i18n" }

theorem greetingSpec :
    (greetingTarget.spec (twoFiles "messages_fr.properties")).outcome = .ok placedGreeter :=
  specOutcome.mpr ⟨greetings, {}, greeter, ⟨.relative, ["..", "i18n"]⟩, true, greetingsLoaded,
    by decide, greeterBuilt, by decide, by decide⟩

theorem greetingDrafted : (greetingTarget.draft (twoFiles "messages_fr.properties")).outcome =
    .ok { spec := placedGreeter, source := placedGreeter.source, output := greetingTarget.output,
          changed := true } := by
  have formed : placedGreeter.isWellFormed = true := by decide +kernel
  have plain := specPlain (by decide) greetingSpec formed
  exact draftOutcome.mpr ⟨placedGreeter, _, none, greetingSpec,
    (plainRendered plain).mpr ⟨formed, rfl⟩, by decide +kernel, by simp⟩

theorem greetingWrites (text : String) : ∃ left,
    writeText (twoFiles "messages_fr.properties") greetingTarget.output text = (left, none) :=
  ⟨_, rfl⟩

theorem greetingGenerated : ∃ result,
    (generate false (twoFiles "messages_fr.properties") greetingTarget).2.outcome = .ok result ∧
      result.written = true := by
  obtain ⟨left, wrote⟩ := greetingWrites placedGreeter.source
  exact ⟨_, (writtenGenerate greetingDrafted (.inl rfl) wrote).2, rfl⟩

theorem greetingTouchesOutput : ∃ result,
    (generate false (twoFiles "messages_fr.properties") greetingTarget).2.outcome = .ok result ∧
    Touches (twoFiles "messages_fr.properties")
      (generate false (twoFiles "messages_fr.properties") greetingTarget).1
      ⟨.relative, ["gen", "greetings.py"]⟩ ∧
    (generate false (twoFiles "messages_fr.properties") greetingTarget).1.readBytes
      ⟨.relative, ["gen", "greetings.py"]⟩ = .ok result.source.toUTF8 := by
  obtain ⟨result, ok, written⟩ := greetingGenerated
  obtain ⟨touches, -, bytes, -⟩ :=
    (generateTouchesOutput false (twoFiles "messages_fr.properties") greetingTarget).2.2 result ok
  exact ⟨result, ok, touches, bytes written⟩

/-- The source of the module with its lines ended the other way. -/
def returnsText : String := .ofList (returned placedGreeter.source.toList)

def returnsTree : FileTree :=
  (writeText (twoFiles "messages_fr.properties") greetingTarget.output returnsText).1

/-- What reads as the source is kept, even if its bytes are others. -/
theorem returnsKept : ∃ result,
    (generate false returnsTree greetingTarget).2.outcome = .ok result ∧
    (generate false returnsTree greetingTarget).1.readBytes greetingTarget.output ≠
      .ok result.source.toUTF8 := by
  obtain ⟨left, wrote⟩ := greetingWrites returnsText
  obtain ⟨place, written⟩ := textWritten wrote
  have tree : returnsTree = left := by
    unfold returnsTree
    rw [wrote]
  have clean := draftNoReturn (by decide) greetingDrafted
  have reads : unifyLineEnds returnsText.toList = placedGreeter.source.toList := by
    rw [returnsText, String.toList_ofList, returnedUnified clean]
  obtain ⟨kept, outcome⟩ :=
    settledGenerate (draftAgain greetingDrafted written reads (by decide) (by decide)) rfl
  rw [tree]
  refine ⟨_, outcome, ?_⟩
  rw [kept, readBytes, writtenStands written]
  intro same
  have texts := congrArg Utf8.decode (Except.ok.inj same)
  simp only [Utf8.decodeEncoded, Except.ok.injEq] at texts
  have feed : '\n' ∈ placedGreeter.source.toList := by
    rw [sourceLines, unlinesChars]
    exact List.mem_flatMap.mpr ⟨_, List.mem_cons_self, by simp⟩
  rw [← texts, returnsText, String.toList_ofList] at clean
  exact clean (returnedHolds feed)

end Phrasebook.Target

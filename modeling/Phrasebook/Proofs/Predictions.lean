import Phrasebook.Command.Places
import Phrasebook.Proofs.Footprints

/-! What checking says about generating. Checking compares every target with one tree, and generating goes
on from the tree that the target before left; where nothing is stale the two see the same. -/
namespace Phrasebook.Command

open Catalog.Directory FileTree Number Report Target

/-! ### Options -/

section

variable {σ : Type} {P : σ → Prop} {options : List (Switch σ)} {settings : σ}

def Switch.Keeps (P : σ → Prop) (option : Switch σ) : Prop :=
  match option.effect with
  | .inl flag => ∀ settings, P settings → P (flag settings)
  | .inr give => ∀ value settings, P settings → P (give value settings)

def Taken.Holds (P : σ → Prop) : Taken σ → Prop
  | .settled settings => P settings
  | .awaits give => ∀ value, P (give value)

theorem namedKeeps {name : String} {option : Switch σ} (kept : ∀ o ∈ options, o.Keeps P)
    (found : optionNamed? options name = some option) : option.Keeps P :=
  kept option (List.mem_of_find?_eq_some found)

theorem clusterHolds {cs : List Char} {taken : Taken σ} (kept : ∀ o ∈ options, o.Keeps P)
    (holds : P settings) (took : takeCluster? options settings cs = some taken) : taken.Holds P := by
  induction cs generalizing settings with
  | nil =>
    cases took
    exact holds
  | cons c rest ih =>
    unfold takeCluster? at took
    split at took
    · contradiction
    · rename_i flag found
      exact ih (namedKeeps kept found settings holds) took
    · rename_i give found
      have given := namedKeeps kept found
      split at took
      · cases took
        exact fun value => given value settings holds
      · cases took
        exact given _ settings holds

theorem longHolds {name : String} {value : Option String} {taken : Taken σ}
    (kept : ∀ o ∈ options, o.Keeps P) (holds : P settings)
    (took : takeLong? options settings name value = some taken) : taken.Holds P := by
  unfold takeLong? at took
  split at took
  · rename_i flag found
    cases took
    exact namedKeeps kept found settings holds
  · rename_i give text found
    cases took
    exact namedKeeps kept found text settings holds
  · rename_i give found
    cases took
    exact fun text => namedKeeps kept found text settings holds
  · contradiction

theorem optionHolds {arg : List Char} {taken : Taken σ} (kept : ∀ o ∈ options, o.Keeps P)
    (holds : P settings) (took : takeOption? options settings arg = some taken) : taken.Holds P := by
  unfold takeOption? at took
  split at took
  · exact longHolds kept holds took
  · exact clusterHolds kept holds took

theorem optionsHold {mixed : Bool} {args others left : List String} {reached : σ}
    (kept : ∀ o ∈ options, o.Keeps P) (holds : P settings)
    (took : takeOptions? options mixed settings others args = some (reached, left)) : P reached := by
  -- By induction on the arguments: each is an option, one with its value, or none.
  fun_induction takeOptions? options mixed settings others args with
  | case1 | case2 | case7 =>
    cases took
    exact holds
  | case3 _ _ _ _ _ next _ settled ih => exact ih (optionHolds kept holds settled) took
  | case4 _ _ _ _ _ give value _ awaits ih => exact ih (optionHolds kept holds awaits value) took
  | case5 => contradiction
  | case6 _ _ _ _ _ _ _ ih => exact ih holds took

end

theorem commandRun {level reached : Level} {action act : Action} {choices : Choices}
    {args : List String} (asks : Request.ofCommand level action args = .run reached act choices) :
    act = action ∧ ∃ others, takeOptions? action.options true {} [] args = some (choices, others) := by
  unfold Request.ofCommand at asks
  split at asks
  · contradiction
  · rename_i taken others took
    split_ifs at asks
    cases asks
    exact ⟨rfl, others, took⟩

theorem unknownRuns {args : List String} {level : Level} {action : Action} {choices : Choices} :
    Request.ofUnknown args ≠ .run level action choices := by
  unfold Request.ofUnknown
  split
  · split <;> simp
  · simp

theorem argumentsRun {args : List String} {level : Level} {action : Action} {choices : Choices}
    (asks : Request.ofArguments args = .run level action choices) :
    ∃ rest others, takeOptions? action.options true {} [] rest = some (choices, others) := by
  unfold Request.ofArguments at asks
  split at asks
  · contradiction
  · split at asks
    · contradiction
    · split at asks
      · contradiction
      · split at asks
        · exact absurd asks unknownRuns
        · obtain ⟨rfl, others, took⟩ := commandRun asks
          exact ⟨_, others, took⟩

/-- No option of checking asks for outputs to be written in any case. -/
theorem checkUnforced {args : List String} {level : Level} {choices : Choices}
    (asks : Request.ofArguments args = .run level .check choices) : choices.force = false := by
  obtain ⟨rest, others, took⟩ := argumentsRun asks
  refine optionsHold (P := fun choices => choices.force = false) ?_ rfl took
  simp [Action.options, sharedOptions, catalogDirOption, Switch.Keeps]

/-! ### Runs -/

/-- Targets whose modules are up to date in a tree, with the drafts that show it. -/
def UpToDate (tree : FileTree) : List Target → List Generation → Prop :=
  List.Forall₂ fun t draft => (t.draft tree).outcome = .ok draft ∧ draft.changed = false

theorem comparedDraft {tree : FileTree} {t : Target} :
    (t.compare tree).outcome = (t.draft tree).outcome := by
  unfold Target.compare
  rw [bindOutcome]
  cases (t.draft tree).outcome with
  | error failure => rfl
  | ok draft =>
    dsimp only [Except.bind]
    split <;> rfl

theorem comparedUpToDate {tree : FileTree} {targets : List Target} {drafts : List Generation} :
    (compareAll tree targets).outcome = .ok drafts ∧ (∀ draft ∈ drafts, draft.changed = false) ↔
      UpToDate tree targets drafts := by
  induction targets generalizing drafts with
  | nil =>
    constructor
    · intro ⟨ok, _⟩
      cases ok
      exact .nil
    · intro settled
      cases settled
      exact ⟨rfl, nofun⟩
  | cons t rest ih =>
    simp only [compareAll, bindOutcomeOk, comparedDraft]
    constructor
    · intro ⟨⟨draft, drafted, others, compared, made⟩, same⟩
      cases made
      obtain ⟨head, tail⟩ := List.forall_mem_cons.mp same
      exact .cons ⟨drafted, head⟩ (ih.mp ⟨compared, tail⟩)
    · intro settled
      cases settled with
      | cons head tail =>
        obtain ⟨compared, same⟩ := ih.mpr tail
        exact ⟨⟨_, head.1, _, compared, rfl⟩, List.forall_mem_cons.mpr ⟨head.2, same⟩⟩

/-- A run of generating that succeeds. Each target finds the tree that the one before it left. -/
inductive Runs (force : Bool) : FileTree → List Target → FileTree → List Generation → Prop
  | done {tree} : Runs force tree [] tree []
  | next {tree after left t rest result results} (first : Generated force tree t after (.ok result))
      (others : Runs force after rest left results) :
      Runs force tree (t :: rest) left (result :: results)

section

-- The generation of one target stays folded in this equation, which is too large to check otherwise.
attribute [local irreducible] Target.generate

theorem generateStep {force : Bool} {tree : FileTree} {t : Target} {rest : List Target} :
    generateAll force tree (t :: rest) =
      match t.generate force tree with
      | (after, first) =>
        match first.outcome with
        | .error failure => (after, ⟨first.log, .error failure⟩)
        | .ok result =>
          match generateAll force after rest with
          | (last, others) =>
            (last, ⟨first.log ++ others.log, others.outcome.map fun results => result :: results⟩) :=
  rfl

end

theorem generateNext {force : Bool} {tree after : FileTree} {t : Target} {rest : List Target}
    {report : Report Generation} (given : t.generate force tree = (after, report)) :
    generateAll force tree (t :: rest) =
      match report.outcome with
      | .error failure => (after, ⟨report.log, .error failure⟩)
      | .ok result =>
        ((generateAll force after rest).1,
          ⟨report.log ++ (generateAll force after rest).2.log,
            (generateAll force after rest).2.outcome.map fun results => result :: results⟩) := by
  rw [generateStep, given]

theorem generatedRuns {force : Bool} {tree : FileTree} {targets : List Target}
    {results : List Generation} (ok : (generateAll force tree targets).2.outcome = .ok results) :
    Runs force tree targets (generateAll force tree targets).1 results := by
  induction targets generalizing tree results with
  | nil =>
    cases ok
    exact .done
  | cons t rest ih =>
    have step := Target.generated force tree t
    rcases given : t.generate force tree with ⟨after, report⟩
    rw [given] at step
    rw [generateNext given] at ok ⊢
    cases answer : report.outcome with
    | error failure => simp [answer] at ok
    | ok result =>
      simp only [answer] at step ok ⊢
      cases others : (generateAll force after rest).2.outcome with
      | error failure => simp [others, Except.map] at ok
      | ok more =>
        simp only [others, Except.map, Except.ok.injEq] at ok
        subst ok
        exact .next step (ih others)

theorem upToDateRuns {tree : FileTree} {targets : List Target} {drafts : List Generation}
    (settled : UpToDate tree targets drafts) :
    (generateAll false tree targets).1 = tree ∧
      (generateAll false tree targets).2.outcome = .ok drafts := by
  induction settled with
  | nil => exact ⟨rfl, rfl⟩
  | @cons t draft rest drafts head tail ih =>
    obtain ⟨kept, answer⟩ := settledGenerate head.1 head.2
    rcases given : t.generate false tree with ⟨after, report⟩
    simp only [given] at kept answer
    subst kept
    simp only [generateNext given, answer, ih, Except.map, and_self]

theorem runsUpToDate {tree left : FileTree} {targets : List Target} {results : List Generation}
    (runs : Runs false tree targets left results) (unwritten : ∀ g ∈ results, g.written = false) :
    UpToDate tree targets results := by
  induction runs with
  | done => exact .nil
  | next first others ih =>
    obtain ⟨head, tail⟩ := List.forall_mem_cons.mp unwritten
    cases first with
    | settled drafted same => exact .cons ⟨drafted, same⟩ (ih tail)
    | written => contradiction

theorem runsOutputs {force : Bool} {tree left : FileTree} {targets : List Target}
    {results : List Generation} (runs : Runs force tree targets left results) :
    List.Forall₂ (fun t g => g.output = t.output) targets results := by
  induction runs with
  | done => exact .nil
  | next first others ih =>
    refine .cons ?_ ih
    cases first with
    | settled drafted =>
      obtain ⟨spec, source, current, -, -, -, rfl⟩ := draftOutcome.mp drafted
      rfl
    | written drafted =>
      obtain ⟨spec, source, current, -, -, -, rfl⟩ := draftOutcome.mp drafted
      rfl

/-! ### What is printed -/

/-- The lines of a run that found every module up to date. -/
def TellsUnchanged (targets : List Target) (printed : Option Printed) : Prop :=
  ∃ lines, printed = some { lines := lines } ∧
    List.Forall₂ (fun t line => ∃ n : Nat,
      line = t.output.text ++ ": unchanged (" ++ natText n ++ " methods)") targets lines

theorem unchangedLine {t : Target} {g : Generation} (same : g.output = t.output) :
    (∃ n : Nat, generatedLine g = t.output.text ++ ": unchanged (" ++ natText n ++ " methods)") ↔
      g.written = false := by
  have opening : ": unchanged (" = ": " ++ ("unchanged" ++ " (") := by decide
  simp only [generatedLine, same, opening, String.append_assoc, String.append_right_inj]
  cases g.written with
  | false => exact ⟨fun _ => rfl, fun _ => ⟨_, rfl⟩⟩
  | true =>
    constructor
    · intro ⟨n, line⟩
      have head := congrArg (fun s => s.toList.head?) line
      simp at head
    · nofun

theorem unchangedLines {targets : List Target} {results : List Generation}
    (outputs : List.Forall₂ (fun t g => g.output = t.output) targets results) :
    TellsUnchanged targets (ofLines (results.map generatedLine)).printed ↔
      ∀ g ∈ results, g.written = false := by
  induction outputs with
  | nil => exact ⟨fun _ => nofun, fun _ => ⟨[], rfl, .nil⟩⟩
  | cons head tail ih =>
    rw [List.forall_mem_cons, ← ih, ← unchangedLine head]
    constructor
    · intro ⟨lines, printed, told⟩
      cases printed
      cases told with
      | cons first others => exact ⟨first, _, rfl, others⟩
    · intro ⟨first, lines, printed, others⟩
      cases printed
      exact ⟨_, rfl, .cons first others⟩

theorem failureExit (failure : Failure) : (ofFailure failure).exitCode ≠ 0 := by
  cases failure with
  | issue i => cases i <;> simp [ofFailure, Failure.code, Issue.code]
  | validation | declaration | breach => simp [ofFailure, Failure.code]

theorem reportExit {α : Type} {report : Report α} {print : α → Outcome} :
    (ofReport report print).exitCode = 0 ↔
      ∃ value, report.outcome = .ok value ∧ (print value).exitCode = 0 := by
  unfold ofReport
  cases report.outcome with
  | ok value => simp
  | error failure => simpa using failureExit failure

theorem comparisonExit {drafts : List Generation} :
    (ofComparisons drafts).exitCode = 0 ↔ ∀ draft ∈ drafts, draft.changed = false := by
  simp only [ofComparisons]
  split <;> simp_all [ofLines]

theorem upToDateUnwritten {tree : FileTree} {targets : List Target} {drafts : List Generation}
    (settled : UpToDate tree targets drafts) : ∀ draft ∈ drafts, draft.written = false := by
  induction settled with
  | nil => nofun
  | cons head tail ih =>
    obtain ⟨spec, source, current, -, -, -, rfl⟩ := draftOutcome.mp head.1
    exact List.forall_mem_cons.mpr ⟨rfl, ih⟩

theorem generateTells {tree : FileTree} {choices : Choices} {targets : List Target}
    (unforced : choices.force = false) :
    (perform tree .generate choices targets).2.exitCode = 0 ∧
      TellsUnchanged targets (perform tree .generate choices targets).2.printed ↔
      ∃ drafts, UpToDate tree targets drafts := by
  rcases ran : generateAll false tree targets with ⟨after, report⟩
  simp only [perform, unforced, ran]
  constructor
  · intro ⟨ends, told⟩
    obtain ⟨results, ok, -⟩ := reportExit.mp ends
    simp only [ofReport, ok] at told
    have answer : (generateAll false tree targets).2.outcome = .ok results := by rw [ran, ok]
    have runs := generatedRuns answer
    exact ⟨results, runsUpToDate runs ((unchangedLines (runsOutputs runs)).mp told)⟩
  · intro ⟨drafts, settled⟩
    have answer := (upToDateRuns settled).2
    have lines := (unchangedLines (runsOutputs (generatedRuns answer))).mpr (upToDateUnwritten settled)
    simp only [ran] at answer
    refine ⟨reportExit.mpr ⟨drafts, answer, rfl⟩, ?_⟩
    simp only [ofReport, answer]
    exact lines

theorem generateKeeps {tree : FileTree} {choices : Choices} {targets : List Target}
    {drafts : List Generation} (unforced : choices.force = false)
    (settled : UpToDate tree targets drafts) : (perform tree .generate choices targets).1 = tree := by
  have kept := (upToDateRuns settled).1
  rcases ran : generateAll false tree targets with ⟨after, report⟩
  rw [ran] at kept
  simp only [perform, unforced, ran]
  exact kept

/-! ### Commands -/

section

variable {tree : FileTree} {args : List String} {level : Level} {action : Action} {choices : Choices}
  {targets : List Target}

theorem runFound (asks : Request.ofArguments args = .run level action choices)
    (found : (resolveTargets tree choices).outcome = .ok (.found targets)) :
    ∃ log, run tree args = ((perform tree action choices targets).1,
      { (perform tree action choices targets).2 with log := log }) := by
  simp only [run, asks, execute, found]
  exact ⟨_, rfl⟩

theorem runUnfound (asks : Request.ofArguments args = .run level action choices)
    (unfound : ∀ targets, (resolveTargets tree choices).outcome ≠ .ok (.found targets)) :
    (run tree args).1 = tree ∧ (run tree args).2.exitCode ≠ 0 := by
  simp only [run, asks, execute]
  split
  · exact ⟨rfl, failureExit _⟩
  · simp [usageCode]
  · rename_i found
    exact absurd found (unfound _)

theorem endsExactly {ends : Prop} (asks : Request.ofArguments args = .run level action choices)
    (well : ends → (run tree args).2.exitCode = 0)
    (met : ∀ targets, (resolveTargets tree choices).outcome = .ok (.found targets) →
      (ends ↔ ∃ drafts, UpToDate tree targets drafts)) :
    ends ↔ ∃ targets drafts, (resolveTargets tree choices).outcome = .ok (.found targets) ∧
      UpToDate tree targets drafts := by
  constructor
  · intro ended
    by_cases found : ∃ targets, (resolveTargets tree choices).outcome = .ok (.found targets)
    · obtain ⟨targets, found⟩ := found
      obtain ⟨drafts, settled⟩ := (met targets found).mp ended
      exact ⟨targets, drafts, found, settled⟩
    · exact absurd (well ended) (runUnfound asks fun targets same => found ⟨targets, same⟩).2
  · intro ⟨targets, drafts, found, settled⟩
    exact (met targets found).mpr ⟨drafts, settled⟩

theorem checkExit (asks : Request.ofArguments args = .run level .check choices) :
    (run tree args).2.exitCode = 0 ↔
      ∃ targets drafts, (resolveTargets tree choices).outcome = .ok (.found targets) ∧
        UpToDate tree targets drafts := by
  refine endsExactly asks id fun targets found => ?_
  obtain ⟨log, ran⟩ := runFound asks found
  simp only [ran, perform, reportExit, comparisonExit, comparedUpToDate]

theorem generateExit (asks : Request.ofArguments args = .run level .generate choices)
    (unforced : choices.force = false) :
    (run tree args).2.exitCode = 0 ∧ TellsUnchanged (targetsOf tree choices) (run tree args).2.printed ↔
      ∃ targets drafts, (resolveTargets tree choices).outcome = .ok (.found targets) ∧
        UpToDate tree targets drafts := by
  refine endsExactly asks And.left fun targets found => ?_
  obtain ⟨log, ran⟩ := runFound asks found
  simp only [ran, targetsOf, found, generateTells unforced]

theorem checkKeeps (asks : Request.ofArguments args = .run level .check choices) :
    (run tree args).1 = tree := by
  simp only [run, asks, execute]
  split <;> rfl

/-- Checking ends well exactly if generating, with the same choices, ends well and tells of every module
that it is unchanged. Generating leaves the tree as it was then, and checking always does. -/
theorem checkPredictsGenerate (tree : FileTree) {checking generating : List String}
    {level other : Level} {choices : Choices}
    (checks : Request.ofArguments checking = .run level .check choices)
    (generates : Request.ofArguments generating = .run other .generate choices) :
    ((run tree checking).2.exitCode = 0 ↔
      (run tree generating).2.exitCode = 0 ∧
        TellsUnchanged (targetsOf tree choices) (run tree generating).2.printed) ∧
    ((run tree checking).2.exitCode = 0 → (run tree generating).1 = tree) ∧
    (run tree checking).1 = tree := by
  have unforced := checkUnforced checks
  refine ⟨(checkExit checks).trans (generateExit generates unforced).symm, ?_, checkKeeps checks⟩
  intro ends
  obtain ⟨targets, drafts, found, settled⟩ := (checkExit checks).mp ends
  obtain ⟨log, ran⟩ := runFound generates found
  rw [ran]
  exact generateKeeps unforced settled

end

def greetingOptions : List String := ["-b", "messages", "-s", "i18n", "--output=gen/greetings.py"]

def greetingChoices : Choices where
  bundle := some "messages"
  sourceDir := some "i18n"
  output := some "gen/greetings.py"

def settledTree : FileTree :=
  (writeText (twoFiles "messages_fr.properties") greetingTarget.output placedGreeter.source).1

theorem greetingResolved (tree : FileTree) :
    (resolveTargets tree greetingChoices).outcome = .ok (.found [greetingTarget]) := by
  have auto : Text.lower "auto" = "auto" := by decide +kernel
  have camel : Text.lower "camel" = "camel" := by decide +kernel
  have made : targetOf greetingChoices "messages" "i18n" "gen/greetings.py" = greetingTarget := by
    simp only [targetOf, greetingChoices, auto, camel]
    rfl
  have checked : greetingTarget.check none = .ok () := by decide +kernel
  have direct : resolveTargets tree greetingChoices =
      (ofExcept ((targetOf greetingChoices "messages" "i18n" "gen/greetings.py").check none) >>=
        fun _ => pure (.found [targetOf greetingChoices "messages" "i18n" "gen/greetings.py"])) := rfl
  rw [direct, made]
  exact bindOutcomeOk.mpr ⟨(), checked, rfl⟩

theorem greetingSettled : ∃ draft, UpToDate settledTree [greetingTarget] [draft] := by
  obtain ⟨left, wrote⟩ := greetingWrites placedGreeter.source
  obtain ⟨place, written⟩ := textWritten wrote
  have tree : settledTree = left := by
    unfold settledTree
    rw [wrote]
  have reads := Text.unifiedAlready (draftNoReturn (by decide) greetingDrafted)
  have again := draftAgain greetingDrafted written reads (by decide) (by decide)
  rw [tree]
  exact ⟨_, .cons ⟨again, rfl⟩ .nil⟩

theorem greetingPredicted :
    Request.ofArguments ("check" :: greetingOptions) = .run .warning .check greetingChoices ∧
    Request.ofArguments ("-v" :: "generate" :: greetingOptions) = .run .debug .generate greetingChoices ∧
    (run settledTree ("check" :: greetingOptions)).2.exitCode = 0 ∧
    (run settledTree ("-v" :: "generate" :: greetingOptions)).2.exitCode = 0 ∧
    (run settledTree ("-v" :: "generate" :: greetingOptions)).1 = settledTree := by
  have checks : Request.ofArguments ("check" :: greetingOptions) =
      .run .warning .check greetingChoices := by decide +kernel
  have generates : Request.ofArguments ("-v" :: "generate" :: greetingOptions) =
      .run .debug .generate greetingChoices := by decide +kernel
  obtain ⟨draft, settled⟩ := greetingSettled
  obtain ⟨predicts, keeps, -⟩ := checkPredictsGenerate settledTree checks generates
  have ends := (checkExit checks).mpr ⟨_, _, greetingResolved settledTree, settled⟩
  exact ⟨checks, generates, ends, (predicts.mp ends).1, keeps ends⟩

end Phrasebook.Command

import Phrasebook.Command.Arguments
import Phrasebook.Declaration
import Phrasebook.Generation
import Phrasebook.Json.Text

/-!
The commands: generating the modules of targets, checking them against their outputs, and listing their
methods. A command stops at the first target that fails; what it generated before stays.
-/

namespace Phrasebook.Command

open Number Text

structure Printed where
  lines : List String := []
  errors : List String := []
  deriving DecidableEq, Repr

structure Outcome where
  exitCode : Nat
  printed : Option Printed
  log : List Record := []
  breach : Option Breach := none

def usageCode : Nat := 2

inductive Targets where
  | found (targets : List Target)
  | unclear (line : String)

def namedBundle (choices : Choices) : Option String := choices.bundle.filter (!·.isEmpty)

def targetOf (choices : Choices) (bundle sourceDir output : String) : Target :=
  { bundle := bundle
    sourceDir := Path.ofString sourceDir
    output := Path.ofString output
    mode := lower choices.mode
    className := .text choices.className
    delimiter := .text choices.delimiter
    naming := lower choices.naming
    catalogDir := Issue.optionalText choices.catalogDir }

def resolveTargets (tree : FileTree) (choices : Choices) : Report Targets := do
  match namedBundle choices, choices.sourceDir, choices.output with
  | some bundle, some sourceDir, some output =>
    let target := targetOf choices bundle sourceDir output
    Report.ofExcept (target.check none)
    pure (.found [target])
  | none, none, none =>
    let file ← match choices.config with
      | some config => pure (some (Path.ofString config))
      | none => Declaration.find tree none
    match file with
    | some path => do pure (.found (← Declaration.load tree path))
    | none =>
      pure (.unclear
        "Error: no declaration found; pass --config or --bundle/--source-dir/--output")
  | _, _, _ =>
    pure (.unclear "Error: --bundle, --source-dir and --output must be given together")

def generateAll (force : Bool) (tree : FileTree) :
    List Target → FileTree × Report (List Generation)
  | [] => (tree, pure [])
  | target :: rest =>
    let (after, first) := target.generate force tree
    match first.outcome with
    | .error failure => (after, ⟨first.log, .error failure⟩)
    | .ok generation =>
      let (last, others) := generateAll force after rest
      (last, ⟨first.log ++ others.log, others.outcome.map fun rest => generation :: rest⟩)

def compareAll (tree : FileTree) : List Target → Report (List Generation)
  | [] => pure []
  | target :: rest => do
    let generation ← target.compare tree
    let others ← compareAll tree rest
    pure (generation :: others)

def specAll (tree : FileTree) : List Target → Report (List Accessor.Spec)
  | [] => pure []
  | target :: rest => do
    let spec ← target.spec tree
    let others ← specAll tree rest
    pure (spec :: others)

/-! ### What is printed -/

def generatedLine (g : Generation) : String :=
  g.output.text ++ ": " ++ (if g.written then "generated" else "unchanged") ++ " (" ++
    natText g.spec.descriptors.length ++ " methods)"

def comparedLine (g : Generation) : String :=
  g.output.text ++ ": " ++ (if g.changed then "stale" else "ok")

def parameterNames (d : Accessor.Descriptor) : List String :=
  d.parameters.map Accessor.Parameter.name

def listedLines (spec : Accessor.Spec) : List String :=
  let locales := if spec.locales.isEmpty then "none" else commaSeparated spec.locales
  (spec.className ++ " (bundle '" ++ spec.bundle ++ "', " ++ spec.mode.name ++ ", locales: " ++
      locales ++ ")") ::
    spec.descriptors.map fun d =>
      "  " ++ d.method ++ "(" ++ commaSeparated ("locale" :: parameterNames d) ++ ")  <- " ++ d.key

def textMap (entries : List (String × Value)) : Value :=
  .map (entries.map fun (name, v) => (.text name, v))

def listedValue (spec : Accessor.Spec) : Value :=
  textMap
    [("bundle", .text spec.bundle), ("class_name", .text spec.className),
      ("mode", .text spec.mode.name), ("locales", Issue.texts spec.locales),
      ("methods", .list (spec.descriptors.map fun d => textMap
        [("key", .text d.key), ("method", .text d.method), ("mode", .text d.mode.name),
          ("parameters", Issue.texts (parameterNames d))]))]

def failureLines : Failure → List String
  | .validation bundle issues =>
    ("Error: bundle '" ++ bundle ++ "' failed validation:") ::
      issues.map fun issue => "  - " ++ issue.message
  | failure =>
    ("Error: " ++ failure.message) :: (failure.hint.map fun hint => "Hint: " ++ hint).toList

def ofFailure : Failure → Outcome
  | .breach breach => { exitCode := 1, printed := some {}, breach := some breach }
  | failure => { exitCode := failure.code, printed := some { errors := failureLines failure } }

def ofLines (lines : List String) : Outcome := { exitCode := 0, printed := some { lines := lines } }

def ofComparisons (generations : List Generation) : Outcome :=
  let lines := generations.map comparedLine
  let stale := generations.filter Generation.changed
  if stale.isEmpty then ofLines lines
  else
    { exitCode := 1
      printed := some
        { lines := lines
          errors := [natText stale.length ++
            " generated module(s) out of date; run 'typedbundle generate'"] } }

def ofSpecs (json : Bool) (specs : List Accessor.Spec) : Outcome :=
  if json then ofLines [Json.render 0 (.list (specs.map listedValue))]
  else ofLines (specs.flatMap listedLines)

def ofReport {α : Type} (report : Report α) (print : α → Outcome) : Outcome :=
  match report.outcome with
  | .ok value => { print value with log := report.log }
  | .error failure => { ofFailure failure with log := report.log }

/-! ### Commands -/

def perform (tree : FileTree) (action : Action) (choices : Choices) (targets : List Target) :
    FileTree × Outcome :=
  match action with
  | .generate =>
    let (after, report) := generateAll choices.force tree targets
    (after, ofReport report fun generations => ofLines (generations.map generatedLine))
  | .check => (tree, ofReport (compareAll tree targets) ofComparisons)
  | .inspect => (tree, ofReport (specAll tree targets) (ofSpecs choices.json))

def execute (tree : FileTree) (action : Action) (choices : Choices) : FileTree × Outcome :=
  let targets := resolveTargets tree choices
  match targets.outcome with
  | .error failure => (tree, { ofFailure failure with log := targets.log })
  | .ok (.unclear line) =>
    (tree,
      { exitCode := usageCode, printed := some { errors := [line] }, log := targets.log })
  | .ok (.found found) =>
    let (after, outcome) := perform tree action choices found
    (after, { outcome with log := targets.log ++ outcome.log })

/-- Runs the program with its arguments. Only records from the level of its options on are logged. -/
def run (tree : FileTree) (args : List String) : FileTree × Outcome :=
  match Request.ofArguments args with
  | .help => (tree, { exitCode := 0, printed := none })
  | .misuse => (tree, { exitCode := usageCode, printed := none })
  | .run level action choices =>
    let (after, outcome) := execute tree action choices
    (after,
      { outcome with log := outcome.log.filter fun record => level.rank ≤ record.level.rank })

end Phrasebook.Command

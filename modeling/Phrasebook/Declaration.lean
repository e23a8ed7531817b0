import Phrasebook.Document
import Phrasebook.Target

/-!
Declaration files. A declaration lists its targets under `bundles`; its other entries are defaults for
each of them. It is looked for under a few fixed names, last as a table of a project file.
-/

namespace Phrasebook.Declaration

def projectFile : String := "pyproject.toml"

def fileNames : List String :=
  ["typedbundle.yaml", "typedbundle.yml", "typedbundle.json", "typedbundle.toml"]

def refuse {α : Type} (path : Path) (reason : DeclarationReason) : Except Failure α :=
  .error (.declaration reason (some path.text))

def readFailure (path : Path) : FileTree.ReadFault → Failure
  | .file .nullCharacter => .breach .value
  | .file fault => .declaration (.unreadable fault path.text) (some path.text)
  | .decoding _ => .breach .decoding

def documentFailure (path : Path) : Document.Fault → Failure
  | .json text => .declaration (.json text) (some path.text)
  | .yaml => .declaration .yaml (some path.text)
  | .toml => .declaration .toml (some path.text)
  | .breach breach => .breach breach

def tableIn (name : String) : Value → Except Failure Value
  | .map entries => .ok ((Value.lookup entries (.text name)).getD (.map []))
  | _ => .error (.breach .attribute)

def inProject (v : Value) : Except Failure Value := do
  let tools ← tableIn "tool" v
  tableIn "typedbundle" tools

def readToml (path : Path) (text : String) : Except Failure Value := do
  let v ← (Document.readToml text).mapError (documentFailure path)
  if path.name = projectFile then inProject v else .ok v

def readValue (path : Path) (text : String) : Except Failure Value :=
  let suffix := Text.lower path.suffix
  if suffix = ".yaml" || suffix = ".yml" then
    (Document.readYamlOrEmpty text).mapError (documentFailure path)
  else if suffix = ".json" then (Document.readJson text).mapError (documentFailure path)
  else if suffix = ".toml" then readToml path text
  else refuse path (.unsupported suffix)

def read (tree : FileTree) (path : Path) : Except Failure (List (Value × Value)) := do
  let text ← (tree.readText path).mapError (readFailure path)
  match ← readValue path text with
  | .map entries => .ok entries
  | _ => refuse path .notMapping

def targetEntries (path : Path) (defaults : List (Value × Value)) :
    Value → Except Failure (List (Value × Value))
  | .map entries => .ok (Value.putAll defaults entries)
  | v => do
    let literal ← Target.written v.literal?
    refuse path (.entryNotMapping literal)

def targets (path directory : Path) (defaults : List (Value × Value)) :
    List Value → Report (List Target)
  | [] => pure []
  | item :: rest => do
    let entries ← Report.ofExcept (targetEntries path defaults item)
    let target ← Target.ofEntries (some directory) (some path.text) entries
    let others ← targets path directory defaults rest
    pure (target :: others)

def sharedOutput? (seen : List Path) : List Target → Option Path
  | [] => none
  | target :: rest =>
    if seen.contains target.output then some target.output
    else sharedOutput? (target.output :: seen) rest

/-- The targets in the entries of a declaration; no two of them may have one output. -/
def ofEntries (tree : FileTree) (path : Path) (entries : List (Value × Value)) :
    Report (List Target) := do
  match Value.lookup entries (.text "bundles") with
  | some (.list (first :: rest)) =>
    let defaults := entries.filter fun entry => !entry.1.sameKey (.text "bundles")
    let directory := Path.absolute (path.parent.resolve tree.base)
    let targets ← targets path directory defaults (first :: rest)
    match sharedOutput? [] targets with
    | some output => .fail (.declaration (.sharedOutput output.text) (some path.text))
    | none =>
      Report.record (.unitsLoaded targets.length path.text)
      pure targets
  | _ => .fail (.declaration .noBundles (some path.text))

def load (tree : FileTree) (path : Path) : Report (List Target) := do
  if ← Report.ofFiles (tree.isFile path) then
    let entries ← Report.ofExcept (read tree path)
    ofEntries tree path entries
  else .fail (.declaration (.notFound path.text) (some path.text))

/-- Whether a value names the tool: a map by a key, a list by an item, a text by a part of it. -/
def mentionsTool (v : Value) : Except Failure Bool :=
  let tool := "typedbundle"
  match v with
  | .map entries => .ok (Value.lookup entries (.text tool)).isSome
  | .list items => .ok (items.any (·.sameKey (.text tool)))
  | .text text => .ok (1 < (Text.pieces tool.toList text.toList).length)
  | _ => .error (.breach .type)

def declaresIn (tree : FileTree) (path : Path) : Report Bool :=
  match tree.readText path with
  | .error (.decoding _) => .fail (.breach .decoding)
  | .error (.file _) => do
    Report.record (.declarationUnreadable path.text)
    pure false
  | .ok text =>
    match Document.readToml text with
    | .error (.breach breach) => .fail (.breach breach)
    | .error _ => do
      Report.record (.declarationUnreadable path.text)
      pure false
    | .ok v => .ofExcept do
      let tools ← tableIn "tool" v
      mentionsTool tools

def find (tree : FileTree) (directory : Option String) : Report (Option Path) := do
  let directory := match directory with
    | some text => if text.isEmpty then Path.absolute tree.base else Path.ofString text
    | none => Path.absolute tree.base
  let here (name : String) : Path := directory.join (Path.ofString name)
  match ← Report.ofFiles (tree.firstFile (fileNames.map here)) with
  | some path => pure (some path)
  | none =>
    let project := here projectFile
    if ← Report.ofFiles (tree.isFile project) then
      if ← declaresIn tree project then pure (some project) else pure none
    else pure none

end Phrasebook.Declaration

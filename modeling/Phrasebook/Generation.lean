import Phrasebook.Accessor.Source
import Phrasebook.Catalog.Directory
import Phrasebook.Target

/-!
Generation of the modules of targets. The source of a module is computed from the catalogs and compared
with the file at the output; generating writes it when the two differ, checking only tells.
-/

namespace Phrasebook

structure Generation where
  spec : Accessor.Spec
  source : String
  output : Path
  changed : Bool
  written : Bool := false

namespace Target

def placeOf (tree : FileTree) (path : Path) : Except Failure (List String) :=
  (tree.resolve path).mapError fun fault => .breach (.file fault)

/-- The directory that the generated module loads catalogs from, and whether it is read from the
module's own directory. -/
def runtimeDirectory (tree : FileTree) (t : Target) : Except Failure (Path × Bool) := do
  if t.catalogDir.isGiven then
    let path ← pathOf t.catalogDir
    .ok (path, !path.isAbsolute)
  else
    let source ← placeOf tree t.sourceDir
    let output ← placeOf tree t.output.parent
    .ok (Path.between output source, true)

/-- The accessor of catalogs as a target asks for it. A delimiter that is no text cannot cut a key, but
it does no harm as long as no key is accepted. -/
def accessorOf (t : Target) (options : Accessor.Options) (catalogs : CatalogSet) :
    Report Accessor.Spec := do
  match t.delimiter with
  | .text delimiter => Accessor.build { options with delimiter := delimiter } catalogs
  | v =>
    let (_, shapes) ← Accessor.extractAll catalogs.bundle catalogs.default
      catalogs.default.messages.entries
    if v.isGiven && !shapes.isEmpty then .fail (.breach .type)
    else Accessor.build { options with delimiter := "" } catalogs

def classNameText (t : Target) : String :=
  if t.className.isGiven then (t.className.text?).getD "" else ""

def spec (tree : FileTree) (t : Target) : Report Accessor.Spec := do
  let directory : Catalog.Directory := { path := t.sourceDir }
  let catalogs ← (directory.source tree).loadSet t.bundle
  match Accessor.Options.ofNames? (some t.mode) t.naming with
  | none => .fail (.breach .value)
  | some options =>
    let spec ← t.accessorOf { options with className := t.classNameText } catalogs
    let (path, relative) ← Report.ofExcept (t.runtimeDirectory tree)
    pure { spec with catalogDir := path.text, isRelative := relative }

def currentText (tree : FileTree) (path : Path) : Except Failure (Option String) :=
  match tree.isFile path with
  | .error fault => .error (.breach (.file fault))
  | .ok false => .ok none
  | .ok true =>
    match tree.readText path with
    | .ok text => .ok (some text)
    | .error (.decoding _) => .error (.breach .decoding)
    | .error (.file fault) => .error (.breach (.file fault))

def draft (tree : FileTree) (t : Target) : Report Generation := do
  let spec ← t.spec tree
  let source ← Accessor.render spec
  let current ← Report.ofExcept (currentText tree t.output)
  pure { spec := spec, source := source, output := t.output, changed := current ≠ some source }

def compare (tree : FileTree) (t : Target) : Report Generation := do
  let draft ← t.draft tree
  if draft.changed then
    Report.record (.outOfDate t.output.text t.bundle)
    pure draft
  else pure draft

/-- Writes a text and the missing directories before it. What was made before a fault stays. -/
def writeText (tree : FileTree) (path : Path) (text : String) : FileTree × Option FileFault :=
  match tree.makeDirectories path.parent with
  | (made, some fault) => (made, some fault)
  | (made, none) =>
    match made.write path text.toUTF8 with
    | .ok written => (written, none)
    | .error fault => (made, some fault)

/-- Writes the module of a target if it differs from its output, or in any case when `force` is set. -/
def generate (force : Bool) (tree : FileTree) (t : Target) : FileTree × Report Generation :=
  let drafted := t.draft tree
  match drafted.outcome with
  | .error failure => (tree, ⟨drafted.log, .error failure⟩)
  | .ok draft =>
    if draft.changed || force then
      match writeText tree t.output draft.source with
      | (left, some fault) => (left, ⟨drafted.log, .error (.breach (.file fault))⟩)
      | (left, none) =>
        (left, ⟨drafted.log ++ [.wrote t.output.text draft.spec.descriptors.length],
          .ok { draft with written := true }⟩)
    else (tree, ⟨drafted.log ++ [.upToDate t.output.text], .ok draft⟩)

end Target

end Phrasebook

import Phrasebook.Catalog.File
import Phrasebook.Catalog.Source

/-!
A directory of catalog files as a source. The file of a bundle has the bundle's name, with an
underscore and the locale behind it for a variant, and one of the extensions; the first extension that
names a file counts.
-/

namespace Phrasebook.Catalog

structure Directory where
  path : Path
  extensions : List String := [".properties", ".json", ".yaml", ".yml"]
  deriving DecidableEq, Repr

namespace Directory

def stemOf (bundle locale : String) : String :=
  if locale.isEmpty then bundle else bundle ++ "_" ++ locale

def candidates (d : Directory) (bundle locale : String) : List Path :=
  d.extensions.map fun extension => d.path.join (Path.ofString (stemOf bundle locale ++ extension))

/-- The file of a catalog. Requests that have not the shape of a locale have none, so that the file of
a sibling bundle is not taken for a variant. -/
def pathFor (d : Directory) (tree : FileTree) (bundle locale : String) :
    Except FileFault (Option Path) :=
  let locale := Locale.normalize (some locale)
  if !locale.isEmpty && !Locale.isTag locale then .ok none
  else tree.firstFile (d.candidates bundle locale)

def find (d : Directory) (tree : FileTree) (bundle locale : String) : Report (Option Catalog) := do
  let locale := Locale.normalize (some locale)
  match ← Report.ofFiles (d.pathFor tree bundle locale) with
  | none => pure none
  | some path =>
    let messages ← Report.ofExcept (messagesOfFile tree path (some bundle))
    Report.record (.readKeys messages.size path.text)
    let catalog ← Report.ofExcept (Catalog.make bundle locale messages (some path))
    pure (some catalog)

/-- What a file name says behind the name of a bundle and an underscore, if its extension counts. -/
def tagIn? (d : Directory) (bundle name : String) : Option String :=
  let path := Path.ofString name
  let stem := path.stem.toList
  let opening := (bundle ++ "_").toList
  if d.extensions.contains (Text.lower path.suffix) && opening.isPrefixOf stem then
    some (String.ofList (stem.drop opening.length))
  else none

/-- The variants of a bundle in a directory; names of another shape are passed over. -/
def locales (d : Directory) (tree : FileTree) (bundle : String) : Report (List String) := do
  if !(← Report.ofFiles (tree.isDirectory d.path)) then pure []
  else
    let place ← Report.ofFiles (tree.locate d.path)
    let tagged := (tree.fileNames place).filterMap fun name =>
      (d.tagIn? bundle name).map fun tag => (name, tag)
    let ignored := tagged.filter fun entry => !Locale.isTag entry.2
    let found := tagged.filter fun entry => Locale.isTag entry.2
    let log := ignored.map fun (name, tag) => Record.ignoredFile name tag
    ⟨log, .ok (found.map fun entry => Locale.normalize (some entry.2)).eraseDups.mergeSort⟩

def source (d : Directory) (tree : FileTree) : Source where
  find := d.find tree
  locales := d.locales tree
  searched bundle locale := (d.candidates bundle locale).map Path.text

end Directory

end Phrasebook.Catalog

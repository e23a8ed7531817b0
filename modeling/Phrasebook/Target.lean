import Phrasebook.Report
import Phrasebook.Value.Order

/-!
Targets: one bundle, where its catalogs lie, and the module to write for it. A target is read from the
entries of a declaration, whose values can be of any kind, and checked field by field; the first faulty
field decides. Main statement: a checked target has a well-formed bundle name, mode, naming and output.
-/

namespace Phrasebook

open Text

structure Target where
  bundle : String
  sourceDir : Path
  output : Path
  mode : String := "auto"
  className : Value := .text ""
  delimiter : Value := .text "."
  naming : String := "camel"
  /-- Where the generated module finds the catalogs, from its own directory; the source directory
  unless given. -/
  catalogDir : Value := .null
  extra : List (Value × Value) := []

namespace Target

def isBundleName (name : String) : Bool :=
  !name.isEmpty && name.toList.all fun c => isAsciiAlnum c || c = '_' || c = '.' || c = '-'

def requiredNames : List String := ["bundle", "source_dir", "output"]

def fieldNames : List String :=
  ["bundle", "source_dir", "output", "mode", "class_name", "key_delimiter", "naming", "catalog_dir"]

def refuse {α : Type} (file : Option String) (reason : DeclarationReason) : Except Failure α :=
  .error (.declaration reason file)

def written (text? : Option String) : Except Failure String :=
  match text? with
  | some text => .ok text
  | none => .error (.breach .value)

/-- The bundle name in a value. Nothing at all is an invalid name, but what is no text is not even
looked at. -/
def bundleOf (file : Option String) : Value → Except Failure String
  | .text name =>
    if isBundleName name then .ok name else refuse file (.bundleName (quoted name))
  | v =>
    if v.isGiven then .error (.breach .type)
    else do
      let literal ← written v.literal?
      refuse file (.bundleName literal)

def checkMode (file : Option String) (bundle mode : String) : Except Failure Unit :=
  if DeclarationReason.modeNames.contains mode then .ok ()
  else refuse file (.mode (quoted mode) bundle)

def checkNaming (file : Option String) (bundle naming : String) : Except Failure Unit :=
  if DeclarationReason.namingNames.contains naming then .ok ()
  else refuse file (.naming (quoted naming) bundle)

def checkClassName (file : Option String) (bundle : String) (className : Value) :
    Except Failure Unit :=
  if !className.isGiven then .ok ()
  else
    match className with
    | .text name =>
      if isAsciiName name.toList then .ok () else refuse file (.className (quoted name) bundle)
    | _ => .error (.breach .type)

def checkDelimiter (file : Option String) (bundle : String) (delimiter : Value) :
    Except Failure Unit :=
  if delimiter.isGiven then .ok () else refuse file (.emptyDelimiter bundle)

def checkOutput (file : Option String) (bundle : String) (output : Path) : Except Failure Unit :=
  if output.suffix = ".py" then .ok () else refuse file (.outputSuffix bundle output.text)

/-- Checks the fields of a target in order; `file` is the declaration it comes from. -/
def check (file : Option String) (t : Target) : Except Failure Unit := do
  let _ ← bundleOf file (.text t.bundle)
  checkMode file t.bundle t.mode
  checkNaming file t.bundle t.naming
  checkClassName file t.bundle t.className
  checkDelimiter file t.bundle t.delimiter
  checkOutput file t.bundle t.output

def pathOf : Value → Except Failure Path
  | .text text => .ok (Path.ofString text)
  | _ => .error (.breach .type)

def pathFrom (directory : Option Path) (v : Value) : Except Failure Path := do
  let path ← pathOf v
  .ok (match directory with
    | some directory => directory.join path
    | none => path)

def wordOf (v : Value) : Except Failure String := do
  let text ← written v.text?
  .ok (lower text)

def field (entries : List (Value × Value)) (name : String) (default : Value) : Value :=
  (Value.lookup entries (.text name)).getD default

def isField (key : Value) : Bool :=
  match key with
  | .text name => fieldNames.contains name
  | _ => false

/-- The target in entries, with paths read from `directory`; nothing is checked but what a path and a
word must be. -/
def ofFields (directory : Option Path) (entries : List (Value × Value)) :
    Except Failure (String → Target) := do
  let sourceDir ← pathFrom directory (field entries "source_dir" .null)
  let output ← pathFrom directory (field entries "output" .null)
  let mode ← wordOf (field entries "mode" (.text "auto"))
  let naming ← wordOf (field entries "naming" (.text "camel"))
  .ok fun bundle =>
    { bundle := bundle
      sourceDir := sourceDir
      output := output
      mode := mode
      className := field entries "class_name" (.text "")
      delimiter := field entries "key_delimiter" (.text ".")
      naming := naming
      catalogDir := field entries "catalog_dir" .null
      extra := entries.filter fun entry => !isField entry.1 }

/-- The log of entries that mean nothing. Their keys are logged in order, which keys of different kinds
do not have. -/
def unknownKeys (keys : List Value) : Report Unit :=
  if keys.isEmpty then pure ()
  else
    match Value.sorted? keys with
    | none => .fail (.breach .type)
    | some keys => .record (.unknownKeys ((Value.list keys).literal?.getD ""))

/-- The checked target of entries. Paths are read from `directory`, and `file` is the declaration the
entries come from. -/
def ofEntries (directory : Option Path) (file : Option String) (entries : List (Value × Value)) :
    Report Target := do
  let missing := requiredNames.filter fun name => (Value.lookup entries (.text name)).isNone
  if !missing.isEmpty then
    let data ← Report.ofExcept (written (Value.map entries).literal?)
    .fail (.declaration (.missing missing data) file)
  else
    unknownKeys ((entries.map Prod.fst).filter fun key => !isField key)
    let make ← Report.ofExcept (ofFields directory entries)
    let bundle ← Report.ofExcept (bundleOf file (field entries "bundle" .null))
    let target := make bundle
    Report.ofExcept (target.check file)
    pure target

def toEntries (t : Target) : List (String × Value) :=
  [("bundle", .text t.bundle), ("source_dir", .text t.sourceDir.text),
    ("output", .text t.output.text), ("mode", .text t.mode), ("class_name", t.className),
    ("key_delimiter", t.delimiter), ("naming", .text t.naming), ("catalog_dir", t.catalogDir),
    ("extra", .map t.extra)]

end Target

end Phrasebook

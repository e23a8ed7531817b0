import Phrasebook.FileTree
import Phrasebook.Mode
import Phrasebook.Locale
import Phrasebook.Value.Text

/-!
What can go wrong. An issue is a finding about a catalog or a template, with the bundle, locale and
key it belongs to; a failure ends an operation, with one issue, with all issues of a validation, with
a faulty declaration, or with a breach: an event that the operation does not answer for. Wordings are
kept apart from causes.
-/

namespace Phrasebook

open Text Number

/-- Why a catalog file cannot be used. Only the JSON reader's own text is part of the message. -/
inductive FormatReason where
  | file (fault : FileFault) (path : String)
  | decoding (fault : Utf8.Fault)
  | json (text : String)
  | yaml
  | unsupported (suffix : String)
  | notMapping
  | emptyKey
  deriving DecidableEq, Repr

def FormatReason.message : FormatReason → String
  | .file fault path => fault.reason ++ ": " ++ quoted path
  | .decoding fault => fault.message
  | .json text => text
  | .yaml => "<yaml error>"
  | .unsupported suffix => "unsupported format " ++ suffix
  | .notMapping => "top level must be a mapping"
  | .emptyKey => "empty message key"

inductive ModeConflict where
  | mixes (positional named : String)
  /-- The mode of the template, the mode of the catalog, and the key that set it, if no declaration
  did. -/
  | differs (mode catalog : Mode) (setBy : Option String)
  deriving DecidableEq, Repr

def ModeConflict.message : ModeConflict → String
  | .mixes positional named => "mixes " ++ positional ++ " with " ++ named
  | .differs mode catalog setBy =>
    let source := match setBy with
      | some key => if key.isEmpty then "the declaration" else "key '" ++ key ++ "'"
      | none => "the declaration"
    "uses " ++ mode.name ++ " placeholders but the catalog is " ++ catalog.name ++
      " (from " ++ source ++ ")"

inductive Mismatch where
  | takesNone (tokens : List String)
  | otherMode (variant default : Mode)
  | beyondArity (tokens : List String) (arity : Nat)
  | undeclared (tokens : List String)
  deriving DecidableEq, Repr

def Mismatch.message : Mismatch → String
  | .takesNone tokens =>
    "uses " ++ commaSeparated tokens ++ " but the default template takes no arguments"
  | .otherMode variant default =>
    "uses " ++ variant.name ++ " placeholders but the default template uses " ++ default.name ++
      " placeholders"
  | .beyondArity tokens arity =>
    "references " ++ commaSeparated tokens ++ " beyond the default arity of " ++ natText arity
  | .undeclared tokens =>
    "references " ++ commaSeparated tokens ++ " not declared by the default template"

structure Place where
  bundle : Option String := none
  locale : Option String := none
  deriving DecidableEq, Repr

def Place.message (place : Place) : String :=
  let part (what : String) : Option String → List String
    | none => []
    | some name => if name.isEmpty then [] else [what ++ " '" ++ name ++ "'"]
  let parts := part "bundle" place.bundle ++ part "locale" place.locale
  if parts.isEmpty then "" else " (" ++ commaSeparated parts ++ ")"

inductive Issue where
  | catalogMissing (bundle locale : String) (searched : List String)
  | catalogFormat (path : String) (reason : FormatReason) (bundle : Option String)
  | malformed (key fragment : String) (position : Option Nat) (place : Place)
  | modeConflict (key : String) (conflict : ModeConflict) (place : Place)
  | inconsistent (bundle locale key : String) (mismatch : Mismatch)
  | collision (bundle method : String) (keys : List String)
  | invalidSource (bundle : String)
  deriving DecidableEq, Repr

namespace Issue

def message : Issue → String
  | catalogMissing bundle locale _ =>
    "Catalog not found: bundle '" ++ bundle ++ "'" ++
      (if locale.isEmpty then "" else " for locale '" ++ locale ++ "'")
  | catalogFormat path reason _ => "Cannot read catalog " ++ path ++ ": " ++ reason.message
  | malformed key fragment _ place =>
    "Malformed placeholder " ++ quoted fragment ++ " in key '" ++ key ++ "'" ++ place.message
  | modeConflict key conflict place =>
    "Inconsistent placeholder mode in key '" ++ key ++ "'" ++ place.message ++ ": " ++
      conflict.message
  | inconsistent bundle locale key mismatch =>
    "Locale '" ++ locale ++ "' of bundle '" ++ bundle ++ "' is inconsistent for key '" ++ key ++
      "': " ++ mismatch.message
  | collision bundle method keys =>
    "Keys " ++ commaSeparated (keys.map quoted) ++ " of bundle '" ++ bundle ++
      "' all map to method '" ++ method ++ "'"
  | invalidSource bundle =>
    "Generated accessor for bundle '" ++ bundle ++ "' is not valid Python"

/-- The number of an issue, which is also the exit code of a command that ends with it. -/
def code : Issue → Nat
  | catalogMissing .. => 10
  | catalogFormat .. => 11
  | malformed .. => 20
  | modeConflict .. => 21
  | inconsistent .. => 30
  | collision .. => 31
  | invalidSource .. => 1

def hint : Issue → Option String
  | catalogMissing .. => some "Check the source directory and the bundle name."
  | malformed .. =>
    some ("Use \x7b0\x7d, \x7b1\x7d, ... or \x7bname\x7d; " ++
      "write literal braces as \x7b\x7b and \x7d\x7d.")
  | inconsistent .. => some "The default catalog is authoritative; fix the variant template."
  | collision .. => some "Rename one of the keys."
  | _ => none

def optionalText : Option String → Value
  | some s => .text s
  | none => .null

def texts (items : List String) : Value := .list (items.map .text)

/-- The named parts of an issue; bundle, locale and key come first and may be absent. -/
def details : Issue → List (String × Value)
  | catalogMissing bundle locale searched =>
    [("bundle", .text bundle),
      ("locale", if locale.isEmpty then .null else .text locale), ("key", .null),
      ("searched", texts searched)]
  | catalogFormat path _ bundle =>
    [("bundle", optionalText bundle), ("locale", .null), ("key", .null), ("path", .text path)]
  | malformed key fragment position place =>
    [("bundle", optionalText place.bundle), ("locale", optionalText place.locale),
      ("key", .text key), ("fragment", .text fragment),
      ("position", match position with | some n => .int n | none => .null)]
  | modeConflict key _ place =>
    [("bundle", optionalText place.bundle), ("locale", optionalText place.locale),
      ("key", .text key)]
  | inconsistent bundle locale key mismatch =>
    [("bundle", .text bundle), ("locale", .text locale), ("key", .text key),
      ("mismatch", .text mismatch.message)]
  | collision bundle method keys =>
    [("bundle", .text bundle), ("locale", .null),
      ("key", match keys with | key :: _ => .text key | [] => .null),
      ("method_name", .text method), ("keys", texts keys)]
  | invalidSource bundle => [("bundle", .text bundle), ("locale", .null), ("key", .null)]

end Issue

inductive DeclarationReason where
  | notFound (path : String)
  | unreadable (fault : FileFault) (path : String)
  | json (text : String)
  | yaml
  | toml
  | unsupported (suffix : String)
  | notMapping
  | noBundles
  | entryNotMapping (entry : String)
  | missing (names : List String) (data : String)
  | bundleName (literal : String)
  | mode (literal bundle : String)
  | naming (literal bundle : String)
  | className (literal bundle : String)
  | emptyDelimiter (bundle : String)
  | outputSuffix (bundle output : String)
  | sharedOutput (output : String)
  deriving DecidableEq, Repr

namespace DeclarationReason

def modeNames : List String := ["auto", "positional", "named"]

def namingNames : List String := ["camel", "snake"]

def message : DeclarationReason → String
  | notFound path => "Declaration file not found: " ++ path
  | unreadable fault path =>
    "Cannot read declaration file: " ++ fault.reason ++ ": " ++ quoted path
  | json text => "Cannot parse declaration file: " ++ text
  | yaml => "Cannot parse declaration file: <yaml error>"
  | toml => "Cannot parse declaration file: <toml error>"
  | unsupported suffix => "Unsupported declaration format: " ++ suffix
  | notMapping => "Declaration must be a mapping"
  | noBundles => "Declaration must contain a non-empty 'bundles' list"
  | entryNotMapping entry => "Bundle entry must be a mapping: " ++ entry
  | missing names data =>
    "Bundle declaration is missing " ++ commaSeparated names ++ ": " ++ data
  | bundleName literal => "Invalid bundle name: " ++ literal
  | mode literal bundle =>
    "Invalid mode " ++ literal ++ " for bundle '" ++ bundle ++ "'; expected one of " ++
      commaSeparated modeNames
  | naming literal bundle =>
    "Invalid naming " ++ literal ++ " for bundle '" ++ bundle ++ "'; expected one of " ++
      commaSeparated namingNames
  | className literal bundle =>
    "Invalid class name " ++ literal ++ " for bundle '" ++ bundle ++ "'"
  | emptyDelimiter bundle => "Empty key delimiter for bundle '" ++ bundle ++ "'"
  | outputSuffix bundle output =>
    "Output for bundle '" ++ bundle ++ "' must be a .py file: " ++ output
  | sharedOutput output => "Two bundles write to " ++ output

def hint : DeclarationReason → String
  | noBundles =>
    "Add a 'bundles:' list with bundle, source_dir and output entries."
  | _ => "Check the declaration file format and values."

end DeclarationReason

inductive Breach where
  | value
  | type
  | attribute
  | overflow
  | decoding
  | emptyNumber
  | unknownWord
  | recursion
  | file (fault : FileFault)
  deriving DecidableEq, Repr

inductive Failure where
  | issue (issue : Issue)
  | validation (bundle : String) (issues : List Issue)
  | declaration (reason : DeclarationReason) (file : Option String)
  | breach (breach : Breach)
  deriving DecidableEq, Repr

namespace Failure

def message : Failure → String
  | issue i => i.message
  | validation bundle issues =>
    "\n".intercalate
      (("Bundle '" ++ bundle ++ "' failed validation with " ++ natText issues.length ++
          " error(s):") :: issues.map fun i => "  - " ++ i.message)
  | declaration reason _ => reason.message
  | breach _ => ""

def code : Failure → Nat
  | issue i => i.code
  | validation .. => 32
  | declaration .. => 40
  | breach _ => 1

def hint : Failure → Option String
  | issue i => i.hint
  | validation .. => none
  | declaration reason _ => some reason.hint
  | breach _ => none

def details : Failure → List (String × Value)
  | issue i => i.details
  | validation bundle issues =>
    [("bundle", .text bundle), ("locale", .null), ("key", .null),
      ("error_count", .int issues.length)]
  | declaration _ file => [("config_path", Issue.optionalText file)]
  | breach _ => []

end Failure

end Phrasebook

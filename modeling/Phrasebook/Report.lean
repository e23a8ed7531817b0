import Phrasebook.Issue

/-!
What an operation says: the records it logs and its outcome. Reports are composed in order; a failure
keeps what was logged before it. The laws of composition stand beside the definitions.
-/

namespace Phrasebook

open Number Text

inductive Level where
  | debug
  | info
  | warning
  | error
  deriving DecidableEq, Repr

def Level.name : Level → String
  | .debug => "DEBUG"
  | .info => "INFO"
  | .warning => "WARNING"
  | .error => "ERROR"

def Level.rank : Level → Nat
  | .debug => 10
  | .info => 20
  | .warning => 30
  | .error => 40

inductive Record where
  | readKeys (count : Nat) (path : String)
  | loaded (bundle : String) (keys : Nat) (locales : List String)
  | ignoredFile (name tag : String)
  | keyNotInDefault (bundle locale key : String)
  | invalid (bundle : String) (count : Nat)
  | built (descriptors : Nat) (bundle : String) (mode : Mode) (locales : Nat)
  | rendered (className : String) (methods length : Nat)
  | wrote (output : String) (methods : Nat)
  | upToDate (output : String)
  | outOfDate (output bundle : String)
  | resolved (bundle tag : String) (layers : List String)
  | variantSkipped (bundle tag : String)
  | unresolved (bundle : String) (locale : Option String)
  | keyMissing (key bundle label : String)
  | notFormatted (template : String)
  | unknownKeys (keys : String)
  | unitsLoaded (count : Nat) (path : String)
  | declarationUnreadable (path : String)
  deriving DecidableEq, Repr

namespace Record

def listLiteral (items : List String) : String :=
  "[" ++ commaSeparated (items.map quoted) ++ "]"

def level : Record → Level
  | readKeys .. => .debug
  | loaded .. => .debug
  | ignoredFile .. => .debug
  | keyNotInDefault .. => .warning
  | invalid .. => .error
  | built .. => .info
  | rendered .. => .debug
  | wrote .. => .info
  | upToDate .. => .info
  | outOfDate .. => .warning
  | resolved .. => .debug
  | variantSkipped .. => .warning
  | unresolved .. => .error
  | keyMissing .. => .debug
  | notFormatted .. => .warning
  | unknownKeys .. => .warning
  | unitsLoaded .. => .debug
  | declarationUnreadable .. => .warning

def channel : Record → String
  | readKeys .. => "typedbundle.catalog"
  | loaded .. => "typedbundle.catalog"
  | ignoredFile .. => "typedbundle.catalog"
  | keyNotInDefault .. => "typedbundle.model"
  | invalid .. => "typedbundle.model"
  | built .. => "typedbundle.model"
  | rendered .. => "typedbundle.generator"
  | wrote .. => "typedbundle.api"
  | upToDate .. => "typedbundle.api"
  | outOfDate .. => "typedbundle.api"
  | unknownKeys .. => "typedbundle.config"
  | unitsLoaded .. => "typedbundle.config"
  | declarationUnreadable .. => "typedbundle.config"
  | _ => "typedbundle.runtime"

def message : Record → String
  | readKeys count path => "Read " ++ natText count ++ " keys from " ++ path
  | loaded bundle keys locales =>
    "Loaded bundle '" ++ bundle ++ "': " ++ natText keys ++ " keys, locales=" ++
      listLiteral locales
  | ignoredFile name tag => "Ignoring " ++ name ++ ": '" ++ tag ++ "' is not a locale tag"
  | keyNotInDefault bundle locale key =>
    "Bundle '" ++ bundle ++ "' locale '" ++ locale ++ "' defines key '" ++ key ++
      "' missing from the default catalog; ignoring it"
  | invalid bundle count =>
    "Bundle '" ++ bundle ++ "' failed validation with " ++ natText count ++ " error(s)"
  | built descriptors bundle mode locales =>
    "Built " ++ natText descriptors ++ " descriptors for bundle '" ++ bundle ++ "' (" ++
      mode.name ++ " mode, " ++ natText locales ++ " locale(s))"
  | rendered className methods length =>
    "Rendered " ++ className ++ " with " ++ natText methods ++ " methods (" ++ natText length ++
      " bytes)"
  | wrote output methods => "Wrote " ++ output ++ " (" ++ natText methods ++ " methods)"
  | upToDate output => output ++ " is up to date"
  | outOfDate output bundle => output ++ " is out of date with bundle '" ++ bundle ++ "'"
  | resolved bundle tag layers =>
    "Resolved bundle '" ++ bundle ++ "' locale '" ++ Locale.label tag ++ "' from " ++
      listLiteral ("default" :: layers)
  | variantSkipped bundle tag =>
    "Skipping unreadable catalog for bundle '" ++ bundle ++ "' locale '" ++ tag ++ "'"
  | unresolved bundle locale =>
    "Cannot resolve bundle '" ++ bundle ++ "' for locale '" ++ locale.getD "None" ++ "'"
  | keyMissing key bundle label =>
    "Key '" ++ key ++ "' missing from bundle '" ++ bundle ++ "' (locale '" ++ label ++ "')"
  | notFormatted template => "Cannot format template " ++ quoted template
  | unknownKeys keys => "Ignoring unknown declaration keys: " ++ keys
  | unitsLoaded count path =>
    "Loaded " ++ natText count ++ " generation unit(s) from " ++ path
  | declarationUnreadable path => "Cannot read " ++ path ++ " while looking for declarations"

def line (r : Record) : String := r.level.name ++ " " ++ r.channel ++ ": " ++ r.message

end Record

structure Report (α : Type) where
  log : List Record
  outcome : Except Failure α

namespace Report

variable {α β : Type}

def fail (failure : Failure) : Report α := ⟨[], .error failure⟩

def record (r : Record) : Report Unit := ⟨[r], .ok ()⟩

def ofExcept (outcome : Except Failure α) : Report α := ⟨[], outcome⟩

def ofFiles (outcome : Except FileFault α) : Report α :=
  ⟨[], outcome.mapError fun fault => .breach (.file fault)⟩

def andThen (first : Report α) (next : α → Report β) : Report β :=
  match first.outcome with
  | .ok value =>
    let second := next value
    ⟨first.log ++ second.log, second.outcome⟩
  | .error failure => ⟨first.log, .error failure⟩

instance : Monad Report where
  pure value := ⟨[], .ok value⟩
  bind := andThen

@[simp] theorem pureOutcome (value : α) : (pure value : Report α).outcome = .ok value := rfl

@[simp] theorem pureLog (value : α) : (pure value : Report α).log = [] := rfl

theorem bindOk {first : Report α} {next : α → Report β} {value : α}
    (h : first.outcome = .ok value) :
    first >>= next = ⟨first.log ++ (next value).log, (next value).outcome⟩ := by
  show andThen first next = _
  simp [andThen, h]

theorem bindError {first : Report α} {next : α → Report β} {failure : Failure}
    (h : first.outcome = .error failure) :
    first >>= next = ⟨first.log, .error failure⟩ := by
  show andThen first next = _
  simp [andThen, h]

end Report

end Phrasebook

import Phrasebook.Accessor.Naming
import Phrasebook.Catalog
import Phrasebook.Placeholder

/-!
The accessor of a bundle: one method for each key of the default catalog, with the parameters that its
template asks for. The default catalog is authoritative: variants are checked against it and add
nothing. A build reports every issue it finds, not just the first.
-/

namespace Phrasebook.Accessor

structure Parameter where
  name : String
  placeholder : Placeholder
  deriving DecidableEq, Repr

structure Descriptor where
  key : String
  method : String
  mode : Mode
  parameters : List Parameter
  template : String
  translations : List String
  deriving DecidableEq, Repr

structure Spec where
  bundle : String
  className : String
  mode : Mode
  descriptors : List Descriptor
  locales : List String
  catalogDir : String := "."
  /-- Whether the catalog directory is read from the directory of the generated module. -/
  isRelative : Bool := true
  deriving DecidableEq, Repr

def Spec.keys (spec : Spec) : List String := spec.descriptors.map Descriptor.key

def Spec.descriptor? (spec : Spec) (key : String) : Option Descriptor :=
  spec.descriptors.find? fun d => d.key = key

def reservedMethods : List String := ["resolver", "keys", "bundle_name"]

def reservedParameters : List String :=
  ["self", "locale", "template", "format_named", "format_positional", "get_resolver",
    "LocaleResolver", "BUNDLE_NAME", "CATALOG_DIR", "LOCALES", "Path"]

/-- A name lengthened by underscores until it is not among `taken`; each try is a new name, so one more
than there are taken ones are enough. -/
def freshName (taken : List String) : Nat → String → String
  | 0, name => name
  | tries + 1, name =>
    if taken.contains name then freshName taken tries (name ++ "_") else name

def parameterName (used : List String) (name : String) : String :=
  let name :=
    if keywords.contains name || reservedParameters.contains name then name ++ "_" else name
  let taken := used ++ reservedParameters
  freshName taken (taken.length + 1) name

def namedParameters (used : List String) : List String → List Parameter
  | [] => []
  | name :: rest =>
    let chosen := parameterName used name
    ⟨chosen, .named name⟩ :: namedParameters (chosen :: used) rest

/-- The parameters of a shape: one for every index below the arity, or one for every name. -/
def parametersOf : Shape → List Parameter
  | .noArgs => []
  | .positional indices =>
    (List.range (Shape.positional indices).arity).map fun i =>
      ⟨"arg" ++ Number.natText i, .positional i⟩
  | .named names => namedParameters [] names

structure Options where
  /-- The mode declared for the catalog; without one the first template that has placeholders sets it. -/
  mode : Option Mode := none
  delimiter : String := "."
  naming : Naming := .camel
  className : String := ""
  deriving DecidableEq, Repr

def extract (bundle : String) (catalog : Catalog) (key template : String) :
    Report (Issue ⊕ Shape) :=
  match Shape.ofTemplate template with
  | .ok shape => pure (.inr shape)
  | .error fault =>
    match fault.failure key { bundle := some bundle, locale := some catalog.label } with
    | .issue issue => pure (.inl issue)
    | failure => .fail failure

def extractAll (bundle : String) (catalog : Catalog) :
    List (String × String) → Report (List Issue × List (String × Shape))
  | [] => pure ([], [])
  | (key, template) :: rest => do
    let found ← extract bundle catalog key template
    let (issues, shapes) ← extractAll bundle catalog rest
    match found with
    | .inl issue => pure (issue :: issues, shapes)
    | .inr shape => pure (issues, (key, shape) :: shapes)

/-- The mode of a catalog and the issues of templates in another. `mode` is the one settled so far and
`setBy` the key that settled it. -/
def resolveMode (place : Place) (mode : Option Mode) (setBy : Option String) :
    List (String × Shape) → Mode × List Issue
  | [] => (mode.getD .noArgs, [])
  | (key, shape) :: rest =>
    if shape.isEmpty then resolveMode place mode setBy rest
    else
      match mode with
      | none => resolveMode place (some shape.mode) (some key) rest
      | some m =>
        let (result, issues) := resolveMode place mode setBy rest
        if shape.mode = m then (result, issues)
        else (result, .modeConflict key (.differs shape.mode m setBy) place :: issues)

def describe (options : Options) (catalogs : CatalogSet) (shapes : List (String × Shape)) :
    List Descriptor :=
  catalogs.default.messages.entries.filterMap fun (key, template) =>
    (shapes.lookup key).map fun shape =>
      { key := key
        method := methodName key options.delimiter options.naming
        mode := shape.mode
        parameters := parametersOf shape
        template := template
        translations :=
          (catalogs.variants.filter fun c => c.messages.contains key).map Catalog.locale }

/-- Descriptors grouped by their method name in lower case, in order of first occurrence. -/
def groups (descriptors : List Descriptor) : List (String × List Descriptor) :=
  let folded := descriptors.map fun d => Text.lower d.method
  (distinct folded).map fun name =>
    (name, descriptors.filter fun d => Text.lower d.method = name)

/-- The issue of descriptors that share a method name, or take one of the class itself. -/
def collisionOf (bundle : String) : String × List Descriptor → Option Issue
  | (_, []) => none
  | (folded, first :: others) =>
    let keys := (first :: others).map Descriptor.key
    if reservedMethods.contains folded then
      some (.collision bundle first.method (keys ++ ["<reserved:" ++ folded ++ ">"]))
    else if others.isEmpty then none
    else some (.collision bundle first.method keys)

/-- The issues of a variant. Keys that the default catalog does not have are passed over. -/
def checkVariant (catalogs : CatalogSet) (shapes : List (String × Shape)) (variant : Catalog) :
    List (String × String) → Report (List Issue)
  | [] => pure []
  | (key, template) :: rest =>
    if !catalogs.default.messages.contains key then do
      Report.record (.keyNotInDefault catalogs.bundle variant.locale key)
      checkVariant catalogs shapes variant rest
    else
      match shapes.lookup key with
      | none => checkVariant catalogs shapes variant rest
      | some default => do
        let found ← extract catalogs.bundle variant key template
        let issues ← checkVariant catalogs shapes variant rest
        match found with
        | .inl issue => pure (issue :: issues)
        | .inr shape =>
          match default.mismatch? shape with
          | none => pure issues
          | some mismatch =>
            pure (.inconsistent catalogs.bundle variant.locale key mismatch :: issues)

def checkVariants (catalogs : CatalogSet) (shapes : List (String × Shape)) :
    List Catalog → Report (List Issue)
  | [] => pure []
  | variant :: rest => do
    let issues ← checkVariant catalogs shapes variant variant.messages.entries
    let others ← checkVariants catalogs shapes rest
    pure (issues ++ others)

def build (options : Options) (catalogs : CatalogSet) : Report Spec := do
  let bundle := catalogs.bundle
  let (malformed, shapes) ←
    extractAll bundle catalogs.default catalogs.default.messages.entries
  let place : Place := { bundle := some bundle, locale := some catalogs.default.label }
  let (mode, conflicts) := resolveMode place options.mode none shapes
  let descriptors := describe options catalogs shapes
  let collisions := (groups descriptors).filterMap (collisionOf bundle)
  let inconsistent ← checkVariants catalogs shapes catalogs.variants
  let issues := malformed ++ conflicts ++ collisions ++ inconsistent
  if issues.isEmpty then do
    Report.record (.built descriptors.length bundle mode catalogs.variants.length)
    pure
      { bundle := bundle
        className := if options.className.isEmpty then className bundle else options.className
        mode := mode
        descriptors := descriptors
        locales := catalogs.locales }
  else do
    Report.record (.invalid bundle issues.length)
    Report.fail (.validation bundle issues)

/-- Options from the names of a mode and of a naming style; `auto` and no mode leave the mode open. -/
def Options.ofNames? (mode : Option String) (naming : String) : Option Options := do
  let mode ← match mode with
    | none => some none
    | some "auto" => some none
    | some name => (Mode.ofName? name).map some
  let naming ← Naming.ofName? naming
  some { mode := mode, naming := naming }

end Phrasebook.Accessor

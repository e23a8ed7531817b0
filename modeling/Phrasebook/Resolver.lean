import Phrasebook.Catalog.Source

/-!
Resolution of locales. A resolver lays the variants of a requested locale over the default catalog,
from the least to the most specific, and remembers what it has asked its source for. Each operation is
a step from one state to the next that also tells which locales it asked for.
-/

namespace Phrasebook

def missingKeyMarker (key : String) : String := "[" ++ key ++ "]"

structure Resolver where
  bundle : String
  defaultLocale : String
  resolved : OrderedMap String Catalog := .empty
  variants : OrderedMap String (Option Catalog) := .empty
  default : Option Catalog := none

/-- A step of a resolver: the state after it, the locales asked for, and what it reports. -/
structure Step (α : Type) where
  state : Resolver
  asked : List String
  report : Report α

namespace Resolver

/-- A resolver that has not been asked anything; the default locale stands in for an empty request. -/
def new (bundle : String) (defaultLocale : Option String) : Resolver :=
  { bundle := bundle, defaultLocale := Locale.normalize defaultLocale }

def tagOf (r : Resolver) (locale : Option String) : String :=
  let tag := Locale.normalize locale
  if tag.isEmpty then r.defaultLocale else tag

def loadDefault (source : Source) (r : Resolver) : Step Catalog :=
  match r.default with
  | some catalog => ⟨r, [], pure catalog⟩
  | none =>
    let report := source.load r.bundle ""
    match report.outcome with
    | .ok catalog => ⟨{ r with default := some catalog }, [""], report⟩
    | .error _ => ⟨r, [""], report⟩

def loadVariant (source : Source) (r : Resolver) (tag : String) : Step (Option Catalog) :=
  match r.variants.get? tag with
  | some variant => ⟨r, [], pure variant⟩
  | none =>
    let report := source.find r.bundle tag
    match report.outcome with
    | .ok variant => ⟨{ r with variants := r.variants.insert tag variant }, [tag], report⟩
    | .error (.issue (.catalogFormat ..)) =>
      ⟨{ r with variants := r.variants.insert tag none }, [tag],
        ⟨report.log ++ [.variantSkipped r.bundle tag], .ok none⟩⟩
    | .error _ => ⟨r, [tag], report⟩

def layer (source : Source) (r : Resolver) (base : Catalog) (applied : List String) :
    List String → Step (Catalog × List String)
  | [] => ⟨r, [], pure (base, applied)⟩
  | tag :: rest =>
    let first := loadVariant source r tag
    match first.report.outcome with
    | .error failure => ⟨first.state, first.asked, ⟨first.report.log, .error failure⟩⟩
    | .ok variant =>
      let (base, applied) := match variant with
        | some catalog => (base.overlay catalog, applied ++ [tag])
        | none => (base, applied)
      let later := layer source first.state base applied rest
      ⟨later.state, first.asked ++ later.asked,
        ⟨first.report.log ++ later.report.log, later.report.outcome⟩⟩

def populate (source : Source) (r : Resolver) (tag : String) : Step Catalog :=
  let base := loadDefault source r
  match base.report.outcome with
  | .error failure => ⟨base.state, base.asked, ⟨base.report.log, .error failure⟩⟩
  | .ok default =>
    let tags := (Locale.fallbackChain (some tag)).dropLast.reverse
    let layers := layer source base.state default [] tags
    let asked := base.asked ++ layers.asked
    let log := base.report.log ++ layers.report.log
    match layers.report.outcome with
    | .error failure => ⟨layers.state, asked, ⟨log, .error failure⟩⟩
    | .ok (catalog, applied) =>
      ⟨layers.state, asked,
        ⟨log ++ [.resolved r.bundle tag applied], .ok { catalog with locale := tag }⟩⟩

def resolve (source : Source) (r : Resolver) (locale : Option String) : Step Catalog :=
  let tag := r.tagOf locale
  match r.resolved.get? tag with
  | some catalog => ⟨r, [], pure catalog⟩
  | none =>
    let step := populate source r tag
    match step.report.outcome with
    | .ok catalog =>
      { step with state := { step.state with resolved := step.state.resolved.insert tag catalog } }
    | .error _ => step

def templateIn (r : Resolver) (catalog : Catalog) (key : String) : Report String :=
  match catalog.get? key with
  | some template => pure template
  | none => ⟨[.keyMissing key r.bundle catalog.label], .ok (missingKeyMarker key)⟩

/-- The template of a key in a requested locale. A failure to resolve the locale gives the marker of a
missing key; a breach is not answered for. -/
def getString (source : Source) (r : Resolver) (locale : Option String) (key : String) :
    Step String :=
  let step := r.resolve source locale
  match step.report.outcome with
  | .error (.breach breach) => ⟨step.state, step.asked, ⟨step.report.log, .error (.breach breach)⟩⟩
  | .error _ =>
    ⟨step.state, step.asked,
      ⟨step.report.log ++ [.unresolved r.bundle locale], .ok (missingKeyMarker key)⟩⟩
  | .ok catalog =>
    let answer := r.templateIn catalog key
    ⟨step.state, step.asked, ⟨step.report.log ++ answer.log, answer.outcome⟩⟩

def cachedLocales (r : Resolver) : List String := r.resolved.keys

def clear (r : Resolver) : Resolver := { bundle := r.bundle, defaultLocale := r.defaultLocale }

def text (r : Resolver) : String :=
  "LocaleResolver(bundle=" ++ Text.quoted r.bundle ++ ", cached=" ++
    Record.listLiteral r.cachedLocales ++ ")"

end Resolver

end Phrasebook

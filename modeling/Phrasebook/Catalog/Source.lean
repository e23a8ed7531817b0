import Phrasebook.Catalog
import Phrasebook.Catalog.Flat

/-!
Where catalogs come from. A source answers which catalog of a bundle belongs to a locale and which
locales a bundle has; loading one catalog or the whole set of a bundle is the same for all sources.
-/

namespace Phrasebook

structure Source where
  find : String → String → Report (Option Catalog)
  locales : String → Report (List String)
  searched : String → String → List String

namespace Source

def load (source : Source) (bundle locale : String) : Report Catalog := do
  match ← source.find bundle locale with
  | some catalog => pure catalog
  | none =>
    let locale := Locale.normalize (some locale)
    Report.fail (.issue (.catalogMissing bundle locale (source.searched bundle locale)))

def findAll (source : Source) (bundle : String) : List String → Report (List Catalog)
  | [] => pure []
  | locale :: rest => do
    let found ← source.find bundle locale
    let others ← findAll source bundle rest
    pure (found.toList ++ others)

def loadSet (source : Source) (bundle : String) : Report CatalogSet := do
  let default ← source.load bundle ""
  let locales ← source.locales bundle
  let variants ← source.findAll bundle locales
  Report.record (.loaded bundle default.messages.size (variants.map Catalog.locale))
  pure { bundle := bundle, default := default, variants := variants }

end Source

abbrev Bundles := OrderedMap String (OrderedMap String (OrderedMap String String))

namespace Bundles

/-- The locale under which messages are kept; the word `default` names the default one. -/
def localeOf (locale : Option String) : String :=
  if locale = some "default" then "" else Locale.normalize locale

def catalogsOf (catalogs : OrderedMap (Option String) (List (Value × Value))) :
    Except Breach (OrderedMap String (OrderedMap String String)) :=
  catalogs.entries.foldlM
    (fun done entry => do
      let messages ← Catalog.flatten entry.2
      .ok (done.insert (localeOf entry.1) messages))
    .empty

def ofNested (bundles : OrderedMap String (OrderedMap (Option String) (List (Value × Value)))) :
    Except Breach Bundles :=
  bundles.entries.foldlM
    (fun done entry => do
      let catalogs ← catalogsOf entry.2
      .ok (done.insert entry.1 catalogs))
    .empty

def messages? (bundles : Bundles) (bundle locale : String) : Option (OrderedMap String String) :=
  (bundles.get? bundle).bind fun catalogs => catalogs.get? locale

def source (bundles : Bundles) : Source where
  find bundle locale :=
    let locale := Locale.normalize (some locale)
    match bundles.messages? bundle locale with
    | none => pure none
    | some messages => .ofExcept ((Catalog.make bundle locale messages none).map some)
  locales bundle :=
    pure ((((bundles.get? bundle).map OrderedMap.keys).getD []).filter (!·.isEmpty)).mergeSort
  searched _ _ := []

end Bundles

end Phrasebook

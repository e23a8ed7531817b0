import Phrasebook.Report

/-!
Catalogs: the templates of one locale of a bundle by message key, in order, and the default catalog of
a bundle together with its variants.
-/

namespace Phrasebook

structure Catalog where
  bundle : String
  locale : String := ""
  messages : OrderedMap String String
  source : Option Path := none
  deriving DecidableEq

namespace Catalog

def make (bundle locale : String) (messages : OrderedMap String String) (source : Option Path) :
    Except Failure Catalog :=
  if messages.keys.contains "" then
    .error (.issue (.catalogFormat ((source.map Path.text).getD "<memory>") .emptyKey (some bundle)))
  else .ok { bundle := bundle, locale := locale, messages := messages, source := source }

def isDefault (c : Catalog) : Bool := c.locale.isEmpty

def label (c : Catalog) : String := Locale.label c.locale

def get? (c : Catalog) (key : String) : Option String := c.messages.get? key

def keys (c : Catalog) : List String := c.messages.keys

/-- The templates of another catalog over those of this one; keys keep this catalog's order. -/
def overlay (c other : Catalog) : Catalog :=
  { bundle := c.bundle, locale := other.locale, messages := c.messages.overlay other.messages,
    source := other.source }

end Catalog

structure CatalogSet where
  bundle : String
  default : Catalog
  variants : List Catalog
  deriving DecidableEq

namespace CatalogSet

def locales (s : CatalogSet) : List String := s.variants.map Catalog.locale

def variant? (s : CatalogSet) (locale : String) : Option Catalog :=
  s.variants.find? fun c => c.locale = Locale.normalize (some locale)

end CatalogSet

end Phrasebook

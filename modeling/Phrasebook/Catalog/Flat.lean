import Phrasebook.Issue

/-!
Nested catalogs made flat: the texts of keys on the way to a leaf are joined with dots, and a later
leaf under the same key replaces an earlier one. A number of too many digits has no text, and a map
that stands in itself has no end; both are breaches.
-/

namespace Phrasebook.Catalog

def keyBelow (above name : String) : String := if above.isEmpty then name else above ++ "." ++ name

def textOf (v : Value) : Except Breach String :=
  match v.text? with
  | some text => .ok text
  | none => .error .value

mutual

def flattenEntries (above : String) (flat : OrderedMap String String) :
    List (Value × Value) → Except Breach (OrderedMap String String)
  | [] => .ok flat
  | (k, v) :: rest => do
    let name ← textOf k
    let flat ← flattenUnder (keyBelow above name) flat v
    flattenEntries above flat rest

/-- A value under a key: the entries of a map, nothing as an empty text, a text for anything else. -/
def flattenUnder (key : String) (flat : OrderedMap String String) :
    Value → Except Breach (OrderedMap String String)
  | .map entries => do
    let below ← flattenEntries key .empty entries
    .ok (flat.overlay below)
  | .loop true => .error .recursion
  | .null => .ok (flat.insert key "")
  | v => do
    let text ← textOf v
    .ok (flat.insert key text)

end

def flatten (entries : List (Value × Value)) : Except Breach (OrderedMap String String) :=
  flattenEntries "" .empty entries

end Phrasebook.Catalog

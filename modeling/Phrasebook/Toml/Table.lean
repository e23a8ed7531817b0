import Phrasebook.Value

/-!
Tables under construction. A table is opened by a header, by a key with dots, or on the way to one of
these; a header can open a table only once, and a value that was written out cannot be added to.
-/

namespace Phrasebook.Toml

inductive Entry where
  | value (value : Value)
  | table (closed : Bool) (entries : List (String × Entry))
  | tables (before : List (List (String × Entry))) (last : List (String × Entry))
  deriving Inhabited

abbrev Entries := List (String × Entry)

namespace Entries

def get? (entries : Entries) (name : String) : Option Entry := entries.lookup name

def set (entries : Entries) (name : String) (entry : Entry) : Entries :=
  if (entries.get? name).isSome then
    entries.map fun (n, e) => if n = name then (n, entry) else (n, e)
  else entries ++ [(name, entry)]

/-- Changes the table under a path, and opens the missing tables on the way. Nothing can be changed
through a value. -/
def update (f : Entries → Option Entries) : List String → Entries → Option Entries
  | [], entries => f entries
  | name :: path, entries =>
    match entries.get? name with
    | none => (update f path []).map fun inner => entries.set name (.table false inner)
    | some (.table closed inner) =>
      (update f path inner).map fun inner => entries.set name (.table closed inner)
    | some (.tables before last) =>
      (update f path last).map fun last => entries.set name (.tables before last)
    | some (.value _) => none

def openTable (entries : Entries) (path : List String) : Option Entries :=
  entries.update (fun inner =>
    let name := path.getLast?.getD ""
    match inner.get? name with
    | none => some (inner.set name (.table true []))
    | some (.table false es) => some (inner.set name (.table true es))
    | _ => none) path.dropLast

def appendTable (entries : Entries) (path : List String) : Option Entries :=
  entries.update (fun inner =>
    let name := path.getLast?.getD ""
    match inner.get? name with
    | none => some (inner.set name (.tables [] []))
    | some (.tables before last) => some (inner.set name (.tables (before ++ [last]) []))
    | _ => none) path.dropLast

def addValue (entries : Entries) (path : List String) (value : Value) : Option Entries :=
  entries.update (fun inner =>
    let name := path.getLast?.getD ""
    match inner.get? name with
    | none => some (inner.set name (.value value))
    | some _ => none) path.dropLast

def isClosed (entries : Entries) : List String → Bool
  | [] => false
  | [name] =>
    match entries.get? name with
    | some (.table closed _) => closed
    | some (.tables _ _) => true
    | _ => false
  | name :: path =>
    match entries.get? name with
    | some (.table _ inner) => isClosed inner path
    | some (.tables _ last) => isClosed last path
    | _ => false

def close (entries : Entries) (path : List String) : Entries :=
  (entries.update (fun inner =>
    let name := path.getLast?.getD ""
    match inner.get? name with
    | some (.table _ es) => some (inner.set name (.table true es))
    | _ => some inner) path.dropLast).getD entries

end Entries

namespace Entry

mutual

def toValue : Entry → Value
  | value v => v
  | table _ entries => .map (toPairs entries)
  | tables before last => .list (toMaps before ++ [.map (toPairs last)])

def toPairs : List (String × Entry) → List (Value × Value)
  | [] => []
  | (name, entry) :: rest => (.text name, entry.toValue) :: toPairs rest

def toMaps : List (List (String × Entry)) → List Value
  | [] => []
  | entries :: rest => .map (toPairs entries) :: toMaps rest

end

end Entry

end Phrasebook.Toml

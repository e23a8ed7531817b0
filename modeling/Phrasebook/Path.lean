import Phrasebook.Text.Split

/-!
File paths. A path is a root and a list of segments; empty segments and `.` never stand in it, `..`
does. Only resolution against a directory removes `..`, without a look at the files.
-/

namespace Phrasebook

open Text

/-- Where a path begins. Exactly two leading slashes are kept apart from one or three. -/
inductive Root where
  | relative
  | slash
  | doubleSlash
  deriving DecidableEq, Repr

def Root.text : Root → String
  | .relative => ""
  | .slash => "/"
  | .doubleSlash => "//"

structure Path where
  root : Root
  segments : List String
  deriving DecidableEq, Repr

namespace Path

def segmentsOf (text : List Char) : List String :=
  ((fieldsAt (· = '/') text).filter (· ≠ ['.'])).map String.ofList

def ofString (text : String) : Path :=
  let cs := text.toList
  let root := match (cs.takeWhile (· = '/')).length with
    | 0 => Root.relative
    | 2 => .doubleSlash
    | _ => .slash
  ⟨root, segmentsOf cs⟩

def text (p : Path) : String :=
  if p.root = .relative && p.segments.isEmpty then "."
  else p.root.text ++ "/".intercalate p.segments

def isAbsolute (p : Path) : Bool := p.root ≠ .relative

def join (p q : Path) : Path :=
  if q.isAbsolute then q else ⟨p.root, p.segments ++ q.segments⟩

def parent (p : Path) : Path := ⟨p.root, p.segments.dropLast⟩

def name (p : Path) : String := (p.segments.getLast?).getD ""

/-- The name before its suffix and the suffix, which begins with the last dot. A dot at either end of
the name opens no suffix. -/
def nameParts (p : Path) : String × String :=
  let cs := p.name.toList
  match splitLast? '.' cs with
  | some (stem, ending) =>
    if stem.isEmpty || ending.isEmpty then (p.name, "")
    else (String.ofList stem, String.ofList ('.' :: ending))
  | none => (p.name, "")

def stem (p : Path) : String := p.nameParts.1

def suffix (p : Path) : String := p.nameParts.2

def holdsNull (p : Path) : Bool :=
  p.segments.any fun segment => segment.toList.contains '\x00'

/-- Segments with `.` gone and every `..` taken back together with the segment before it; at the top
`..` stays there. `done` holds the settled segments in reverse. -/
def settle (done : List String) : List String → List String
  | [] => done.reverse
  | segment :: rest =>
    if segment = ".." then settle done.tail rest else settle (segment :: done) rest

def resolve (base : List String) (p : Path) : List String :=
  settle [] (if p.isAbsolute then p.segments else base ++ p.segments)

def absolute (segments : List String) : Path := ⟨.slash, segments⟩

def sharedLength : List String → List String → Nat
  | a :: as, b :: bs => if a = b then sharedLength as bs + 1 else 0
  | _, _ => 0

def between (start target : List String) : Path :=
  let shared := sharedLength start target
  ⟨.relative, List.replicate (start.length - shared) ".." ++ target.drop shared⟩

end Path

end Phrasebook

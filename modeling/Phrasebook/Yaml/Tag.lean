import Phrasebook.Text.Base64
import Phrasebook.Value
import Phrasebook.Yaml.Cursor
import Phrasebook.Number.Field
import Phrasebook.Text.Case

/-!
Tags and the values of scalars. A plain scalar without a tag gets one from its form; the value of a
scalar is read by the rule of its tag, also where its form would have suggested another.
-/

namespace Phrasebook.Yaml

open Text Number

inductive Tag where
  | null
  | bool
  | int
  | float
  | binary
  | timestamp
  | orderedMap
  | pairs
  | set
  | text
  | list
  | map
  | merge
  | value
  | unknown
  deriving DecidableEq, Repr

namespace Tag

def standard : String := "tag:yaml.org,2002:"

def names : List (String × Tag) :=
  [("null", null), ("bool", bool), ("int", int), ("float", float), ("binary", binary),
    ("timestamp", timestamp), ("omap", orderedMap), ("pairs", pairs), ("set", set), ("str", text),
    ("seq", list), ("map", map), ("merge", merge), ("value", value)]

def ofName (name : String) : Tag :=
  ((names.find? fun entry => standard ++ entry.1 = name).map Prod.snd).getD unknown

end Tag

/-! ### Forms of plain scalars -/

def truths : List (String × Bool) :=
  [("yes", true), ("no", false), ("true", true), ("false", false), ("on", true), ("off", false)]

def spellings (word : String) : List (List Char) :=
  [word.toList, capitalizeChars word.toList, upperChars word.toList]

def isTruthForm (cs : List Char) : Bool := truths.any fun entry => (spellings entry.1).contains cs

def isNullForm (cs : List Char) : Bool := cs = ['~'] || (spellings "null").contains cs

def dropSign : List Char → List Char
  | '-' :: rest => rest
  | '+' :: rest => rest
  | cs => cs

def someAll (p : Char → Bool) (cs : List Char) : Bool := !cs.isEmpty && cs.all p

def isGrouped (p : Char → Bool) (c : Char) : Bool := c = '_' || p c

def isSixtieth : List Char → Bool
  | [d] => isAsciiDigit d
  | [t, d] => '0' ≤ t && t ≤ '5' && isAsciiDigit d
  | _ => false

def isDigitGroup : List Char → Bool
  | c :: rest => isAsciiDigit c && rest.all (isGrouped isAsciiDigit)
  | [] => false

def isIntForm (cs : List Char) : Bool :=
  match dropSign cs with
  | '0' :: 'b' :: digits => someAll (isGrouped fun c => c = '0' || c = '1') digits
  | '0' :: 'x' :: digits => someAll (isGrouped isHexDigit) digits
  | '0' :: digits => digits.all (isGrouped fun c => '0' ≤ c && c ≤ '7')
  | body =>
    match piecesAt (· = ':') body with
    | whole :: rest => isDigitGroup whole && rest.all isSixtieth
    | [] => false

def isExponentForm : List Char → Bool
  | [] => true
  | e :: s :: digits => (e = 'e' || e = 'E') && (s = '+' || s = '-') && someAll isAsciiDigit digits
  | _ => false

def isFractionForm (cs : List Char) : Bool :=
  isExponentForm (cs.dropWhile (isGrouped isAsciiDigit))

def isFloatForm (cs : List Char) : Bool :=
  let body := dropSign cs
  let whole := body.takeWhile (· ≠ '.')
  match body.drop whole.length with
  | [] => false
  | _ :: fraction =>
    if whole.isEmpty then
      (spellings "inf").contains fraction ||
        (cs = body && ((fraction.head?.any isAsciiDigit && isFractionForm fraction) ||
          ["nan".toList, "NaN".toList, "NAN".toList].contains fraction))
    else
      match piecesAt (· = ':') whole with
      | [digits] => isDigitGroup digits && isFractionForm fraction
      | digits :: rest =>
        isDigitGroup digits && rest.all isSixtieth && fraction.all (isGrouped isAsciiDigit)
      | [] => false

/-! ### Points in time -/

structure Timestamp where
  date : Date
  padded : Bool
  time : Option (TimeOfDay × Option Int)
  deriving DecidableEq, Repr

def offset? (cs : List Char) : Option (Option Int) :=
  match cs.dropWhile isBlank with
  | [] => if cs.isEmpty then some none else none
  | ['Z'] => some (some 0)
  | sign :: rest => do
    if sign ≠ '+' && sign ≠ '-' then none
    else
      let (hours, _, rest) ← digits? 1 2 rest
      let minutes ←
        if rest.isEmpty then some 0
        else do
          let (minutes, _, rest) ← digits? 2 2 (← after? ':' rest)
          if rest.isEmpty then some minutes else none
      some (some (signed (sign = '-') (hours * 60 + minutes)))

def clock? (cs : List Char) : Option (TimeOfDay × Option Int) := do
  let (hour, _, rest) ← digits? 1 2 cs
  let (minute, _, rest) ← digits? 2 2 (← after? ':' rest)
  let (second, _, rest) ← digits? 2 2 (← after? ':' rest)
  let (fraction, rest) := match rest with
    | '.' :: rest => (rest.takeWhile isAsciiDigit, rest.dropWhile isAsciiDigit)
    | _ => ([], rest)
  let offset ← offset? rest
  some (⟨hour, minute, second, microseconds fraction⟩, offset)

def timestamp? (cs : List Char) : Option Timestamp := do
  let (year, _, rest) ← digits? 4 4 cs
  let (month, monthWidth, rest) ← digits? 1 2 (← after? '-' rest)
  let (day, dayWidth, rest) ← digits? 1 2 (← after? '-' rest)
  let date : Date := ⟨year, month, day⟩
  let padded := monthWidth = 2 && dayWidth = 2
  match rest with
  | [] => some ⟨date, padded, none⟩
  | mark :: after =>
    let clock ←
      if mark = 'T' || mark = 't' then some after
      else if isBlank mark then some (after.dropWhile isBlank)
      else none
    some ⟨date, padded, some (← clock? clock)⟩

def isTimestampForm (cs : List Char) : Bool :=
  (timestamp? cs).any fun t => t.padded || t.time.isSome

/-- The characters of a scalar whose form is looked at: one line end behind it does not count. -/
def formOf (text : String) : List Char :=
  let cs := text.toList
  if cs.getLast? = some '\n' then cs.dropLast else cs

def Tag.ofPlain (text : String) : Tag :=
  let cs := formOf text
  if text.isEmpty then .null
  else if isTruthForm cs then .bool
  else if isFloatForm cs then .float
  else if isIntForm cs then .int
  else if cs = "<<".toList then .merge
  else if isNullForm cs then .null
  else if isTimestampForm cs then .timestamp
  else if cs = ['='] then .value
  else .text

/-! ### Values by tag -/

def readTruth (text : String) : Except Error Value :=
  match truths.lookup (lower text) with
  | some b => .ok (.bool b)
  | none => .error .unknownWord

/-- The sign of a number and the rest, with underscores gone; a number has at least one character. -/
def signAndBody (text : String) : Except Error (Bool × List Char) :=
  match text.toList.filter (· ≠ '_') with
  | [] => .error .emptyNumber
  | '-' :: rest => .ok (true, rest)
  | '+' :: rest => .ok (false, rest)
  | cs => .ok (false, cs)

def orRange {α : Type} : Option α → Except Error α
  | some a => .ok a
  | none => .error .range

def readRadix? (base : Nat) (letter : Char) (cs : List Char) : Option Int :=
  let (negative, body) := signOf (trim Text.isBlank cs)
  let digits := match body with
    | '0' :: x :: rest => if x.toLower = letter then rest else body
    | _ => body
  (digitsIn? base false digits).map fun values => signed negative (ofDigitValues base values)

def sixties (places : List Int) : Int := places.foldl (fun n place => n * 60 + place) 0

def readInt (text : String) : Except Error Value := do
  let (negative, body) ← signAndBody text
  let magnitude ←
    match body with
    | '0' :: 'b' :: digits => orRange (readRadix? 2 'b' digits)
    | '0' :: 'x' :: digits => orRange (readRadix? 16 'x' digits)
    | '0' :: _ => orRange (readRadix? 8 'o' body)
    | [] => .error .emptyNumber
    | _ =>
      if body.contains ':' then
        (orRange ((piecesAt (· = ':') body).mapM readInt?)).map sixties
      else orRange (readInt? body)
  .ok (.int (if negative then -magnitude else magnitude))

/-- The sum of places of sixty, least significant first, each a number times a power of sixty; added
up from the left. -/
def sumSixties (sum : Binary64) (unit : Nat) : List Binary64 → Except Error Binary64
  | [] => .ok sum
  | place :: rest =>
    match Binary64.ofInt? unit with
    | none => .error .overflow
    | some _ => sumSixties (sum.add (place.scale unit)) (unit * 60) rest

def readFloat (text : String) : Except Error Value := do
  let (negative, body) ← signAndBody (lower text)
  let magnitude ←
    if body = ".inf".toList then .ok (.infinite false)
    else if body = ".nan".toList then .ok .nan
    else if body.contains ':' then do
      let places ← orRange ((piecesAt (· = ':') body).mapM readFloat?)
      sumSixties (.zero false) 1 places.reverse
    else orRange (readFloat? body)
  .ok (.float (if negative then magnitude.negate else magnitude))

def isOffset (minutes : Int) : Bool := minutes.natAbs < 1440

def readTimestamp (text : String) : Except Error Value :=
  match timestamp? (formOf text) with
  | none => .error .noTimestamp
  | some ⟨date, _, none⟩ => if date.isValid then .ok (.date date) else .error .range
  | some ⟨date, _, some (time, offset)⟩ =>
    if date.isValid && time.isValid && offset.all isOffset then
      .ok (.dateTime date time offset)
    else .error .range

def readBinary (text : String) : Except Error Value :=
  if text.toList.any fun c => 0x80 ≤ c.toNat then .error .refused
  else
    match Base64.decode? text.toList with
    | some bytes => .ok (.bytes bytes)
    | none => .error .refused

def Tag.read? (tag : Tag) (text : String) : Option (Except Error Value) :=
  match tag with
  | .null => some (.ok .null)
  | .bool => some (readTruth text)
  | .int => some (readInt text)
  | .float => some (readFloat text)
  | .binary => some (readBinary text)
  | .timestamp => some (readTimestamp text)
  | .text => some (.ok (.text text))
  | _ => none

end Phrasebook.Yaml

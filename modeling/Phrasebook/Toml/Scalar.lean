import Phrasebook.Toml.Text
import Phrasebook.Value

/-!
Dates, times and numbers of TOML.
-/

namespace Phrasebook.Toml

open Text Number

def time? (cs : List Char) : Option (TimeOfDay × List Char) := do
  let (hour, _, rest) ← digits? 2 2 cs
  let (minute, _, rest) ← digits? 2 2 (← after? ':' rest)
  let (second, _, rest) ← digits? 2 2 (← after? ':' rest)
  let (fraction, rest) := match rest with
    | '.' :: more =>
      let digits := more.takeWhile isAsciiDigit
      if digits.isEmpty then ([], rest) else (digits, more.drop digits.length)
    | _ => ([], rest)
  let time : TimeOfDay := ⟨hour, minute, second, microseconds fraction⟩
  if time.isValid then some (time, rest) else none

def offset? (cs : List Char) : Option (Int × List Char) :=
  match cs with
  | 'Z' :: rest => some (0, rest)
  | 'z' :: rest => some (0, rest)
  | sign :: rest => do
    let (hours, _, rest) ← digits? 2 2 rest
    let (minutes, _, rest) ← digits? 2 2 (← after? ':' rest)
    if (sign = '+' || sign = '-') && hours < 24 && minutes < 60 then
      some (signed (sign = '-') (hours * 60 + minutes), rest)
    else none
  | [] => none

def date? (cs : List Char) : Option (Date × List Char) := do
  let (year, _, rest) ← digits? 4 4 cs
  let (month, _, rest) ← digits? 2 2 (← after? '-' rest)
  let (day, _, rest) ← digits? 2 2 (← after? '-' rest)
  some (⟨year, month, day⟩, rest)

def dateTime? (cs : List Char) : Option (Value × List Char) := do
  let (date, rest) ← date? cs
  if !date.isValid then none
  else
    let timed := match rest with
      | mark :: more => if mark = 'T' || mark = 't' || mark = ' ' then time? more else none
      | [] => none
    match timed with
    | none => some (.date date, rest)
    | some (time, rest) =>
      match offset? rest with
      | none => some (.dateTime date time none, rest)
      | some (offset, rest) => some (.dateTime date time (some offset), rest)

/-- The length of a digit and the digits behind it, each of which an underscore may precede. -/
def groupLength (p : Char → Bool) : List Char → Nat
  | [] => 0
  | c :: rest => if p c then continuedLength rest + 1 else 0
where
  continuedLength : List Char → Nat
    | '_' :: d :: rest => if p d then continuedLength rest + 2 else 0
    | c :: rest => if p c then continuedLength rest + 1 else 0
    | [] => 0

def signLength (cs : List Char) : Nat := if cs.head?.any fun c => c = '+' || c = '-' then 1 else 0

def radixOf? (mark : Char) : Option Nat :=
  if mark = 'x' then some 16 else if mark = 'o' then some 8 else if mark = 'b' then some 2 else none

def radixInteger? (cs : List Char) : Option (Value × List Char) :=
  match cs with
  | '0' :: mark :: rest => do
    let base ← radixOf? mark
    let length := groupLength (fun c => (hexValue? c).any (· < base)) rest
    if length = 0 then none
    else
      let i ← readIntIn? base (rest.take length)
      some (.int i, rest.drop length)
  | _ => none

def exponentLength (cs : List Char) : Nat :=
  match cs with
  | mark :: rest =>
    let sign := signLength rest
    let digits := groupLength isAsciiDigit (rest.drop sign)
    if (mark = 'e' || mark = 'E') && 0 < digits then digits + sign + 1 else 0
  | [] => 0

def fractionLength (cs : List Char) : Nat :=
  match cs with
  | '.' :: rest =>
    let digits := groupLength isAsciiDigit rest
    if 0 < digits then digits + 1 else 0
  | _ => 0

def decimal (cs : List Char) : Except Error (Value × List Char) :=
  let sign := signLength cs
  let body := cs.drop sign
  let whole := if body.head? = some '0' then 1 else groupLength isAsciiDigit body
  if whole = 0 then .error .refused
  else
    let fraction := fractionLength (body.drop whole)
    let exponent := exponentLength (body.drop (whole + fraction))
    let length := sign + whole + fraction + exponent
    let written := cs.take length
    if fraction + exponent = 0 then
      match readInt? written with
      | some i => .ok (.int i, cs.drop length)
      | none => .error .longInteger
    else
      match readFloat? written with
      | some x => .ok (.float x, cs.drop length)
      | none => .error .refused

def words : List (String × Value) :=
  [("true", .bool true), ("false", .bool false), ("inf", .float (.infinite false)),
    ("+inf", .float (.infinite false)), ("-inf", .float (.infinite true)), ("nan", .float .nan),
    ("+nan", .float .nan), ("-nan", .float .nan)]

def scalar (cs : List Char) : Except Error (Value × List Char) :=
  match words.find? fun entry => entry.1.toList.isPrefixOf cs with
  | some (word, v) => .ok (v, cs.drop word.length)
  | none =>
    match dateTime? cs with
    | some found => .ok found
    | none =>
      match time? cs with
      | some (time, rest) => .ok (.time time, rest)
      | none =>
        match radixInteger? cs with
        | some found => .ok found
        | none => decimal cs

end Phrasebook.Toml

import Phrasebook.Value
import Phrasebook.Text.Quoted

/-!
Written forms of values. A value has a plain text, which is its own text for a text, and a literal
form, in which texts are quoted; inside lists and maps the literal form is used. An integer of too
many digits has neither, nor has anything that holds one.
-/

namespace Phrasebook

open Number

def padded (width n : Nat) : String :=
  let digits := natText n
  String.ofList (List.replicate (width - digits.length) '0') ++ digits

def Date.text (d : Date) : String := s!"{padded 4 d.year}-{padded 2 d.month}-{padded 2 d.day}"

def TimeOfDay.text (t : TimeOfDay) : String :=
  s!"{padded 2 t.hour}:{padded 2 t.minute}:{padded 2 t.second}" ++
    (if t.microsecond = 0 then "" else "." ++ padded 6 t.microsecond)

def offsetText (minutes : Int) : String :=
  (if minutes < 0 then "-" else "+") ++ padded 2 (minutes.natAbs / 60) ++ ":" ++
    padded 2 (minutes.natAbs % 60)

/-- Hour and minute always, then the second and the microsecond as far as they are needed. -/
def TimeOfDay.arguments (t : TimeOfDay) : List Nat :=
  [t.hour, t.minute] ++
    (if t.microsecond ≠ 0 then [t.second, t.microsecond]
      else if t.second ≠ 0 then [t.second] else [])

def commaSeparated (items : List String) : String := ", ".intercalate items

def offsetLiteral (minutes : Int) : String :=
  if minutes = 0 then "datetime.timezone.utc"
  else
    let seconds := minutes * 60
    let span :=
      if seconds < 0 then s!"days=-1, seconds={natText (86400 + seconds).toNat}"
      else s!"seconds={natText seconds.toNat}"
    s!"datetime.timezone(datetime.timedelta({span}))"

def byteEscape (quote : Char) (b : UInt8) : List Char :=
  let c := Char.ofNat b.toNat
  if c = quote || c = '\\' then ['\\', c]
  else if c = '\t' then ['\\', 't']
  else if c = '\n' then ['\\', 'n']
  else if c = '\r' then ['\\', 'r']
  else if 0x20 ≤ b && b < 0x7f then [c]
  else Text.Quoted.codeEscape c

def bytesLiteral (bs : List UInt8) : String :=
  let quote := Text.Quoted.quoteOf (bs.map fun b => Char.ofNat b.toNat)
  String.ofList ('b' :: quote :: bs.flatMap (byteEscape quote) ++ [quote])

namespace Value

mutual

def literal? : Value → Option String
  | null => some "None"
  | bool b => some (if b then "True" else "False")
  | int i => intText? i
  | float x => some x.text
  | text s => some (Text.quoted s)
  | bytes bs => some (bytesLiteral bs)
  | date d => some s!"datetime.date({natText d.year}, {natText d.month}, {natText d.day})"
  | dateTime d t offset =>
    let fields := [d.year, d.month, d.day] ++ t.arguments
    let zone := offset.map fun minutes => s!"tzinfo={offsetLiteral minutes}"
    some s!"datetime.datetime({commaSeparated (fields.map natText ++ zone.toList)})"
  | time t => some s!"datetime.time({commaSeparated (t.arguments.map natText)})"
  | list items => (literals? items).map fun parts => s!"[{commaSeparated parts}]"
  | pair a b =>
    match a.literal?, b.literal? with
    | some x, some y => some s!"({x}, {y})"
    | _, _ => none
  | set [] => some "set()"
  | set members =>
    (literals? members).map fun parts => "\x7b" ++ commaSeparated parts ++ "\x7d"
  | map entries =>
    (entryLiterals? entries).map fun parts => "\x7b" ++ commaSeparated parts ++ "\x7d"
  | loop isMap => some (if isMap then "\x7b...\x7d" else "[...]")

def literals? : List Value → Option (List String)
  | [] => some []
  | v :: rest =>
    match v.literal?, literals? rest with
    | some part, some parts => some (part :: parts)
    | _, _ => none

def entryLiterals? : List (Value × Value) → Option (List String)
  | [] => some []
  | (k, v) :: rest =>
    match k.literal?, v.literal?, entryLiterals? rest with
    | some key, some value, some parts => some (s!"{key}: {value}" :: parts)
    | _, _, _ => none

end

def text? : Value → Option String
  | text s => some s
  | date d => some d.text
  | dateTime d t offset =>
    some (s!"{d.text} {t.text}" ++ (offset.map offsetText).getD "")
  | time t => some t.text
  | v => v.literal?

end Value

end Phrasebook

import Phrasebook.Number.Reading
import Phrasebook.Value

/-!
Reading JSON. A document is one value with blanks around it; three words beyond the standard stand
for numbers that are none or infinite. A fault is reported with its kind and the place where the
reader stood, and the place is shown as line, column and offset.
-/

namespace Phrasebook.Json

open Text Number

inductive FaultKind where
  | byteOrderMark
  | value
  | propertyName
  | colon
  | comma
  | trailing
  | openString
  | control
  | badEscape
  | badUnicodeEscape
  deriving DecidableEq, Repr

structure Fault where
  kind : FaultKind
  position : Nat
  deriving DecidableEq, Repr

inductive Error where
  | fault (fault : Fault)
  | longInteger
  deriving DecidableEq, Repr

def FaultKind.message : FaultKind → String
  | .byteOrderMark => "Unexpected UTF-8 BOM (decode using utf-8-sig)"
  | .value => "Expecting value"
  | .propertyName => "Expecting property name enclosed in double quotes"
  | .colon => "Expecting ':' delimiter"
  | .comma => "Expecting ',' delimiter"
  | .trailing => "Extra data"
  | .openString => "Unterminated string starting at"
  | .control => "Invalid control character at"
  | .badEscape => "Invalid \\escape"
  | .badUnicodeEscape => "Invalid \\uXXXX escape"

def Fault.message (fault : Fault) (text : List Char) : String :=
  let before := text.take fault.position
  let line := before.count '\n' + 1
  let column := (before.reverse.takeWhile (· ≠ '\n')).length + 1
  s!"{fault.kind.message}: line {natText line} column {natText column} (char {natText fault.position})"

structure Cursor where
  position : Nat
  rest : List Char

namespace Cursor

def advance (c : Cursor) (n : Nat) : Cursor := ⟨c.position + n, c.rest.drop n⟩

def isSpace (c : Char) : Bool := c = ' ' || c = '\t' || c = '\n' || c = '\r'

def skipSpace (c : Cursor) : Cursor := c.advance (c.rest.takeWhile isSpace).length

end Cursor

def fail {α : Type} (kind : FaultKind) (position : Nat) : Except Error α :=
  .error (.fault ⟨kind, position⟩)

def fourHex? : List Char → Option Nat
  | a :: b :: c :: d :: _ =>
    match hexValue? a, hexValue? b, hexValue? c, hexValue? d with
    | some a, some b, some c, some d => some (((a * 16 + b) * 16 + c) * 16 + d)
    | _, _, _, _ => none
  | _ => none

def simpleEscape? : Char → Option Char
  | '"' => some '"'
  | '\\' => some '\\'
  | '/' => some '/'
  | 'b' => some '\x08'
  | 'f' => some '\x0c'
  | 'n' => some '\n'
  | 'r' => some '\r'
  | 't' => some '\t'
  | _ => none

def isHighSurrogate (n : Nat) : Bool := 0xd800 ≤ n && n < 0xdc00

def isLowSurrogate (n : Nat) : Bool := 0xdc00 ≤ n && n < 0xe000

/-- A code unit; half of a pair on its own is no character and becomes the replacement character. -/
def unitChar (n : Nat) : Char :=
  if 0xd800 ≤ n && n < 0xe000 then '\ufffd' else Char.ofNat n

/-- The character after a backslash and `u`, where the text from the first digit on is `c`, and how
many characters spell it. Two code units of a pair are one character; the second is looked at only
when something follows it. -/
def unicodeEscape (c : Cursor) : Except Error (Char × Nat) :=
  if c.rest.length ≤ 4 then fail .badUnicodeEscape (c.position - 1)
  else
    match fourHex? c.rest with
    | none => fail .badUnicodeEscape (c.position - 1)
    | some n =>
      match isHighSurrogate n, c.rest.drop 4 with
      | true, '\\' :: 'u' :: second =>
        if second.length ≤ 4 then .ok (unitChar n, 4)
        else
          match fourHex? second with
          | none => fail .badUnicodeEscape (c.position + 5)
          | some m =>
            if isLowSurrogate m then
              .ok (Char.ofNat (0x10000 + (n - 0xd800) * 0x400 + (m - 0xdc00)), 10)
            else .ok (unitChar n, 4)
      | _, _ => .ok (unitChar n, 4)

/-- The characters of a string up to its closing quote, in reverse; `start` is where it was opened. -/
def stringBody (start : Nat) (read : List Char) :
    Nat → Cursor → Except Error (List Char × Cursor)
  | 0, _ => fail .openString start
  | fuel + 1, c =>
    match c.rest with
    | [] => fail .openString start
    | '"' :: _ => .ok (read.reverse, c.advance 1)
    | '\\' :: 'u' :: _ =>
      match unicodeEscape (c.advance 2) with
      | .error e => .error e
      | .ok (x, used) => stringBody start (x :: read) fuel (c.advance (2 + used))
    | '\\' :: e :: _ =>
      match simpleEscape? e with
      | some x => stringBody start (x :: read) fuel (c.advance 2)
      | none => fail .badEscape c.position
    | ['\\'] => fail .openString start
    | x :: _ =>
      if x.toNat < 0x20 then fail .control c.position
      else stringBody start (x :: read) fuel (c.advance 1)

def string (c : Cursor) : Except Error (String × Cursor) :=
  match stringBody c.position [] (c.rest.length + 1) (c.advance 1) with
  | .ok (cs, after) => .ok (String.ofList cs, after)
  | .error e => .error e

/-- A number: an integer part without superfluous zeros, then a fraction and an exponent as far as
they have digits. -/
def number (c : Cursor) : Except Error (Value × Cursor) :=
  let (negative, body) := match c.rest with
    | '-' :: rest => (true, rest)
    | rest => (false, rest)
  let whole := match body with
    | '0' :: _ => ['0']
    | rest => rest.takeWhile isAsciiDigit
  if whole.isEmpty then fail .value c.position
  else
    let afterWhole := body.drop whole.length
    let fraction := match afterWhole with
      | '.' :: rest => rest.takeWhile isAsciiDigit
      | _ => []
    let afterFraction :=
      if fraction.isEmpty then afterWhole else afterWhole.drop (fraction.length + 1)
    let (exponentSign, exponent) := match afterFraction with
      | e :: rest =>
        if e = 'e' || e = 'E' then
          let mark := rest.takeWhile fun s => s = '+' || s = '-'
          let mark := mark.take 1
          (mark, (rest.drop mark.length).takeWhile isAsciiDigit)
        else ([], [])
      | [] => ([], [])
    let used := (if negative then 1 else 0) + whole.length +
      (if fraction.isEmpty then 0 else fraction.length + 1) +
      (if exponent.isEmpty then 0 else exponentSign.length + exponent.length + 1)
    let after := c.advance used
    if fraction.isEmpty && exponent.isEmpty then
      match readInt? (c.rest.take used) with
      | some i => .ok (.int i, after)
      | none => .error .longInteger
    else
      match readFloat? (c.rest.take used) with
      | some x => .ok (.float x, after)
      | none => fail .value c.position

def words : List (String × Value) :=
  [("null", .null), ("true", .bool true), ("false", .bool false), ("NaN", .float .nan),
    ("Infinity", .float (.infinite false)), ("-Infinity", .float (.infinite true))]

def word? (c : Cursor) : Option (Value × Cursor) :=
  (words.find? fun entry => entry.1.toList.isPrefixOf c.rest).map fun entry =>
    (entry.2, c.advance entry.1.length)

mutual

def value : Nat → Cursor → Except Error (Value × Cursor)
  | 0, c => fail .value c.position
  | fuel + 1, c =>
    match c.rest with
    | '"' :: _ => do
      let (s, after) ← string c
      .ok (.text s, after)
    | '\x7b' :: _ => do
      let inner := (c.advance 1).skipSpace
      match inner.rest with
      | '\x7d' :: _ => .ok (.map [], inner.advance 1)
      | _ =>
        let (entries, after) ← members [] fuel inner
        .ok (.map entries, after)
    | '[' :: _ => do
      let inner := (c.advance 1).skipSpace
      match inner.rest with
      | ']' :: _ => .ok (.list [], inner.advance 1)
      | _ =>
        let (items, after) ← elements fuel inner
        .ok (.list items, after)
    | _ =>
      match word? c with
      | some found => .ok found
      | none => number c

def members (read : List (Value × Value)) : Nat → Cursor →
    Except Error (List (Value × Value) × Cursor)
  | 0, c => fail .propertyName c.position
  | fuel + 1, c =>
    match c.rest with
    | '"' :: _ => do
      let (name, afterName) ← string c
      let colon := afterName.skipSpace
      match colon.rest with
      | ':' :: _ =>
        let (v, afterValue) ← value fuel (colon.advance 1).skipSpace
        let read := Value.put (.text name) v read
        let next := afterValue.skipSpace
        match next.rest with
        | '\x7d' :: _ => .ok (read, next.advance 1)
        | ',' :: _ => members read fuel (next.advance 1).skipSpace
        | _ => fail .comma next.position
      | _ => fail .colon colon.position
    | _ => fail .propertyName c.position

def elements : Nat → Cursor → Except Error (List Value × Cursor)
  | 0, c => fail .value c.position
  | fuel + 1, c => do
    let (v, afterValue) ← value fuel c
    let next := afterValue.skipSpace
    match next.rest with
    | ']' :: _ => .ok ([v], next.advance 1)
    | ',' :: _ =>
      let (rest, after) ← elements fuel (next.advance 1).skipSpace
      .ok (v :: rest, after)
    | _ => fail .comma next.position

end

def parse (text : List Char) : Except Error Value :=
  match text with
  | '\ufeff' :: _ => fail .byteOrderMark 0
  | _ => do
    let (v, after) ← value (2 * text.length + 2) (Cursor.skipSpace ⟨0, text⟩)
    let last := after.skipSpace
    if last.rest.isEmpty then .ok v else fail .trailing last.position

end Phrasebook.Json

import Phrasebook.OrderedMap
import Phrasebook.Text.Lines
import Phrasebook.Text.Split

/-!
Catalogs in properties form: one key and value a line, separated by `=`, `:` or a blank, with
comments, escapes, and lines continued by a backslash at their end. A repeated key keeps its first
place and takes its last value.
-/

namespace Phrasebook.Properties

open Text

def endingBackslashes (line : List Char) : Nat := (line.reverse.takeWhile (· = '\\')).length

def goesOn (line : List Char) : Bool := endingBackslashes line % 2 = 1

def isComment : List Char → Bool
  | c :: _ => c = '#' || c = '!'
  | [] => false

/-- The logical lines of physical ones. `pending` is what a logical line under way holds already;
blank lines and comments count only as such outside one. -/
def joinContinued (pending : Option (List Char)) : List (List Char) → List (List Char)
  | [] => pending.toList
  | raw :: rest =>
    let line := raw.dropWhile isBlank
    match pending with
    | none =>
      if line.isEmpty || isComment line then joinContinued none rest
      else if goesOn line then joinContinued (some line.dropLast) rest
      else line :: joinContinued none rest
    | some start =>
      if goesOn line then joinContinued (some (start ++ line.dropLast)) rest
      else (start ++ line) :: joinContinued none rest

def logicalLines (text : List Char) : List (List Char) := joinContinued none (lines text)

def isSeparatorBlank (c : Char) : Bool := c = ' ' || c = '\t' || c = '\x0c'

def endsKey (c : Char) : Bool := c = '=' || c = ':' || isSeparatorBlank c

/-- The key of a line as written, and what follows it. A character after a backslash ends no key. -/
def splitKey : List Char → List Char × List Char
  | [] => ([], [])
  | '\\' :: c :: rest =>
    let (key, after) := splitKey rest
    ('\\' :: c :: key, after)
  | c :: rest =>
    if endsKey c then ([], c :: rest)
    else
      let (key, after) := splitKey rest
      (c :: key, after)

/-- The value after a key: blanks, at most one separator, and blanks again are passed over. -/
def valueOf (after : List Char) : List Char :=
  match after.dropWhile isSeparatorBlank with
  | c :: rest => if c = '=' || c = ':' then rest.dropWhile isSeparatorBlank else c :: rest
  | [] => []

def escapedChar (c : Char) : Char :=
  if c = 't' then '\t'
  else if c = 'n' then '\n'
  else if c = 'r' then '\r'
  else if c = 'f' then '\x0c'
  else c

/-- A text as code units: the escape of a code point names a unit, and a unit may be half of a pair. -/
def unescapeUnits : List Char → List Nat
  | '\\' :: 'u' :: a :: b :: c :: d :: rest =>
    match hexValue? a, hexValue? b, hexValue? c, hexValue? d with
    | some h, some i, some j, some k =>
      (((h * 16 + i) * 16 + j) * 16 + k) :: unescapeUnits rest
    | _, _, _, _ => 'u'.toNat :: unescapeUnits (a :: b :: c :: d :: rest)
  | '\\' :: c :: rest => (escapedChar c).toNat :: unescapeUnits rest
  | c :: rest => c.toNat :: unescapeUnits rest
  | [] => []

/-- Characters of code units: a pair is one character, half of a pair on its own is the replacement
character. -/
def ofUnits : List Nat → List Char
  | high :: low :: rest =>
    if 0xd800 ≤ high && high < 0xdc00 && 0xdc00 ≤ low && low < 0xe000 then
      Char.ofNat (0x10000 + (high - 0xd800) * 0x400 + (low - 0xdc00)) :: ofUnits rest
    else
      (if 0xd800 ≤ high && high < 0xe000 then '\ufffd' else Char.ofNat high) ::
        ofUnits (low :: rest)
  | [unit] => [if 0xd800 ≤ unit && unit < 0xe000 then '\ufffd' else Char.ofNat unit]
  | [] => []

def unescape (cs : List Char) : List Char := ofUnits (unescapeUnits cs)

def entryOf (line : List Char) : String × String :=
  let (key, after) := splitKey line
  (String.ofList (unescape key), String.ofList (unescape (valueOf after)))

def parseChars (text : List Char) : OrderedMap String String :=
  OrderedMap.ofList ((logicalLines text).map entryOf)

def parse (text : String) : OrderedMap String String := parseChars text.toList

end Phrasebook.Properties

import Phrasebook.Text.Class

/-!
A place in a YAML text. The cursor counts lines and columns, because indentation and the reach of a
key are measured in them.
-/

namespace Phrasebook.Yaml

/-- Why a document has no value. Only the first is a matter of its form; the others are scalars that
their tag does not fit, met where the reader does not answer for them. -/
inductive Error where
  | refused
  | range
  | overflow
  | emptyNumber
  | unknownWord
  | noTimestamp
  | noText
  deriving DecidableEq, Repr

def isBreak (c : Char) : Bool :=
  c = '\n' || c = '\r' || c = '\x85' || c = '\u2028' || c = '\u2029'

def isPrintable (c : Char) : Bool :=
  Text.inRanges c.toNat
    [(0x09, 0x0a), (0x0d, 0x0d), (0x20, 0x7e), (0x85, 0x85), (0xa0, 0xd7ff), (0xe000, 0xfffd),
      (0x10000, 0x10ffff)]

def endsLine (c : Option Char) : Bool := c.all isBreak

def isSpaceOrEnd (c : Option Char) : Bool := c.all fun c => c = ' ' || isBreak c

def isGap (c : Option Char) : Bool := c.all fun c => c = ' ' || c = '\t' || isBreak c

def isBlank (c : Char) : Bool := c = ' ' || c = '\t'

def isFlowMark (c : Char) : Bool := c = ',' || c = '[' || c = ']' || c = '\x7b' || c = '\x7d'

def isNameChar (c : Char) : Bool := Text.isAsciiAlnum c || c = '-' || c = '_'

structure Cursor where
  rest : List Char
  index : Nat := 0
  line : Nat := 0
  column : Nat := 0

namespace Cursor

def peek (c : Cursor) (n : Nat) : Option Char := c.rest[n]?

/-- Past one character. A byte order mark takes no column, and of two characters that end a line
together only the second does. -/
def step (c : Cursor) : Cursor :=
  match c.rest with
  | [] => c
  | x :: rest =>
    if isBreak x && !(x = '\r' && rest.head? = some '\n') then
      { rest := rest, index := c.index + 1, line := c.line + 1, column := 0 }
    else
      { rest := rest, index := c.index + 1, line := c.line,
        column := if x = '\ufeff' then c.column else c.column + 1 }

def advance (c : Cursor) : Nat → Cursor
  | 0 => c
  | n + 1 => c.step.advance n

def takeWhile (c : Cursor) (p : Char → Bool) : List Char × Cursor :=
  let run := c.rest.takeWhile p
  (run, c.advance run.length)

def skipWhile (c : Cursor) (p : Char → Bool) : Cursor := (c.takeWhile p).2

def skipSpaces (c : Cursor) : Cursor := c.skipWhile (· = ' ')

/-- The end of a line as it counts in a text, if there is one here: a line feed for all but the two
separators. -/
def lineBreak (c : Cursor) : Option Char × Cursor :=
  match c.rest with
  | '\r' :: '\n' :: _ => (some '\n', c.advance 2)
  | x :: _ =>
    if x = '\u2028' || x = '\u2029' then (some x, c.step)
    else if isBreak x then (some '\n', c.step)
    else (none, c)
  | [] => (none, c)

def skipComment (c : Cursor) : Cursor :=
  if c.peek 0 = some '#' then c.skipWhile (!isBreak ·) else c

def atMarks (c : Cursor) (mark : Char) : Bool :=
  c.rest.take 3 = [mark, mark, mark] && isGap (c.peek 3)

/-- Whether a mark of the start or end of a document stands here, were it a new line. -/
def atDocumentMark (c : Cursor) : Bool := c.atMarks '-' || c.atMarks '.'

def restOfLine (c : Cursor) : Except Error Cursor :=
  let last := c.skipSpaces.skipComment
  if endsLine (last.peek 0) then .ok last.lineBreak.2 else .error .refused

end Cursor

end Phrasebook.Yaml

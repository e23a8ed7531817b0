import Phrasebook.Yaml.Token

/-!
Texts of scalars. A scalar is quoted, or a block of lines under an indentation, or plain. A line end
between two lines of a text becomes a space, and further line ends stay; only a literal block keeps
all of them.
-/

namespace Phrasebook.Yaml

open Text

/-! ### Blocks -/

inductive Chomping where
  | strip
  | clip
  | keep
  deriving DecidableEq, Repr

structure BlockHeader where
  chomping : Chomping := .clip
  increment : Option Nat := none
  deriving DecidableEq, Repr

def chomping? (c : Option Char) : Option Chomping :=
  if c = some '+' then some .keep else if c = some '-' then some .strip else none

def increment? (c : Option Char) : Option Nat :=
  match c with
  | some d => if isAsciiDigit d then some (d.toNat - '0'.toNat) else none
  | none => none

def scanBlockHeader (c : Cursor) : Except Error (BlockHeader × Cursor) :=
  let (header, after) : BlockHeader × Cursor :=
    match chomping? (c.peek 0) with
    | some chomping =>
      match increment? (c.peek 1) with
      | some n => (⟨chomping, some n⟩, c.advance 2)
      | none => (⟨chomping, none⟩, c.step)
    | none =>
      match increment? (c.peek 0) with
      | some n =>
        match chomping? (c.peek 1) with
        | some chomping => (⟨chomping, some n⟩, c.advance 2)
        | none => (⟨.clip, some n⟩, c.step)
      | none => ({}, c)
  if header.increment = some 0 || !isSpaceOrEnd (after.peek 0) then .error .refused
  else .ok (header, after)

/-- Line ends and the spaces between them, up to the first line with anything else; also the furthest
column the spaces reach. -/
def blankLines (breaks : List Char) (widest : Nat) : Nat → Cursor → List Char × Nat × Cursor
  | 0, c => (breaks, widest, c)
  | fuel + 1, c =>
    if c.peek 0 = some ' ' then blankLines breaks (max widest (c.column + 1)) fuel c.step
    else
      match c.lineBreak with
      | (some x, after) => blankLines (breaks ++ [x]) widest fuel after
      | (none, _) => (breaks, widest, c)

def skipIndent (indent : Nat) : Nat → Cursor → Cursor
  | 0, c => c
  | fuel + 1, c =>
    if c.column < indent && c.peek 0 = some ' ' then skipIndent indent fuel c.step else c

/-- The line ends of empty lines under an indentation, and the place where the next line begins. -/
def emptyLines (indent : Nat) (breaks : List Char) : Nat → Cursor → List Char × Cursor
  | 0, c => (breaks, c)
  | fuel + 1, c =>
    let here := skipIndent indent c.rest.length c
    match here.lineBreak with
    | (some x, after) => emptyLines indent (breaks ++ [x]) fuel after
    | (none, _) => (breaks, here)

/-- The lines of a block from a line on that may be its next one; `breaks` are the line ends before
it. Yields the text and the line ends after the last line, apart from its own. -/
def blockLines (folded : Bool) (indent : Nat) (text breaks : List Char) (ended : Option Char) :
    Nat → Cursor → List Char × Option Char × List Char × Cursor
  | 0, c => (text, ended, breaks, c)
  | fuel + 1, c =>
    if c.column ≠ indent || c.rest.isEmpty then (text, ended, breaks, c)
    else
      let (line, after) := c.takeWhile (!isBreak ·)
      let text := text ++ breaks ++ line
      let (ended, after) := after.lineBreak
      let (breaks, after) := emptyLines indent [] (after.rest.length + 1) after
      let goesOn := after.column = indent && !after.rest.isEmpty
      let joins := folded && ended = some '\n' && !line.head?.any isBlank &&
        !(after.peek 0).any isBlank
      let glue :=
        if !goesOn then []
        else if joins then (if breaks.isEmpty then [' '] else [])
        else ended.toList
      blockLines folded indent (text ++ glue) breaks ended fuel after

/-- A block behind its indicator, where `least` is the least indentation its lines may have. -/
def scanBlock (folded : Bool) (least : Nat) (c : Cursor) : Except Error (String × Cursor) := do
  let (header, after) ← scanBlockHeader c.step
  let start ← after.restOfLine
  let fuel := start.rest.length + 1
  let (indent, breaks, first) : Nat × List Char × Cursor :=
    match header.increment with
    | none =>
      let (breaks, widest, first) := blankLines [] 0 fuel start
      (max least widest, breaks, first)
    | some n =>
      let indent := least + n - 1
      let (breaks, first) := emptyLines indent [] fuel start
      (indent, breaks, first)
  let (text, ended, breaks, last) := blockLines folded indent [] breaks none fuel first
  let ending :=
    match header.chomping with
    | .strip => []
    | .clip => ended.toList
    | .keep => ended.toList ++ breaks
  .ok (String.ofList (text ++ ending), last)

/-! ### Quoted texts -/

def shortEscapes : List (Char × Char) :=
  [('0', '\x00'), ('a', '\x07'), ('b', '\x08'), ('t', '\t'), ('\t', '\t'), ('n', '\n'),
    ('v', '\x0b'), ('f', '\x0c'), ('r', '\r'), ('e', '\x1b'), (' ', ' '), ('"', '"'), ('\\', '\\'),
    ('/', '/'), ('N', '\x85'), ('_', '\xa0'), ('L', '\u2028'), ('P', '\u2029')]

def escapeWidth? (c : Char) : Option Nat :=
  if c = 'x' then some 2 else if c = 'u' then some 4 else if c = 'U' then some 8 else none

def ofCodePoint (n : Nat) : Except Error Char :=
  if 0x7fffffff < n then .error .overflow
  else if 0x10ffff < n then .error .range
  else if 0xd800 ≤ n && n < 0xe000 then .ok '\ufffd'
  else .ok (Char.ofNat n)

def scanCode (width : Nat) (c : Cursor) : Except Error (Char × Cursor) := do
  let digits := (c.rest.take width).filterMap hexValue?
  if digits.length < width then .error .refused
  else
    let x ← ofCodePoint (Number.ofDigitValues 16 digits)
    .ok (x, c.advance width)

/-- Line ends and blanks at the beginning of the lines of a quoted text. No line of it may look like
the boundary of a document. -/
def quotedBreaks (breaks : List Char) : Nat → Cursor → Except Error (List Char × Cursor)
  | 0, c => .ok (breaks, c)
  | fuel + 1, c =>
    if c.atDocumentMark then .error .refused
    else
      match (c.skipWhile isBlank).lineBreak with
      | (some x, after) => quotedBreaks (breaks ++ [x]) fuel after
      | (none, here) => .ok (breaks, here)

/-- A line end inside a text together with those that follow it: a space, unless more follow or it is
a separator. -/
def foldBreaks (first : Char) (more : List Char) : List Char :=
  if first ≠ '\n' then first :: more else if more.isEmpty then [' '] else more

def quotedText (double : Bool) (text : List Char) : Nat → Cursor → Except Error (List Char × Cursor)
  | 0, _ => .error .refused
  | fuel + 1, c =>
    match c.rest with
    | [] => .error .refused
    | '\'' :: '\'' :: _ =>
      if double then quotedText double (text ++ ['\'']) fuel c.step
      else quotedText double (text ++ ['\'']) fuel (c.advance 2)
    | x :: _ =>
      if x = (if double then '"' else '\'') then .ok (text, c.step)
      else if isBlank x || isBreak x then do
        let (blanks, here) := c.takeWhile isBlank
        match here.lineBreak with
        | (none, _) => quotedText double (text ++ blanks) fuel here
        | (some first, after) =>
          let (more, after) ← quotedBreaks [] fuel after
          quotedText double (text ++ foldBreaks first more) fuel after
      else if double && x = '\\' then
        match c.peek 1 with
        | none => .error .refused
        | some e =>
          match shortEscapes.lookup e, escapeWidth? e with
          | some y, _ => quotedText double (text ++ [y]) fuel (c.advance 2)
          | none, some width => do
            let (y, after) ← scanCode width (c.advance 2)
            quotedText double (text ++ [y]) fuel after
          | none, none =>
            match c.step.lineBreak with
            | (none, _) => .error .refused
            | (some _, after) => do
              let (more, after) ← quotedBreaks [] fuel after
              quotedText double (text ++ more) fuel after
      else quotedText double (text ++ [x]) fuel c.step

def scanQuoted (double : Bool) (c : Cursor) : Except Error (String × Cursor) := do
  let (text, after) ← quotedText double [] (c.rest.length + 1) c.step
  .ok (String.ofList text, after)

/-! ### Plain texts -/

/-- How many characters of a plain text stand here up to a gap, a colon before one, or a bracket if
brackets are open. -/
def plainRun (inFlow : Bool) : List Char → Nat
  | [] => 0
  | x :: rest =>
    let next := rest.head?
    if isGap (some x) || (x = ':' && (isGap next || (inFlow && next.any isFlowMark))) ||
        (inFlow && (isFlowMark x || x = '?')) then 0
    else plainRun inFlow rest + 1

/-- Line ends after the first in a plain text, with the spaces between them; none when a document
ends. -/
def plainBreaks (breaks : List Char) : Nat → Cursor → Option (List Char) × Cursor
  | 0, c => (some breaks, c)
  | fuel + 1, c =>
    if c.peek 0 = some ' ' then plainBreaks breaks fuel c.step
    else
      match c.lineBreak with
      | (none, _) => (some breaks, c)
      | (some x, after) =>
        if after.atDocumentMark then (none, after)
        else plainBreaks (breaks ++ [x]) fuel after

/-- What stands between two words of a plain text, whether a line ended there, and the place after
it. -/
def plainSpaces (c : Cursor) : Option (List Char) × Bool × Cursor :=
  let (spaces, here) := c.takeWhile (· = ' ')
  match here.lineBreak with
  | (none, _) => (if spaces.isEmpty then none else some spaces, false, here)
  | (some first, after) =>
    if after.atDocumentMark then (none, true, after)
    else
      match plainBreaks [] (after.rest.length + 1) after with
      | (none, after) => (none, true, after)
      | (some more, after) => (some (foldBreaks first more), true, after)

/-- A plain text as far as it goes: its words, whether the last thing passed over was a line end, and
the place where it was left. -/
structure PlainText where
  text : List Char
  afterBreak : Bool
  after : Cursor

def plainText (inFlow : Bool) (indent : Int) (text spaces : List Char) (afterBreak : Bool) :
    Nat → Cursor → PlainText
  | 0, c => ⟨text, afterBreak, c⟩
  | fuel + 1, c =>
    let length := if c.peek 0 = some '#' then 0 else plainRun inFlow c.rest
    if length = 0 then ⟨text, afterBreak, c⟩
    else
      let text := text ++ spaces ++ c.rest.take length
      match plainSpaces (c.advance length) with
      | (none, broken, after) => ⟨text, broken, after⟩
      | (some spaces, broken, after) =>
        if after.peek 0 = some '#' || (!inFlow && (after.column : Int) < indent) then
          ⟨text, broken, after⟩
        else plainText inFlow indent text spaces broken fuel after

def startsPlain (inFlow : Bool) (c : Cursor) : Bool :=
  match c.peek 0 with
  | none => false
  | some x =>
    (!isGap (some x) && !"-?:,[]\x7b\x7d#&*!|>'\"%@`".toList.contains x) ||
      (!isGap (c.peek 1) && (x = '-' || (!inFlow && (x = '?' || x = ':'))))

end Phrasebook.Yaml

import Phrasebook.Number.Field

/-!
Strings and keys of TOML. A string stands between one or three quotes of either kind; between double
quotes it may hold escapes.
-/

namespace Phrasebook.Toml

open Text Number

inductive Error where
  | refused
  | longInteger
  deriving DecidableEq, Repr

def isSpace (c : Char) : Bool := c = ' ' || c = '\t'

def skipSpaces (cs : List Char) : List Char := cs.dropWhile isSpace

def isControl (c : Char) : Bool := (c.toNat < 0x20 || c.toNat = 0x7f) && c ≠ '\t'

def isBareKeyChar (c : Char) : Bool := isAsciiAlnum c || c = '-' || c = '_'

def skipComment (cs : List Char) : Except Error (List Char) :=
  match cs with
  | '#' :: rest =>
    let comment := rest.takeWhile (· ≠ '\n')
    if comment.any isControl then .error .refused else .ok (rest.drop comment.length)
  | _ => .ok cs

def shortEscapes : List (Char × Char) :=
  [('b', '\x08'), ('t', '\t'), ('n', '\n'), ('f', '\x0c'), ('r', '\r'), ('"', '"'), ('\\', '\\')]

def codeEscape (width : Nat) (cs : List Char) : Except Error (Char × List Char) :=
  let digits := (cs.take width).filterMap hexValue?
  let n := ofDigitValues 16 digits
  if digits.length < width || (0xd800 ≤ n && n < 0xe000) || 0x10ffff < n then .error .refused
  else .ok (Char.ofNat n, cs.drop width)

/-- What a backslash and the text behind it stand for. In a text of many lines it may end a line, and
then the blanks up to the next text do not count. -/
def escape (multiline : Bool) (cs : List Char) : Except Error (List Char × List Char) :=
  let blank := multiline && cs.head?.any fun c => isSpace c || c = '\n'
  if blank then
    match skipSpaces cs with
    | [] => .ok ([], [])
    | '\n' :: rest => .ok ([], rest.dropWhile fun c => isSpace c || c = '\n')
    | _ => .error .refused
  else
    match cs with
    | 'u' :: rest => (codeEscape 4 rest).map fun (c, after) => ([c], after)
    | 'U' :: rest => (codeEscape 8 rest).map fun (c, after) => ([c], after)
    | c :: rest =>
      match shortEscapes.lookup c with
      | some d => .ok ([d], rest)
      | none => .error .refused
    | [] => .error .refused

def quotedText (quote : Char) (multiline : Bool) (read : List Char) :
    Nat → List Char → Except Error (List Char × List Char)
  | 0, _ => .error .refused
  | fuel + 1, cs =>
    match cs with
    | [] => .error .refused
    | c :: rest =>
      if c = quote && !multiline then .ok (read, rest)
      else if c = quote && [quote, quote].isPrefixOf rest then .ok (read, rest.drop 2)
      else if c = '\\' && quote = '"' then do
        let (text, after) ← escape multiline rest
        quotedText quote multiline (read ++ text) fuel after
      else if isControl c && !(multiline && c = '\n') then .error .refused
      else quotedText quote multiline (read ++ [c]) fuel rest

/-- A text of many lines behind its three quotes. A line end behind them does not count; one or two
quotes before the closing three belong to the text. -/
def multilineText (quote : Char) (cs : List Char) : Except Error (List Char × List Char) := do
  let start := (after? '\n' cs).getD cs
  let (text, after) ← quotedText quote true [] (start.length + 1) start
  let extra := (after.takeWhile (· = quote)).take 2
  .ok (text ++ extra, after.drop extra.length)

def lineText (quote : Char) (cs : List Char) : Except Error (List Char × List Char) :=
  quotedText quote false [] (cs.length + 1) cs

def string (quote : Char) (cs : List Char) : Except Error (List Char × List Char) :=
  if [quote, quote, quote].isPrefixOf cs then multilineText quote (cs.drop 3)
  else lineText quote (cs.drop 1)

def keyPart (cs : List Char) : Except Error (String × List Char) :=
  match cs with
  | [] => .error .refused
  | c :: rest =>
    if c = '"' || c = '\'' then
      (lineText c rest).map fun (text, after) => (String.ofList text, after)
    else
      let bare := cs.takeWhile isBareKeyChar
      if bare.isEmpty then .error .refused
      else .ok (String.ofList bare, cs.drop bare.length)

def key : Nat → List Char → Except Error (List String × List Char)
  | 0, _ => .error .refused
  | fuel + 1, cs => do
    let (part, after) ← keyPart cs
    match skipSpaces after with
    | '.' :: rest =>
      let (parts, after) ← key fuel (skipSpaces rest)
      .ok (part :: parts, after)
    | after => .ok ([part], after)

end Phrasebook.Toml

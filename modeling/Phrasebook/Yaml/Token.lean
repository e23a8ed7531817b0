import Phrasebook.Number.Reading
import Phrasebook.Text.Utf8
import Phrasebook.Yaml.Cursor

/-!
Tokens of a YAML text, and the reading of those that are not scalars: directives, anchors, aliases
and tags.
-/

namespace Phrasebook.Yaml

open Text Number

inductive Directive where
  | version (major : Int)
  | handle (handle target : String)
  | other
  deriving DecidableEq, Repr

/-- The tag of a node as written: a handle that stands for the beginning of a tag, if any, and the
rest. -/
structure WrittenTag where
  handle : Option String
  suffix : String
  deriving DecidableEq, Repr

inductive Token where
  | directive (directive : Directive)
  | documentStart
  | documentEnd
  | blockSequence
  | blockMapping
  | blockEnd
  | flowSequence
  | flowSequenceEnd
  | flowMapping
  | flowMappingEnd
  | key
  | value
  | blockEntry
  | flowEntry
  | alias (name : String)
  | anchor (name : String)
  | tag (tag : WrittenTag)
  | scalar (text : String) (plain : Bool)
  deriving DecidableEq, Repr

def scanName (c : Cursor) : Except Error (String × Cursor) :=
  let (name, after) := c.takeWhile isNameChar
  if name.isEmpty then .error .refused else .ok (String.ofList name, after)

def scanAnchor (c : Cursor) : Except Error (String × Cursor) := do
  let (name, after) ← scanName c.step
  if isGap (after.peek 0) || (after.peek 0).any (fun x => "?:,]\x7d%@`".toList.contains x) then
    .ok (name, after)
  else .error .refused

def isUriChar (c : Char) : Bool := isAsciiAlnum c || "-;/?:@&=+$,_.!~*'()[]%".toList.contains c

def escapedBytes : List Char → Except Error (List UInt8 × List Char)
  | '%' :: a :: b :: rest =>
    match hexValue? a, hexValue? b with
    | some x, some y => do
      let (bytes, after) ← escapedBytes rest
      .ok (UInt8.ofNat (x * 16 + y) :: bytes, after)
    | _, _ => .error .refused
  | '%' :: _ => .error .refused
  | rest => .ok ([], rest)

def unescapeUri : Nat → List Char → Except Error (List Char)
  | 0, _ => .ok []
  | fuel + 1, cs =>
    let (direct, rest) := (cs.takeWhile (· ≠ '%'), cs.dropWhile (· ≠ '%'))
    if rest.isEmpty then .ok direct
    else do
      let (bytes, after) ← escapedBytes rest
      match Utf8.decode ⟨bytes.toArray⟩ with
      | .error _ => .error .refused
      | .ok text => do
        let others ← unescapeUri fuel after
        .ok (direct ++ text.toList ++ others)

def scanUri (c : Cursor) : Except Error (String × Cursor) := do
  let (written, after) := c.takeWhile isUriChar
  if written.isEmpty then .error .refused
  else
    let uri ← unescapeUri (written.length + 1) written
    .ok (String.ofList uri, after)

/-- A handle: an exclamation mark, and a name and a second mark unless a space follows. -/
def scanHandle (c : Cursor) : Except Error (String × Cursor) :=
  if c.peek 0 ≠ some '!' then .error .refused
  else if c.peek 1 = some ' ' then .ok ("!", c.step)
  else
    let (name, after) := c.step.takeWhile isNameChar
    if after.peek 0 = some '!' then .ok (String.ofList ('!' :: name ++ ['!']), after.step)
    else .error .refused

/-- A tag whose handle is spelled out when a second mark comes before the next space. -/
def scanShortTag (c : Cursor) : Except Error (WrittenTag × Cursor) := do
  let word := (c.rest.drop 1).takeWhile fun x => !isSpaceOrEnd (some x)
  let (handle, after) ← if word.contains '!' then scanHandle c else .ok ("!", c.step)
  let (suffix, after) ← scanUri after
  .ok (⟨some handle, suffix⟩, after)

def scanTag (c : Cursor) : Except Error (WrittenTag × Cursor) := do
  let (tag, after) ←
    if c.peek 1 = some '<' then do
      let (suffix, after) ← scanUri (c.advance 2)
      if after.peek 0 = some '>' then .ok (⟨none, suffix⟩, after.step) else .error .refused
    else if isGap (c.peek 1) then .ok (⟨none, "!"⟩, c.step)
    else scanShortTag c
  if isSpaceOrEnd (after.peek 0) then .ok (tag, after) else .error .refused

def scanVersionNumber (c : Cursor) : Except Error (Int × Cursor) := do
  let (digits, after) := c.takeWhile isAsciiDigit
  if digits.isEmpty then .error .refused
  else
    match readInt? digits with
    | some n => .ok (n, after)
    | none => .error .range

def scanVersion (c : Cursor) : Except Error (Directive × Cursor) := do
  let (major, after) ← scanVersionNumber c.skipSpaces
  if after.peek 0 ≠ some '.' then .error .refused
  else
    let (_, after) ← scanVersionNumber after.step
    if isSpaceOrEnd (after.peek 0) then .ok (.version major, after) else .error .refused

def scanHandleDefinition (c : Cursor) : Except Error (Directive × Cursor) := do
  let (handle, after) ← scanHandle c.skipSpaces
  if after.peek 0 ≠ some ' ' then .error .refused
  else
    let (target, after) ← scanUri after.skipSpaces
    if isSpaceOrEnd (after.peek 0) then .ok (.handle handle target, after) else .error .refused

def scanDirective (c : Cursor) : Except Error (Directive × Cursor) := do
  let (name, after) ← scanName c.step
  if !isSpaceOrEnd (after.peek 0) then .error .refused
  else
    let (directive, after) ←
      if name = "YAML" then scanVersion after
      else if name = "TAG" then scanHandleDefinition after
      else .ok (.other, after.skipWhile (!isBreak ·))
    let after ← after.restOfLine
    .ok (directive, after)

end Phrasebook.Yaml

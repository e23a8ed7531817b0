import Phrasebook.Toml.Scalar
import Phrasebook.Toml.Table

/-!
TOML documents: statements on lines of their own, each a header or a key with its value.
-/

namespace Phrasebook.Toml

open Text

def orRefused {α : Type} : Option α → Except Error α
  | some a => .ok a
  | none => .error .refused

def skipBetween : Nat → List Char → Except Error (List Char)
  | 0, cs => .ok cs
  | fuel + 1, cs => do
    let after ← skipComment (cs.dropWhile fun c => isSpace c || c = '\n')
    if after.length = cs.length then .ok cs else skipBetween fuel after

mutual

def value : Nat → List Char → Except Error (Value × List Char)
  | 0, _ => .error .refused
  | fuel + 1, cs =>
    match cs with
    | '[' :: rest => do
      let rest ← skipBetween (rest.length + 1) rest
      let (items, after) ← items fuel rest
      .ok (.list items, after)
    | '\x7b' :: rest =>
      match skipSpaces rest with
      | '\x7d' :: after => .ok (.map [], after)
      | rest => do
        let (entries, after) ← inlineEntries [] fuel rest
        .ok (.map (Entry.toPairs entries), after)
    | c :: _ =>
      if c = '"' || c = '\'' then
        (string c cs).map fun (text, after) => (.text (String.ofList text), after)
      else scalar cs
    | [] => .error .refused

def items : Nat → List Char → Except Error (List Value × List Char)
  | 0, _ => .error .refused
  | fuel + 1, cs =>
    match cs with
    | ']' :: after => .ok ([], after)
    | _ => do
      let (item, rest) ← value fuel cs
      match ← skipBetween (rest.length + 1) rest with
      | ']' :: after => .ok ([item], after)
      | ',' :: rest =>
        let rest ← skipBetween (rest.length + 1) rest
        let (others, after) ← items fuel rest
        .ok (item :: others, after)
      | _ => .error .refused

def keyAndValue : Nat → List Char → Except Error ((List String × Value) × List Char)
  | 0, _ => .error .refused
  | fuel + 1, cs => do
    let (path, rest) ← key (cs.length + 1) cs
    match rest with
    | '=' :: rest =>
      let (v, after) ← value fuel (skipSpaces rest)
      .ok ((path, v), after)
    | _ => .error .refused

/-- The entries of a table in braces behind those read, on one line and without a last comma. -/
def inlineEntries (entries : Entries) : Nat → List Char → Except Error (Entries × List Char)
  | 0, _ => .error .refused
  | fuel + 1, cs => do
    let ((path, v), rest) ← keyAndValue fuel cs
    let entries ← orRefused (entries.addValue path v)
    match skipSpaces rest with
    | '\x7d' :: after => .ok (entries, after)
    | ',' :: rest => inlineEntries entries fuel (skipSpaces rest)
    | _ => .error .refused

end

/-- The tables so far, the path of the last header, and the tables that keys with dots opened behind
it; the next header closes these. -/
structure Draft where
  entries : Entries := []
  header : List String := []
  dotted : List (List String) := []

namespace Draft

def closeDotted (draft : Draft) : Draft :=
  { draft with entries := draft.dotted.foldl Entries.close draft.entries, dotted := [] }

def addPair (draft : Draft) (path : List String) (v : Value) : Except Error Draft := do
  let opened := (List.range (path.length - 1)).map fun i => draft.header ++ path.take (i + 1)
  if opened.any draft.entries.isClosed then .error .refused
  else
    let entries ← orRefused (draft.entries.addValue (draft.header ++ path) v)
    .ok { draft with entries := entries, dotted := draft.dotted ++ opened }

def addHeader (draft : Draft) (cs : List Char) : Except Error (Draft × List Char) := do
  let draft := draft.closeDotted
  let (isList, rest) := match cs with
    | '[' :: '[' :: rest => (true, rest)
    | cs => (false, cs.drop 1)
  let (path, rest) ← key (rest.length + 1) (skipSpaces rest)
  let entries ← orRefused
    (if isList then draft.entries.appendTable path else draft.entries.openTable path)
  let after ← orRefused (Number.after? ']' rest)
  let after ← if isList then orRefused (Number.after? ']' after) else .ok after
  .ok ({ draft with entries := entries, header := path }, after)

def statement (draft : Draft) (cs : List Char) : Except Error (Draft × List Char) :=
  match cs with
  | [] => .ok (draft, cs)
  | '\n' :: _ => .ok (draft, cs)
  | '#' :: _ => .ok (draft, cs)
  | '[' :: _ => draft.addHeader cs
  | _ => do
    let ((path, v), after) ← keyAndValue (2 * cs.length + 2) cs
    let draft ← draft.addPair path v
    .ok (draft, after)

def statements (draft : Draft) : Nat → List Char → Except Error Draft
  | 0, _ => .ok draft
  | fuel + 1, cs => do
    let (draft, rest) ← draft.statement (skipSpaces cs)
    match ← skipComment (skipSpaces rest) with
    | [] => .ok draft
    | '\n' :: rest => draft.statements fuel rest
    | _ => .error .refused

end Draft

def parse (text : List Char) : Except Error Value := do
  let draft ← ({} : Draft).statements (text.length + 1) text
  .ok (.map (Entry.toPairs draft.entries))

end Phrasebook.Toml

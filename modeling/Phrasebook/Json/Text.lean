import Phrasebook.Number.Layout
import Phrasebook.Text.Quoted
import Phrasebook.Value

/-!
Writing JSON for a reader: every item and member on a line of its own, two spaces deeper than what it
stands in. Characters beyond ASCII are written as they are.
-/

namespace Phrasebook.Json

open Text Number

def escapeChar (c : Char) : List Char :=
  if c = '"' || c = '\\' then ['\\', c]
  else if c = '\n' then ['\\', 'n']
  else if c = '\r' then ['\\', 'r']
  else if c = '\t' then ['\\', 't']
  else if c = '\x08' then ['\\', 'b']
  else if c = '\x0c' then ['\\', 'f']
  else if c.toNat < 0x20 then '\\' :: 'u' :: Quoted.paddedDigits 16 4 c.toNat
  else [c]

def quote (s : String) : String := String.ofList ('"' :: s.toList.flatMap escapeChar ++ ['"'])

def newLine (depth : Nat) : String := String.ofList ('\n' :: List.replicate (2 * depth) ' ')

def bracketed (opening closing : String) (depth : Nat) (parts : List String) : String :=
  if parts.isEmpty then opening ++ closing
  else
    opening ++ newLine (depth + 1) ++ ("," ++ newLine (depth + 1)).intercalate parts ++
      newLine depth ++ closing

mutual

def render (depth : Nat) : Value → String
  | .text s => quote s
  | .bool b => if b then "true" else "false"
  | .int i => intText i
  | .list items => bracketed "[" "]" depth (renderItems (depth + 1) items)
  | .map entries => bracketed "\x7b" "\x7d" depth (renderMembers (depth + 1) entries)
  | _ => "null"

def renderItems (depth : Nat) : List Value → List String
  | [] => []
  | item :: rest => render depth item :: renderItems depth rest

def renderMembers (depth : Nat) : List (Value × Value) → List String
  | [] => []
  | (key, v) :: rest => (render depth key ++ ": " ++ render depth v) :: renderMembers depth rest

end

end Phrasebook.Json

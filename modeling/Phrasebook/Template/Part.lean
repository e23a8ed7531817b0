/-!
Parts of a message template as it is filled in. This reading is wider than that of placeholders: a
field may name a part of its argument, ask for a conversion, and give a style, which may hold fields
of its own.
-/

namespace Phrasebook.Template

/-- A field as written: what names the value, the conversion after `!`, and the style after `:`. -/
structure Field where
  name : List Char
  conversion : Option Char := none
  style : List Char := []
  deriving DecidableEq, Repr

inductive Part where
  | char (c : Char)
  | field (f : Field)
  | broken
  deriving DecidableEq, Repr

inductive State where
  | outside
  | opened
  | closed
  | name (read : List Char) (bracketed : Bool)
  | conversion (name : List Char)
  | converted (name : List Char) (conversion : Char)
  | style (name : List Char) (conversion : Option Char) (read : List Char) (depth : Nat)

/-- What a character of a name leads to: the next state, or the part that ends here. -/
def stepName (read : List Char) (bracketed : Bool) (c : Char) : State ⊕ Part :=
  if bracketed then .inl (.name (c :: read) (c ≠ ']'))
  else if c = '\x7b' then .inr .broken
  else if c = '\x7d' then .inr (.field ⟨read.reverse, none, []⟩)
  else if c = ':' then .inl (.style read.reverse none [] 0)
  else if c = '!' then .inl (.conversion read.reverse)
  else .inl (.name (c :: read) (c = '['))

def step : State → Char → State ⊕ Part
  | .outside, c =>
    if c = '\x7b' then .inl .opened
    else if c = '\x7d' then .inl .closed
    else .inr (.char c)
  | .opened, c => if c = '\x7b' then .inr (.char c) else stepName [] false c
  | .closed, c => if c = '\x7d' then .inr (.char c) else .inr .broken
  | .name read bracketed, c => stepName read bracketed c
  | .conversion name, c => .inl (.converted name c)
  | .converted name conversion, c =>
    if c = '\x7d' then .inr (.field ⟨name, some conversion, []⟩)
    else if c = ':' then .inl (.style name (some conversion) [] 0)
    else .inr .broken
  | .style name conversion read depth, c =>
    if c = '\x7b' then .inl (.style name conversion (c :: read) (depth + 1))
    else if c = '\x7d' then
      match depth with
      | 0 => .inr (.field ⟨name, conversion, read.reverse⟩)
      | depth + 1 => .inl (.style name conversion (c :: read) depth)
    else .inl (.style name conversion (c :: read) depth)

def partsFrom : State → List Char → List Part
  | .outside, [] => []
  | _, [] => [.broken]
  | state, c :: rest =>
    match step state c with
    | .inl next => partsFrom next rest
    | .inr .broken => [.broken]
    | .inr part => part :: partsFrom .outside rest

def parts (template : List Char) : List Part := partsFrom .outside template

end Phrasebook.Template

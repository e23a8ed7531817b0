import Phrasebook.Issue
import Phrasebook.Number.Reading

/-!
Placeholders of message templates. A field between braces holds an index or a name; doubled braces
stand for single ones. Anything else between braces is refused, so that the parameters of a message
can be read off its template. The pieces of a template spell it, and its shape is what a caller has to
supply.
-/

namespace Phrasebook

open Text Number

inductive Placeholder where
  | positional (index : Nat)
  | named (name : String)
  deriving DecidableEq, Repr

namespace Placeholder

def mode : Placeholder → Mode
  | positional _ => .positional
  | named _ => .named

def fieldName : Placeholder → String
  | positional index => natText index
  | named name => name

def token (p : Placeholder) : String := "\x7b" ++ p.fieldName ++ "\x7d"

end Placeholder

inductive Piece where
  | char (c : Char)
  | field (offset : Nat) (token : List Char)
  | fault (offset : Nat) (fragment : List Char)
  deriving DecidableEq, Repr

namespace Piece

inductive State where
  | outside
  | opened (start : Nat)
  | inside (start : Nat) (token : List Char)
  | closed (start : Nat)

def scan : State → Nat → List Char → List Piece
  | .outside, _, [] => []
  | .opened start, _, [] => [fault start ['\x7b']]
  | .inside start token, _, [] => [fault start ('\x7b' :: token.reverse)]
  | .closed start, _, [] => [fault start ['\x7d']]
  | .outside, offset, c :: rest =>
    if c = '\x7b' then scan (.opened offset) (offset + 1) rest
    else if c = '\x7d' then scan (.closed offset) (offset + 1) rest
    else char c :: scan .outside (offset + 1) rest
  | .opened start, offset, c :: rest =>
    if c = '\x7b' then char c :: scan .outside (offset + 1) rest
    else if c = '\x7d' then field start [] :: scan .outside (offset + 1) rest
    else scan (.inside start [c]) (offset + 1) rest
  | .inside start token, offset, c :: rest =>
    if c = '\x7d' then
      if token.contains '\x7b' then [fault start ('\x7b' :: (c :: token).reverse)]
      else field start token.reverse :: scan .outside (offset + 1) rest
    else scan (.inside start (c :: token)) (offset + 1) rest
  | .closed start, offset, c :: rest =>
    if c = '\x7d' then char c :: scan .outside (offset + 1) rest else [fault start ['\x7d']]

def ofTemplate (template : List Char) : List Piece := scan .outside 0 template

end Piece

inductive TemplateFault where
  | malformed (fragment : String) (position : Option Nat)
  | mixed (positional named : Placeholder)
  | longIndex
  deriving DecidableEq, Repr

def TemplateFault.failure (key : String) (place : Place) : TemplateFault → Failure
  | malformed fragment position => .issue (.malformed key fragment position place)
  | mixed p n => .issue (.modeConflict key (.mixes p.token n.token) place)
  | longIndex => .breach .value

def fields : List Piece → Except TemplateFault (List (Nat × List Char))
  | [] => .ok []
  | .char _ :: rest => fields rest
  | .field offset token :: rest => (fields rest).map ((offset, token) :: ·)
  | .fault offset fragment :: _ => .error (.malformed (String.ofList fragment) (some offset))

/-- A token as a placeholder: digits are an index, a name is one of ASCII letters, digits and
underscores that opens with no digit. -/
def classify (position : Option Nat) (token : List Char) : Except TemplateFault Placeholder :=
  if !token.isEmpty && token.all isAsciiDigit then
    if maxIntegerDigits < token.length then .error .longIndex
    else .ok (.positional (ofDigitValues 10 (token.map fun c => c.toNat - '0'.toNat)))
  else if isAsciiName token then .ok (.named (String.ofList token))
  else .error (.malformed ("\x7b" ++ String.ofList token ++ "\x7d") position)

/-- The placeholders of pieces in order, repetitions included; the leftmost fault counts. -/
def placeholders : List Piece → Except TemplateFault (List Placeholder)
  | [] => .ok []
  | .char _ :: rest => placeholders rest
  | .field offset token :: rest =>
    match classify (some offset) token with
    | .error fault => .error fault
    | .ok p => (placeholders rest).map (p :: ·)
  | .fault offset fragment :: _ => .error (.malformed (String.ofList fragment) (some offset))

def distinct {α : Type} [DecidableEq α] : List α → List α
  | [] => []
  | a :: rest => a :: (distinct rest).filter (· ≠ a)

/-- What a template asks of its caller: the distinct indices or names in order of first occurrence. -/
inductive Shape where
  | noArgs
  | positional (indices : List Nat)
  | named (names : List String)
  deriving DecidableEq, Repr

namespace Shape

def mode : Shape → Mode
  | noArgs => .noArgs
  | positional _ => .positional
  | named _ => .named

def isEmpty : Shape → Bool
  | noArgs => true
  | _ => false

def placeholders : Shape → List Placeholder
  | noArgs => []
  | positional indices => indices.map .positional
  | named names => names.map .named

/-- How many parameters a caller supplies. An index counts with all below it, used or not. -/
def arity : Shape → Nat
  | noArgs => 0
  | positional indices => indices.foldl max 0 + 1
  | named names => names.length

def indices : Shape → List Nat
  | positional indices => indices
  | _ => []

def names : Shape → List String
  | named names => names
  | _ => []

def indexOf? : Placeholder → Option Nat
  | .positional index => some index
  | .named _ => none

def nameOf? : Placeholder → Option String
  | .named name => some name
  | .positional _ => none

def ofPlaceholders (ps : List Placeholder) : Except TemplateFault Shape :=
  let ps := distinct ps
  match ps.filterMap indexOf?, ps.filterMap nameOf? with
  | [], [] => .ok noArgs
  | indices, [] => .ok (positional indices)
  | [], names => .ok (named names)
  | index :: _, name :: _ => .error (.mixed (.positional index) (.named name))

def ofTemplate (template : String) : Except TemplateFault Shape :=
  match Phrasebook.placeholders (Piece.ofTemplate template.toList) with
  | .error fault => .error fault
  | .ok ps => ofPlaceholders ps

/-- Why a variant with shape `v` does not go with a default template of shape `d`: it may use fewer
placeholders, never others. -/
def mismatch? (d v : Shape) : Option Mismatch :=
  match d, v with
  | _, noArgs => none
  | noArgs, v => some (.takesNone (v.placeholders.map Placeholder.token))
  | positional ds, positional vs =>
    let arity := (positional ds).arity
    let extra := (vs.filter (arity ≤ ·)).mergeSort
    if extra.isEmpty then none
    else some (.beyondArity (extra.map fun i => (Placeholder.positional i).token) arity)
  | named ds, named vs =>
    let unknown := vs.filter (!ds.contains ·)
    if unknown.isEmpty then none
    else some (.undeclared (unknown.map fun n => (Placeholder.named n).token))
  | d, v => some (.otherMode v.mode d.mode)

end Shape

end Phrasebook

import Phrasebook.Template.Part
import Phrasebook.Template.Style
import Phrasebook.OrderedMap
import Phrasebook.Report

/-!
Filling in templates. Fields take their values from a list of arguments or from a map of names; a
template that does not go with its arguments is given back as it is, and a warning says so.
-/

namespace Phrasebook.Template

open Text Number

inductive Arguments where
  | positional (values : List Value)
  | named (values : OrderedMap String Value)

/-- Whether fields count through the arguments or name them by number; the two do not mix. -/
inductive Numbering where
  | undecided
  | counted (next : Nat)
  | numbered

inductive Selector where
  | index (i : Nat)
  | key (name : String)
  deriving DecidableEq, Repr

/-- Decimal digits are an index and other text a key; a name that begins with a number too large for
any index is neither. -/
def Selector.ofChars? (cs : List Char) : Option Selector :=
  match size? cs with
  | none => none
  | some (some i, []) => some (.index i)
  | some _ => some (.key (String.ofList cs))

inductive Access where
  | attribute (name : List Char)
  | item (name : List Char)
  deriving DecidableEq, Repr

/-- The steps that a field name takes after its first part; `under` is the step being read, with its
name in reverse. -/
def accessesFrom : Option (Bool × List Char) → List Char → Option (List Access)
  | none, [] => some []
  | some (false, read), [] =>
    if read.isEmpty then none else some [.attribute read.reverse]
  | some (true, _), [] => none
  | none, c :: rest =>
    if c = '.' then accessesFrom (some (false, [])) rest
    else if c = '[' then accessesFrom (some (true, [])) rest
    else none
  | some (false, read), c :: rest =>
    if c = '.' || c = '[' then
      if read.isEmpty then none
      else (accessesFrom (some (c = '[', [])) rest).map (.attribute read.reverse :: ·)
    else accessesFrom (some (false, c :: read)) rest
  | some (true, read), c :: rest =>
    if c = ']' then
      if read.isEmpty then none
      else (accessesFrom none rest).map (.item read.reverse :: ·)
    else accessesFrom (some (true, c :: read)) rest

def attribute? (name : List Char) : Value → Option Value
  | .float x =>
    if name = "real".toList then some (.float x)
    else if name = "imag".toList then some (.float (Binary64.zero false))
    else none
  | v =>
    match v.integer? with
    | none => none
    | some i =>
      if name = "real".toList || name = "numerator".toList then some (.int i)
      else if name = "imag".toList then some (.int 0)
      else if name = "denominator".toList then some (.int 1)
      else none

/-- The part of a value in brackets. Lists and texts have parts by index, maps by key, and an index
into a map is an integer key. -/
def item? : Selector → Value → Option Value
  | .index i, .list items => items[i]?
  | .index i, .pair a b => [a, b][i]?
  | .index i, .text s => s.toList[i]?.map fun c => .text c.toString
  | .index i, .map entries => Value.lookup entries (.int i)
  | .key name, .map entries => Value.lookup entries (.text name)
  | _, _ => none

def Access.reach? : Access → Value → Option Value
  | .attribute name, v => attribute? name v
  | .item name, v => (Selector.ofChars? name).bind fun selector => item? selector v

def follow : List Access → Value → Option Value
  | [], v => some v
  | access :: rest, v => (access.reach? v).bind (follow rest)

def Arguments.at? : Arguments → Nat → Option Value
  | .positional values, i => values[i]?
  | .named _, _ => none

def Arguments.named? : Arguments → String → Option Value
  | .positional _, _ => none
  | .named values, name => values.get? name

def fetch (arguments : Arguments) (numbering : Numbering) (name : List Char) :
    Option (Value × Numbering) :=
  let first := name.takeWhile fun c => !(c = '.' || c = '[')
  let found? : Option (Value × Numbering) :=
    if first.isEmpty then
      match numbering with
      | .undecided => (arguments.at? 0).map (·, .counted 1)
      | .counted next => (arguments.at? next).map (·, .counted (next + 1))
      | .numbered => none
    else
      match Selector.ofChars? first, numbering with
      | some (.index _), .counted _ => none
      | some (.index i), _ => (arguments.at? i).map (·, .numbered)
      | some (.key name), _ => (arguments.named? name).map (·, numbering)
      | none, _ => none
  match found?, accessesFrom none (name.drop first.length) with
  | some (v, numbering), some accesses => (follow accesses v).map (·, numbering)
  | _, _ => none

def convert? (value : Value) : Option Char → Option Value
  | none => some value
  | some 's' => value.text?.map .text
  | some 'r' => value.literal?.map .text
  | some 'a' =>
    value.literal?.map fun s => .text (String.ofList (Quoted.asciiOnly s.toList))
  | some _ => none

def fillParts (expand : Numbering → List Char → Except Fault (List Char × Numbering))
    (arguments : Arguments) :
    Numbering → List Part → Except Fault (List Char × Numbering)
  | numbering, [] => .ok ([], numbering)
  | _, .broken :: _ => .error .mismatch
  | numbering, .char c :: rest =>
    (fillParts expand arguments numbering rest).map fun (text, n) => (c :: text, n)
  | numbering, .field f :: rest =>
    match fetch arguments numbering f.name with
    | none => .error .mismatch
    | some (value, numbering) =>
      match convert? value f.conversion with
      | none => .error .mismatch
      | some value =>
        match (if f.style.contains '\x7b' then expand numbering f.style
          else .ok (f.style, numbering)) with
        | .error fault => .error fault
        | .ok (style, numbering) =>
          match formatValue style value with
          | .error fault => .error fault
          | .ok text =>
            (fillParts expand arguments numbering rest).map fun (t, n) => (text ++ t, n)

def maxDepth : Nat := 2

def fillFrom (arguments : Arguments) :
    Nat → Numbering → List Char → Except Fault (List Char × Numbering)
  | 0, _, _ => .error .mismatch
  | depth + 1, numbering, template =>
    fillParts (fillFrom arguments depth) arguments numbering (parts template)

def fill? (arguments : Arguments) (template : String) : Except Fault String :=
  (fillFrom arguments maxDepth .undecided template.toList).map fun (text, _) => String.ofList text

/-- A template filled in, or the template itself with a warning when it does not go with the
arguments. -/
def fill (arguments : Arguments) (template : String) : Report String :=
  match fill? arguments template with
  | .ok text => pure text
  | .error .mismatch => ⟨[.notFormatted template], .ok template⟩
  | .error .overflow => .fail (.breach .overflow)

def fillPositional (template : String) (values : List Value) : Report String :=
  fill (.positional values) template

def fillNamed (template : String) (values : OrderedMap String Value) : Report String :=
  fill (.named values) template

end Phrasebook.Template

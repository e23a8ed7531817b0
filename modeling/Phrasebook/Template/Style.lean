import Phrasebook.Number.Reading
import Phrasebook.Value.Text

/-!
The style a field asks for after its colon: fill and alignment, sign, width, grouping, precision and
kind. The same notation serves texts, integers and binary numbers, and each of them refuses the parts
that mean nothing for it.
-/

namespace Phrasebook.Template

open Text Number

inductive Fault where
  | mismatch
  | overflow
  deriving DecidableEq, Repr

inductive Align where
  | left
  | right
  | center
  | afterSign
  deriving DecidableEq, Repr

def Align.ofChar? : Char → Option Align
  | '<' => some .left
  | '>' => some .right
  | '^' => some .center
  | '=' => some .afterSign
  | _ => none

structure Style where
  fill : Char := ' '
  align : Align
  sign : Option Char := none
  plainZero : Bool := false
  alternate : Bool := false
  width : Nat := 0
  grouping : Option Char := none
  precision : Option Nat := none
  kind : Option Char := none
  deriving DecidableEq, Repr

def maxSize : Nat := Nat.pow 2 63 - 1

def maxPrecision : Nat := Nat.pow 2 31 - 1

/-- The number at the head of a text, when there is one, and the rest; none when it is too large. -/
def size? (cs : List Char) : Option (Option Nat × List Char) :=
  let values := (cs.takeWhile isDecimal).filterMap decimalValue?
  let n := ofDigitValues 10 values
  if maxSize < n then none
  else some (if values.isEmpty then none else some n, cs.drop values.length)

def takeIf (p : Char → Bool) : List Char → Option Char × List Char
  | c :: rest => if p c then (some c, rest) else (none, c :: rest)
  | [] => (none, [])

def takeAlign (cs : List Char) : Option Char × Option Align × List Char :=
  match cs with
  | f :: a :: rest =>
    match Align.ofChar? a with
    | some align => (some f, some align, rest)
    | none =>
      match Align.ofChar? f with
      | some align => (none, some align, a :: rest)
      | none => (none, none, cs)
  | [a] =>
    match Align.ofChar? a with
    | some align => (none, some align, [])
    | none => (none, none, cs)
  | [] => (none, none, [])

def groupingFits (separator : Char) : Option Char → Bool
  | none => true
  | some kind =>
    "defgEG%F".toList.contains kind || (separator = '_' && "boxX".toList.contains kind)

def Style.read? (usual : Align) (text : List Char) : Option Style := do
  let (fill, align, cs) := takeAlign text
  let (sign, cs) := takeIf (fun c => c = ' ' || c = '+' || c = '-') cs
  let (plain, cs) := takeIf (· = 'z') cs
  let (alternate, cs) := takeIf (· = '#') cs
  let (padding, cs) := if fill.isSome then (none, cs) else takeIf (· = '0') cs
  let (width, cs) ← size? cs
  let (comma, cs) := takeIf (· = ',') cs
  let (underscore, cs) := takeIf (· = '_') cs
  if comma.isSome && underscore.isSome then none
  else if underscore.isSome && cs.head? = some ',' then none
  else do
    let (point, cs) := takeIf (· = '.') cs
    let (precision, cs) ← if point.isSome then size? cs else some (none, cs)
    if point.isSome && precision.isNone then none
    else if 1 < cs.length then none
    else
      let kind := cs.head?
      let grouping := comma.or underscore
      if grouping.any fun separator => !groupingFits separator kind then none
      else
        some {
          fill := fill.getD (if padding.isSome then '0' else ' ')
          align := align.getD (if padding.isSome && usual = .right then .afterSign else usual)
          sign := sign
          plainZero := plain.isSome
          alternate := alternate.isSome
          width := width.getD 0
          grouping := grouping
          precision := precision
          kind := kind }

def Style.pad (style : Style) (text : List Char) : List Char :=
  let missing := style.width - text.length
  match style.align with
  | .left => text ++ List.replicate missing style.fill
  | .center =>
    List.replicate (missing / 2) style.fill ++ text ++
      List.replicate (missing - missing / 2) style.fill
  | _ => List.replicate missing style.fill ++ text

def Style.formatText (style : Style) (text : List Char) : Option (List Char) :=
  if style.sign.isSome || style.plainZero || style.alternate || style.align = .afterSign ||
      style.grouping.isSome || !(style.kind = none || style.kind = some 's') then none
  else
    match style.precision with
    | some n => some (style.pad (text.take n))
    | none => some (style.pad text)

/-- Digits, the last first, in groups of `group` behind separators, with zeros until they fill
`width`. -/
def grouped (separator : Char) (group : Nat) : Nat → List Char → Nat → List Char
  | 0, _, _ => []
  | fuel + 1, digits, width =>
    let length := min group (max (max digits.length width) 1)
    let chunk := digits.take length ++ List.replicate (length - digits.length) '0'
    let rest := digits.drop length
    if rest.isEmpty && width ≤ length then chunk
    else chunk ++ separator :: grouped separator group fuel rest (width - length - 1)

def groupDigits (separator : Option Char) (group : Nat) (digits : List Char) (width : Nat) :
    List Char :=
  if digits.isEmpty then []
  else
    match separator with
    | none => List.replicate (width - digits.length) '0' ++ digits
    | some s => (grouped s group (digits.length + width + 1) digits.reverse width).reverse

/-- A number in a style: its sign, a base mark, the digits to be grouped, and what follows them. -/
def Style.layOut (style : Style) (negative : Bool) (mark digits rest : List Char) : List Char :=
  let sign := if negative then ['-']
    else match style.sign with
      | some '+' => ['+']
      | some ' ' => [' ']
      | _ => []
  let fixed := sign.length + mark.length + rest.length
  let least := if style.fill = '0' && style.align = .afterSign then style.width - fixed else 0
  let group := if style.kind.any "boxX".toList.contains then 4 else 3
  let body := groupDigits style.grouping group digits least
  let missing := style.width - (fixed + body.length)
  match style.align with
  | .afterSign => sign ++ mark ++ List.replicate missing style.fill ++ body ++ rest
  | _ => style.pad (sign ++ mark ++ body ++ rest)

def Style.formatFloat (style : Style) (x : Binary64) : Option (List Char) :=
  let precision := style.precision.getD 6
  let layout? : Option Layout := match style.kind with
    | none =>
      some (match style.precision with
        | none => { style := .shortest, alternate := style.alternate }
        | some n => { style := .general, precision := n, alternate := style.alternate })
    | some kind =>
      let base : Layout :=
        { precision := precision, alternate := style.alternate, pointZero := false }
      match kind with
      | 'e' => some { base with style := .scientific }
      | 'E' => some { base with style := .scientific, upper := true }
      | 'f' => some { base with style := .fixed }
      | 'F' => some { base with style := .fixed, upper := true }
      | 'g' => some { base with style := .general }
      | 'G' => some { base with style := .general, upper := true }
      | 'n' => some { base with style := .general }
      | '%' => some { base with style := .fixed }
      | _ => none
  if maxPrecision < precision then none
  else layout?.map fun layout =>
    let percent := style.kind = some '%'
    let (negative, magnitude) := layout.write (if percent then x.scale 100 else x)
    let mantissa := magnitude.takeWhile fun c => !(c = 'e' || c = 'E')
    let isZero := mantissa.all fun c => c = '0' || c = '.'
    let negative := negative && !(style.plainZero && isZero)
    let digits := magnitude.takeWhile isAsciiDigit
    let rest := magnitude.drop digits.length ++ (if percent then ['%'] else [])
    style.layOut negative [] digits rest

def digitsIn (kind : Char) (n : Nat) : List Char × List Char :=
  match kind with
  | 'b' => (['0', 'b'], Nat.toDigits 2 n)
  | 'o' => (['0', 'o'], Nat.toDigits 8 n)
  | 'x' => (['0', 'x'], Nat.toDigits 16 n)
  | 'X' => (['0', 'X'], (Nat.toDigits 16 n).map Char.toUpper)
  | _ => ([], Nat.toDigits 10 n)

def isDecimalKind (kind : Char) : Bool := kind = 'd' || kind = 'n'

/-- An integer in a style. As a character it has to be a code point, and in a form with a point it has
to be in the range of binary numbers. -/
def Style.formatInt (style : Style) (i : Int) : Except Fault (List Char) :=
  let kind := style.kind.getD 'd'
  if "eEfFgG%".toList.contains kind then
    match Binary64.ofInt? i with
    | none => .error .overflow
    | some x =>
      match style.formatFloat x with
      | some text => .ok text
      | none => .error .mismatch
  else if !"bcdnoxX".toList.contains kind || style.precision.isSome || style.plainZero then
    .error .mismatch
  else if kind = 'c' then
    if style.sign.isSome || style.alternate then .error .mismatch
    else if i < 0 || 0x10ffff < i then .error .overflow
    else .ok (style.layOut false [] [] [Char.ofNat i.toNat])
  else if isDecimalKind kind && exceedsDigitLimit i then .error .mismatch
  else
    let (mark, digits) := digitsIn kind i.natAbs
    .ok (style.layOut (i < 0) (if style.alternate then mark else []) digits [])

def formatValue (spec : List Char) (value : Value) : Except Fault (List Char) :=
  if spec.isEmpty then
    match value.text? with
    | some text => .ok text.toList
    | none => .error .mismatch
  else
    let read (usual : Align) (use : Style → Except Fault (List Char)) :
        Except Fault (List Char) :=
      match Style.read? usual spec with
      | some style => use style
      | none => .error .mismatch
    let orMismatch (text? : Option (List Char)) : Except Fault (List Char) :=
      match text? with
      | some text => .ok text
      | none => .error .mismatch
    match value with
    | .text s => read .left fun style => orMismatch (style.formatText s.toList)
    | .int i => read .right fun style => style.formatInt i
    | .bool b => read .right fun style => style.formatInt (if b then 1 else 0)
    | .float x => read .right fun style => orMismatch (style.formatFloat x)
    | _ => .error .mismatch

end Phrasebook.Template

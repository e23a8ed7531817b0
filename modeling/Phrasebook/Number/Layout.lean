import Phrasebook.Number.Digits

/-!
Written forms of numbers. A binary number is written positionally, with an exponent, or in whichever
of the two is shorter; without further request it is written with the fewest digits that read back,
positionally from `1e-4` up to `1e16`.
-/

namespace Phrasebook.Number

inductive Style where
  | shortest
  | scientific
  | fixed
  /-- `precision` significant digits, with an exponent for very small and very large numbers. -/
  | general
  deriving DecidableEq, Repr

structure Layout where
  style : Style := .shortest
  precision : Nat := 0
  alternate : Bool := false
  pointZero : Bool := true
  upper : Bool := false
  deriving DecidableEq, Repr

namespace Digits

def positional (d : Digits) (pointZero keepPoint : Bool) : List Char :=
  let before := d.point.toNat
  let whole :=
    if d.point ≤ 0 then ['0']
    else d.digits.take before ++ List.replicate (before - d.digits.length) '0'
  let fraction :=
    if d.point ≤ 0 then List.replicate (-d.point).toNat '0' ++ d.digits else d.digits.drop before
  let fraction := if fraction.isEmpty && pointZero then ['0'] else fraction
  whole ++ (if !fraction.isEmpty then '.' :: fraction else if keepPoint then ['.'] else [])

/-- One digit, the others after a point, and a signed exponent of at least two digits. -/
def exponential (d : Digits) (keepPoint upper : Bool) : List Char :=
  let exponent := d.point - 1
  let magnitude := Nat.toDigits 10 exponent.natAbs
  let fraction := d.digits.drop 1
  d.digits.take 1 ++
    (if !fraction.isEmpty then '.' :: fraction else if keepPoint then ['.'] else []) ++
    [if upper then 'E' else 'e', if exponent < 0 then '-' else '+'] ++
    List.replicate (2 - magnitude.length) '0' ++ magnitude

def padEnd (d : Digits) (count : Nat) : Digits :=
  { d with digits := d.digits ++ List.replicate (count - d.digits.length) '0' }

end Digits

def pointBefore (places value : Nat) (keepPoint : Bool) : List Char :=
  let digits := Nat.toDigits 10 value
  let digits := List.replicate (places + 1 - digits.length) '0' ++ digits
  let whole := digits.take (digits.length - places)
  whole ++ (if 0 < places then '.' :: digits.drop (digits.length - places)
    else if keepPoint then ['.'] else [])

def Layout.magnitude (layout : Layout) (significand : Nat) (exponent : Int) : List Char :=
  let (num, den) := Binary64.quotient significand exponent
  match layout.style with
  | .shortest =>
    let d := Digits.shortest significand exponent
    if d.point ≤ -4 || 16 < d.point then d.exponential layout.alternate layout.upper
    else d.positional layout.pointZero layout.alternate
  | .scientific =>
    ((Digits.significant (layout.precision + 1) num den).padEnd (layout.precision + 1)).exponential
      layout.alternate layout.upper
  | .fixed =>
    pointBefore layout.precision (Digits.placesOf layout.precision num den) layout.alternate
  | .general =>
    let count := max layout.precision 1
    let d := Digits.significant count num den
    let d' := if layout.alternate then d.padEnd count else d
    if d.point ≤ -4 || (if layout.pointZero then (count : Int) - 1 else count) < d.point then
      d'.exponential layout.alternate layout.upper
    else d'.positional layout.pointZero layout.alternate

/-- The sign and the magnitude of a number in a layout. The magnitude of a number that is not finite
is a word. -/
def Layout.write (layout : Layout) : Binary64 → Bool × List Char
  | .nan => (false, (if layout.upper then "NAN" else "nan").toList)
  | .infinite negative => (negative, (if layout.upper then "INF" else "inf").toList)
  | .finite negative significand exponent => (negative, layout.magnitude significand exponent)

def Binary64.text (x : Binary64) : String :=
  let (negative, magnitude) := ({} : Layout).write x
  String.ofList (if negative then '-' :: magnitude else magnitude)

def maxIntegerDigits : Nat := 4300

def exceedsDigitLimit (i : Int) : Bool := Nat.pow 10 maxIntegerDigits ≤ i.natAbs

def natText (n : Nat) : String := String.ofList (Nat.toDigits 10 n)

def intText (i : Int) : String :=
  if i < 0 then "-" ++ natText i.natAbs else natText i.natAbs

def intText? (i : Int) : Option String :=
  if exceedsDigitLimit i then none else some (intText i)

end Phrasebook.Number

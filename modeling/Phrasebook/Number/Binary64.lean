import Phrasebook.Number.Rounding

/-!
Binary floating-point numbers of 64 bits, as exact values: a significand below `2 ^ 53` times a power
of two no smaller than `2 ^ (-1074)`. Every operation is exact arithmetic on natural numbers followed
by one rounding, ties going to the even significand.
-/

namespace Phrasebook.Number

inductive Binary64 where
  | nan
  | infinite (negative : Bool)
  /-- The value is `significand * 2 ^ exponent`, with the sign apart so that zero has two. -/
  | finite (negative : Bool) (significand : Nat) (exponent : Int)
  deriving DecidableEq, Repr, Inhabited

namespace Binary64

def leastExponent : Int := -1074

def greatestExponent : Int := 971

def fullSignificand : Nat := Nat.pow 2 52

def zero (negative : Bool) : Binary64 := .finite negative 0 leastExponent

/-- The exponent at which a positive quotient has a significand of 53 bits, or the least one. -/
def exponentOf (num den : Nat) : Int :=
  let guess : Int := (num.log2 : Int) - den.log2 - 52
  let (n, d) := scaled 2 num den (-guess)
  max leastExponent (if n / d < fullSignificand then guess - 1 else guess)

def ofQuotient (negative : Bool) (num den : Nat) : Binary64 :=
  if num = 0 || den = 0 then zero negative
  else
    let exponent := exponentOf num den
    let (n, d) := scaled 2 num den (-exponent)
    let significand := roundQuotient n d
    let (significand, exponent) :=
      if significand = 2 * fullSignificand then (fullSignificand, exponent + 1)
      else (significand, exponent)
    if greatestExponent < exponent then .infinite negative
    else .finite negative significand exponent

/-- The number nearest to `digits * 10 ^ exponent`. Quotients far outside the range are settled by
their size alone, so that a long exponent costs nothing. -/
def ofDecimal (negative : Bool) (digits : Nat) (exponent : Int) : Binary64 :=
  let size := exponent + digitCount digits
  if digits = 0 || size < -400 then zero negative
  else if 400 < size then .infinite negative
  else
    let (num, den) := scaled 10 digits 1 exponent
    ofQuotient negative num den

def isNegative : Binary64 → Bool
  | .nan => false
  | .infinite negative => negative
  | .finite negative _ _ => negative

def isZero : Binary64 → Bool
  | .finite _ 0 _ => true
  | _ => false

def quotient : Nat → Int → Nat × Nat
  | significand, exponent => scaled 2 significand 1 exponent

def ofInt? (i : Int) : Option Binary64 :=
  match ofQuotient (i < 0) i.natAbs 1 with
  | .infinite _ => none
  | x => some x

def scale (k : Nat) : Binary64 → Binary64
  | .finite negative significand exponent =>
    let (num, den) := quotient significand exponent
    ofQuotient negative (k * num) den
  | x => x

def negate : Binary64 → Binary64
  | .nan => .nan
  | .infinite negative => .infinite !negative
  | .finite negative significand exponent => .finite (!negative) significand exponent

def fraction? : Binary64 → Option (Int × Nat)
  | .finite negative significand exponent =>
    let (num, den) := quotient significand exponent
    some (if negative then -(num : Int) else num, den)
  | _ => none

def add (x y : Binary64) : Binary64 :=
  match x, y with
  | .nan, _ => .nan
  | _, .nan => .nan
  | .infinite a, .infinite b => if a = b then .infinite a else .nan
  | .infinite a, _ => .infinite a
  | _, .infinite b => .infinite b
  | .finite sx mx ex, .finite sy my ey =>
    let (nx, dx) := quotient mx ex
    let (ny, dy) := quotient my ey
    let total : Int :=
      (if sx then -((nx * dy : Nat) : Int) else ((nx * dy : Nat) : Int)) +
        (if sy then -((ny * dx : Nat) : Int) else ((ny * dx : Nat) : Int))
    if total = 0 then zero (sx && sy)
    else ofQuotient (total < 0) total.natAbs (dx * dy)

/-- Numerical order against an integer or another number; none with a value that is not a number. -/
def compareFractions (a : Int) (b : Nat) (c : Int) (d : Nat) : Ordering :=
  compare (a * d) (c * b)

def compare? (x y : Binary64) : Option Ordering :=
  match x, y with
  | .nan, _ => none
  | _, .nan => none
  | .infinite a, .infinite b => some (if a = b then .eq else if a then .lt else .gt)
  | .infinite a, _ => some (if a then .lt else .gt)
  | _, .infinite b => some (if b then .gt else .lt)
  | x, y =>
    match x.fraction?, y.fraction? with
    | some (a, b), some (c, d) => some (compareFractions a b c d)
    | _, _ => none

def compareInt? (x : Binary64) (i : Int) : Option Ordering :=
  match x with
  | .nan => none
  | .infinite negative => some (if negative then .lt else .gt)
  | x => x.fraction?.map fun (a, b) => compareFractions a b i 1

end Binary64

end Phrasebook.Number

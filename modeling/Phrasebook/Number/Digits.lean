import Phrasebook.Number.Binary64

/-!
Decimal digits of binary numbers: the fewest digits that read back, a given number of significant
digits, and a given number of places after the point. A run of digits `d₁d₂…` with point position `p`
stands for `0.d₁d₂… * 10 ^ p`.
-/

namespace Phrasebook.Number

structure Digits where
  digits : List Char
  point : Int
  deriving DecidableEq, Repr

namespace Digits

def dropTrailingZeros (digits : List Char) : List Char :=
  (digits.reverse.dropWhile (· = '0')).reverse

/-- The digits of `value * 10 ^ exponent`, without zeros at the end; zero is the one digit `0`. -/
def ofScaled (value : Nat) (exponent : Int) : Digits :=
  if value = 0 then ⟨['0'], 1⟩
  else
    let digits := Nat.toDigits 10 value
    ⟨dropTrailingZeros digits, digits.length + exponent⟩

/-- The position of the point of a positive quotient: `10 ^ (p - 1) ≤ num / den < 10 ^ p`. The
quotient is scaled so far up that its whole part is positive for every binary number. -/
def pointOf (num den : Nat) : Int :=
  (digitCount (num * Nat.pow 10 400 / den) : Int) - 400

def significant (count num den : Nat) : Digits :=
  if num = 0 then ⟨['0'], 1⟩
  else
    let exponent := pointOf num den - count
    let (n, d) := scaled 10 num den (-exponent)
    ofScaled (roundQuotient n d) exponent

def placesOf (places num den : Nat) : Nat := roundQuotient (num * Nat.pow 10 places) den

/-- The least and greatest quotient, over a common denominator, that rounds to a number, and whether
the two count themselves. The gap below a power of two is half as wide. -/
structure Interval where
  low : Nat
  value : Nat
  high : Nat
  den : Nat
  closed : Bool

def Interval.of (significand : Nat) (exponent : Int) : Interval :=
  let narrow :=
    significand = Binary64.fullSignificand && Binary64.leastExponent < exponent
  let (unit, den) := scaled 2 1 1 (exponent - 2)
  ⟨(4 * significand - (if narrow then 1 else 2)) * unit, 4 * significand * unit,
    (4 * significand + 2) * unit, den, significand % 2 = 0⟩

def Interval.holds (i : Interval) (candidate : Nat) (exponent : Int) : Bool :=
  let (num, den) := scaled 10 candidate 1 exponent
  let lower := i.low * den
  let upper := i.high * den
  let point := num * i.den
  if i.closed then lower ≤ point && point ≤ upper else lower < point && point < upper

/-- The point of the grid of multiples of `10 ^ exponent` that reads back and lies nearest to the
value, looked for among the two neighbours of the value. -/
def Interval.nearest? (i : Interval) (exponent : Int) : Option Nat :=
  let (num, den) := scaled 10 i.value i.den (-exponent)
  let below := num / den
  let rest := num % den
  match i.holds below exponent, i.holds (below + 1) exponent with
  | false, false => none
  | true, false => some below
  | false, true => some (below + 1)
  | true, true =>
    some (if 2 * rest < den then below
      else if den < 2 * rest then below + 1
      else if below % 2 = 0 then below else below + 1)

/-- The fewest digits, at most `fuel` more than `count`, on whose grid a number reads back. -/
def Interval.fewest (i : Interval) (point : Int) (count : Nat) : Nat → Digits
  | 0 => ofScaled 0 0
  | fuel + 1 =>
    match i.nearest? (point - count) with
    | some candidate => ofScaled candidate (point - count)
    | none => i.fewest point (count + 1) fuel

def shortest (significand : Nat) (exponent : Int) : Digits :=
  if significand = 0 then ⟨['0'], 1⟩
  else
    let (num, den) := Binary64.quotient significand exponent
    (Interval.of significand exponent).fewest (pointOf num den) 1 18

end Digits

end Phrasebook.Number

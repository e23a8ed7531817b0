/-!
Rounding a quotient of natural numbers to a whole number, ties going to the even neighbour.
-/

namespace Phrasebook.Number

def roundQuotient (num den : Nat) : Nat :=
  let floor := num / den
  let rest := num % den
  if 2 * rest < den then floor
  else if den < 2 * rest then floor + 1
  else if floor % 2 = 0 then floor
  else floor + 1

def scaled (base num den : Nat) (exponent : Int) : Nat × Nat :=
  if 0 ≤ exponent then (num * Nat.pow base exponent.toNat, den)
  else (num, den * Nat.pow base (-exponent).toNat)

def digitCount (n : Nat) : Nat := (Nat.toDigits 10 n).length

end Phrasebook.Number

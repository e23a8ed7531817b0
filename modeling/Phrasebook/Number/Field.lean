import Phrasebook.Number.Reading

/-!
Fields of written dates and times: runs of digits of a given length, and marks between them.
-/

namespace Phrasebook.Number

open Text

/-- Between `least` and `most` digits as a number, how many there were, and the rest. -/
def digits? (least most : Nat) (cs : List Char) : Option (Nat × Nat × List Char) :=
  let run := (cs.takeWhile isAsciiDigit).take most
  if run.length < least then none
  else some (ofDigitValues 10 (run.filterMap decimalValue?), run.length, cs.drop run.length)

def after? (c : Char) : List Char → Option (List Char)
  | x :: rest => if x = c then some rest else none
  | [] => none

def microseconds (digits : List Char) : Nat :=
  let used := (digits.take 6).filterMap decimalValue?
  ofDigitValues 10 (used ++ List.replicate (6 - used.length) 0)

end Phrasebook.Number

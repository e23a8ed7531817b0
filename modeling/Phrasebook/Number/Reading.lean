import Phrasebook.Text.Split
import Phrasebook.Text.Class
import Phrasebook.Number.Layout

/-!
Reading integers and binary numbers from text. Decimal digits of any script count, blanks around a
number do not, and one underscore may stand between two digits.
-/

namespace Phrasebook.Number

open Text

def ofDigitValues (base : Nat) (values : List Nat) : Nat :=
  values.foldl (fun n v => n * base + v) 0

def digitRun? (afterDigit : Bool) : List Char → Option (List Nat)
  | [] => if afterDigit then some [] else none
  | c :: rest =>
    match decimalValue? c with
    | some v => (digitRun? true rest).map (v :: ·)
    | none => if c = '_' && afterDigit then digitRun? false rest else none

def signOf : List Char → Bool × List Char
  | '-' :: rest => (true, rest)
  | '+' :: rest => (false, rest)
  | cs => (false, cs)

def signed (negative : Bool) (n : Nat) : Int := if negative then -(n : Int) else n

/-- A decimal integer with an optional sign; none for other text and for too many digits. -/
def readInt? (text : List Char) : Option Int :=
  let (negative, digits) := signOf (trim isBlank text)
  match digitRun? false digits with
  | some values =>
    if maxIntegerDigits < values.length then none
    else some (signed negative (ofDigitValues 10 values))
  | none => none

/-- The digits of a text in a base up to 16, with underscores allowed between two of them. -/
def digitsIn? (base : Nat) (afterDigit : Bool) : List Char → Option (List Nat)
  | [] => if afterDigit then some [] else none
  | c :: rest =>
    match (hexValue? c).or (decimalValue? c) with
    | some v => if v < base then (digitsIn? base true rest).map (v :: ·) else none
    | none => if c = '_' && afterDigit then digitsIn? base false rest else none

/-- An integer in a base up to 16 with an optional sign and underscores between digits. In a base that
is a power of two its length is not limited. -/
def readIntIn? (base : Nat) (text : List Char) : Option Int :=
  let (negative, digits) := signOf (trim isBlank text)
  (digitsIn? base false digits).map fun values => signed negative (ofDigitValues base values)

def decimalOf (negative : Bool) (whole fraction : List Nat) (exponent : Int) : Binary64 :=
  Binary64.ofDecimal negative (ofDigitValues 10 (whole ++ fraction)) (exponent - fraction.length)

def runOrEmpty? (cs : List Char) : Option (List Nat) :=
  if cs.isEmpty then some [] else digitRun? false cs

def exponentOf? (cs : List Char) : Option Int :=
  let (negative, digits) := signOf cs
  (digitRun? false digits).map fun vs =>
    let significant := vs.dropWhile (· = 0)
    signed negative
      (if 9 < significant.length then 1000000000 else ofDigitValues 10 significant)

def readMagnitude? (negative : Bool) (text : List Char) : Option Binary64 :=
  let isMark (c : Char) : Bool := c = 'e' || c = 'E'
  let mantissa := text.takeWhile (!isMark ·)
  let rest := text.drop mantissa.length
  let whole := mantissa.takeWhile (· ≠ '.')
  let fraction := (mantissa.drop whole.length).drop 1
  if whole.isEmpty && fraction.isEmpty then none
  else
    match runOrEmpty? whole, runOrEmpty? fraction,
        (if rest.isEmpty then some 0 else exponentOf? (rest.drop 1)) with
    | some w, some f, some e => some (decimalOf negative w f e)
    | _, _, _ => none

/-- A binary number with an optional sign, or one of the words for infinity and for no number. -/
def readFloat? (text : List Char) : Option Binary64 :=
  let (negative, body) := signOf (trim isBlank text)
  let word := body.map Char.toLower
  if word = "inf".toList || word = "infinity".toList then some (.infinite negative)
  else if word = "nan".toList then some .nan
  else readMagnitude? negative body

end Phrasebook.Number

import Phrasebook.Text.ClassTable

/-!
Character classes, read from the tables of code points. A class is a `Bool` on characters, so that
it can be used as a filter and evaluated in a proof.
-/

namespace Phrasebook.Text

/-- Membership in an increasing list of closed ranges; the search stops at the first range that
begins beyond the code point. -/
def inRanges (n : Nat) : List (Nat × Nat) → Bool
  | [] => false
  | (first, last) :: rest => decide (first ≤ n) && (decide (n ≤ last) || inRanges n rest)

def isLetter (c : Char) : Bool := inRanges c.toNat ClassTable.letters

def decimalValue? (c : Char) : Option Nat :=
  (ClassTable.decimalZeros.find? fun first => first ≤ c.toNat && c.toNat < first + 10).map
    (c.toNat - ·)

def isDecimal (c : Char) : Bool := (decimalValue? c).isSome

def isDigit (c : Char) : Bool := isDecimal c || inRanges c.toNat ClassTable.otherDigits

def isNumeric (c : Char) : Bool := isDecimal c || inRanges c.toNat ClassTable.otherNumbers

def isWordChar (c : Char) : Bool := c = '_' || isLetter c || isNumeric c

def isBlank (c : Char) : Bool := inRanges c.toNat ClassTable.blanks

def isShown (c : Char) : Bool := !inRanges c.toNat ClassTable.hidden

def isNameStart (c : Char) : Bool := inRanges c.toNat ClassTable.nameStarts

def isNamePart (c : Char) : Bool := inRanges c.toNat ClassTable.nameParts

def isIdentifier : List Char → Bool
  | [] => false
  | c :: rest => isNameStart c && rest.all isNamePart

def isAsciiLetter (c : Char) : Bool := ('a' ≤ c && c ≤ 'z') || ('A' ≤ c && c ≤ 'Z')

def isAsciiDigit (c : Char) : Bool := '0' ≤ c && c ≤ '9'

def isAsciiAlnum (c : Char) : Bool := isAsciiLetter c || isAsciiDigit c

def hexValue? (c : Char) : Option Nat :=
  if isAsciiDigit c then some (c.toNat - '0'.toNat)
  else if 'a' ≤ c && c ≤ 'f' then some (c.toNat - 'a'.toNat + 10)
  else if 'A' ≤ c && c ≤ 'F' then some (c.toNat - 'A'.toNat + 10)
  else none

def isHexDigit (c : Char) : Bool := (hexValue? c).isSome

/-- Names of the form letter or underscore, then letters, digits and underscores, all ASCII. -/
def isAsciiName : List Char → Bool
  | [] => false
  | c :: rest => (isAsciiLetter c || c = '_') && rest.all fun d => isAsciiAlnum d || d = '_'

end Phrasebook.Text

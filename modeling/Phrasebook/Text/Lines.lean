import Phrasebook.Text.Class

/-!
Lines and line ends. Two rules are in use: the wide set of line boundaries that ends a line of text,
and the three spellings of a line end that a file may use.
-/

namespace Phrasebook.Text

/-- Line boundaries: line feed, vertical tab, form feed, carriage return, the three information
separators above the unit separator, next line, line separator and paragraph separator. -/
def isLineBreak (c : Char) : Bool :=
  inRanges c.toNat [(0x0a, 0x0d), (0x1c, 0x1e), (0x85, 0x85), (0x2028, 0x2029)]

/-- The lines of a text without their ends. A carriage return before a line feed counts with it, and
a text that ends in a line boundary has no empty line after it. -/
def lines : List Char → List (List Char)
  | [] => []
  | '\r' :: '\n' :: rest => [] :: lines rest
  | c :: rest =>
    if isLineBreak c then [] :: lines rest
    else match lines rest with
      | [] => [[c]]
      | line :: others => (c :: line) :: others

def unifyLineEnds : List Char → List Char
  | [] => []
  | '\r' :: '\n' :: rest => '\n' :: unifyLineEnds rest
  | c :: rest => (if c = '\r' then '\n' else c) :: unifyLineEnds rest

end Phrasebook.Text

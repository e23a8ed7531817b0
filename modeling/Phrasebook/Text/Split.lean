/-!
Cutting text into pieces: at a separator, at the characters of a class, and at the ends.
-/

namespace Phrasebook.Text

def consHead (c : Char) : List (List Char) → List (List Char)
  | [] => [[c]]
  | piece :: rest => (c :: piece) :: rest

/-- The pieces of a text between occurrences of `separator`, found from the left without overlap;
the first `skip` characters belong to an occurrence already found. -/
def piecesFrom (separator : List Char) (skip : Nat) : List Char → List (List Char)
  | [] => [[]]
  | c :: rest =>
    match skip with
    | n + 1 => piecesFrom separator n rest
    | 0 =>
      if separator.isPrefixOf (c :: rest) then
        [] :: piecesFrom separator (separator.length - 1) rest
      else consHead c (piecesFrom separator 0 rest)

/-- The pieces of a text between occurrences of a separator; an empty separator separates nothing. -/
def pieces (separator text : List Char) : List (List Char) :=
  if separator.isEmpty then [text] else piecesFrom separator 0 text

def piecesAt (p : Char → Bool) : List Char → List (List Char)
  | [] => [[]]
  | c :: rest => if p c then [] :: piecesAt p rest else consHead c (piecesAt p rest)

def fieldsAt (p : Char → Bool) (text : List Char) : List (List Char) :=
  (piecesAt p text).filter (!·.isEmpty)

def dropEnd (p : Char → Bool) (text : List Char) : List Char :=
  (text.reverse.dropWhile p).reverse

def trim (p : Char → Bool) (text : List Char) : List Char := dropEnd p (text.dropWhile p)

def joined (separator : List Char) : List (List Char) → List Char
  | [] => []
  | [piece] => piece
  | piece :: rest => piece ++ separator ++ joined separator rest

def splitLast? (c : Char) (text : List Char) : Option (List Char × List Char) :=
  let tail := text.reverse.takeWhile (· ≠ c)
  if tail.length = text.length then none
  else some (text.take (text.length - tail.length - 1), tail.reverse)

end Phrasebook.Text

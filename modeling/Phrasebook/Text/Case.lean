import Phrasebook.Text.CaseTable
import Phrasebook.Text.Class

/-!
Case mapping of text. One character may map to several, and the lower case of a capital sigma
depends on its neighbours; both make the length of a text depend on its case.
-/

namespace Phrasebook.Text

/-- The image of a code point under the runs of a case table; code points of no run are fixed. -/
def runImage (n : Nat) : List (Nat × Nat × Nat × Int) → Nat
  | [] => n
  | (first, last, step, offset) :: rest =>
    if first ≤ n && n ≤ last && (n - first) % step = 0 then (n + offset).toNat
    else runImage n rest

def image (runs : List (Nat × Nat × Nat × Int)) (strings : List (Nat × List Nat)) (c : Char) :
    List Char :=
  match strings.lookup c.toNat with
  | some codes => codes.map Char.ofNat
  | none => [Char.ofNat (runImage c.toNat runs)]

def lowerChar (c : Char) : List Char := image CaseTable.lowerRuns CaseTable.lowerStrings c

def upperChar (c : Char) : List Char := image CaseTable.upperRuns CaseTable.upperStrings c

def titleChar (c : Char) : List Char :=
  match CaseTable.titleStrings.lookup c.toNat with
  | some codes => codes.map Char.ofNat
  | none => upperChar c

def meetsCased : List Char → Bool
  | [] => false
  | c :: rest =>
    if inRanges c.toNat CaseTable.sigmaTransparent then meetsCased rest
    else inRanges c.toNat CaseTable.sigmaLetters

/-- Lower case of the text `rest` that follows the text `before`, the latter read backwards. A capital
sigma becomes a final one after a cased character and before none. -/
def lowerAfter (before : List Char) : List Char → List Char
  | [] => []
  | c :: rest =>
    (if c = 'Σ' then [if meetsCased before && !meetsCased rest then 'ς' else 'σ']
      else lowerChar c) ++ lowerAfter (c :: before) rest

def lowerChars (cs : List Char) : List Char := lowerAfter [] cs

def upperChars (cs : List Char) : List Char := cs.flatMap upperChar

def capitalizeChars : List Char → List Char
  | [] => []
  | c :: rest => titleChar c ++ lowerAfter [c] rest

def lower (s : String) : String := String.ofList (lowerChars s.toList)

end Phrasebook.Text

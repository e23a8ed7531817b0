import Phrasebook.Text.Case
import Phrasebook.Text.Split

/-!
Locale tags: a language subtag and further ones for script, region and variants. Any text can be
asked for as a locale; it is brought to one spelling, `language_REGION_variant`, and looked up
through a chain of ever more general tags that ends in the default locale, the empty tag.
-/

namespace Phrasebook.Locale

open Text

def isSeparator (c : Char) : Bool := c = '-' || c = '_'

def subtags (tag : List Char) : List (List Char) := fieldsAt isSeparator tag

/-- A subtag after the first: two letters are a region in upper case, four a script with a capital,
anything else keeps its case. -/
def normalizeSubtag (part : List Char) : List Char :=
  if part.length = 2 && part.all isLetter then upperChars part
  else if part.length = 4 && part.all isLetter then capitalizeChars part
  else part

def normalizeParts : List (List Char) → List (List Char)
  | [] => []
  | language :: rest => lowerChars language :: rest.map normalizeSubtag

def normalizeChars (tag : List Char) : List Char := joined ['_'] (normalizeParts (subtags tag))

/-- The one spelling of a requested tag. No request, and one without any part, is the default. -/
def normalize (tag : Option String) : String :=
  String.ofList (normalizeChars (tag.getD "").toList)

def isLanguage (part : List Char) : Bool :=
  (part.length = 2 || part.length = 3) && part.all isAsciiLetter

/-- A region of two letters or three digits, a script of four letters, or five to eight letters and
digits. -/
def isSubtag (part : List Char) : Bool :=
  (part.length = 2 && part.all isAsciiLetter) || (part.length = 3 && part.all isAsciiDigit) ||
    (part.length = 4 && part.all isAsciiLetter) ||
    (5 ≤ part.length && part.length ≤ 8 && part.all isAsciiAlnum)

/-- Whether every part of a text, empty ones included, has the shape its place asks for. The first
part has to be a language, so the name of a sibling bundle is not taken for a locale. -/
def isTag (tag : String) : Bool :=
  match piecesAt isSeparator tag.toList with
  | [] => false
  | language :: rest => isLanguage language && rest.all isSubtag

/-- The tags of a list of parts from the longest on: all parts, then one less each time. -/
def generalizations : List (List Char) → List (List Char)
  | [] => []
  | part :: rest => (generalizations rest).map (fun tail => part ++ '_' :: tail) ++ [part]

def fallbackChain (tag : Option String) : List String :=
  let locale := (normalize tag).toList
  let parts := if locale.isEmpty then [] else piecesAt (· = '_') locale
  (generalizations parts).map String.ofList ++ [""]

def label (locale : String) : String := if locale.isEmpty then "default" else locale

end Phrasebook.Locale

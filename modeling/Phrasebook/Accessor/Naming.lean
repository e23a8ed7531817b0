import Phrasebook.Text.Case
import Phrasebook.Text.Split

/-!
Names in generated code. A method is named after its message key, a class after its bundle: the words
of the key or bundle are joined in one of two styles and made fit to be an identifier.
-/

namespace Phrasebook.Accessor

open Text

inductive Naming where
  | camel
  | snake
  deriving DecidableEq, Repr

namespace Naming

def name : Naming → String
  | camel => "camel"
  | snake => "snake"

def ofName? (name : String) : Option Naming :=
  [camel, snake].find? fun style => style.name = name

end Naming

def keywords : List String :=
  ["False", "None", "True", "and", "as", "assert", "async", "await", "break", "class", "continue",
    "def", "del", "elif", "else", "except", "finally", "for", "from", "global", "if", "import", "in",
    "is", "lambda", "nonlocal", "not", "or", "pass", "raise", "return", "try", "while", "with",
    "yield"]

def isKeyword (name : List Char) : Bool := keywords.contains (String.ofList name)

def wordsOf (text : List Char) : List (List Char) :=
  fieldsAt (fun c => c = '_' || !isWordChar c) text

/-- The words of a key: its segments between delimiters, each split further into words. -/
def keyWords (key delimiter : List Char) : List (List Char) :=
  (pieces delimiter key).flatMap wordsOf

def markHumps : List Char → List Char
  | a :: b :: rest =>
    if (('a' ≤ a && a ≤ 'z') || isAsciiDigit a) && 'A' ≤ b && b ≤ 'Z' then
      a :: '_' :: markHumps (b :: rest)
    else a :: markHumps (b :: rest)
  | cs => cs

def lowerFirst : List Char → List Char
  | [] => []
  | c :: rest => lowerChar c ++ rest

def upperFirst : List Char → List Char
  | [] => []
  | c :: rest => upperChar c ++ rest

def joinWords : Naming → List (List Char) → List Char
  | .snake, words => joined ['_'] (words.map fun w => lowerChars (markHumps w))
  | .camel, [] => []
  | .camel, first :: rest => lowerFirst first ++ rest.flatMap upperFirst

/-- A name that can stand for a method: not empty, not opened by a digit, not a reserved word. -/
def makeIdentifier (name : List Char) : List Char :=
  let name := if name.isEmpty then "message".toList else name
  let name := if name.head?.any isDigit then "msg_".toList ++ name else name
  if isKeyword name then name ++ ['_'] else name

def methodName (key delimiter : String) (naming : Naming) : String :=
  String.ofList (makeIdentifier (joinWords naming (keyWords key.toList delimiter.toList)))

def pascalChars (name : List Char) : List Char := (wordsOf name).flatMap upperFirst

def pascal (name : String) : String := String.ofList (pascalChars name.toList)

def className (bundle : String) : String :=
  let base := pascalChars bundle.toList
  let base := if base.isEmpty then "Bundle".toList else base
  let base := if base.head?.any isDigit then "Bundle".toList ++ base else base
  String.ofList
    (if "Messages".toList.isSuffixOf base then base else base ++ "Messages".toList)

end Phrasebook.Accessor

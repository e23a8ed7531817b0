import Phrasebook.Text.Class

/-!
Quoted text. A text stands between single quotes, or between double quotes when it holds a single
quote and no double one. Backslashes, the surrounding quote, the three common controls and every
character that is not shown are escaped, so that a quoted text is one line.
-/

namespace Phrasebook.Text.Quoted

def paddedDigits (base width n : Nat) : List Char :=
  let digits := Nat.toDigits base n
  List.replicate (width - digits.length) '0' ++ digits

def codeEscape (c : Char) : List Char :=
  let n := c.toNat
  if n < 0x100 then '\\' :: 'x' :: paddedDigits 16 2 n
  else if n < 0x10000 then '\\' :: 'u' :: paddedDigits 16 4 n
  else '\\' :: 'U' :: paddedDigits 16 8 n

def quoteOf (cs : List Char) : Char :=
  if cs.contains '\'' && !cs.contains '"' then '"' else '\''

def escape (quote c : Char) : List Char :=
  if c = quote || c = '\\' then ['\\', c]
  else if c = '\t' then ['\\', 't']
  else if c = '\n' then ['\\', 'n']
  else if c = '\r' then ['\\', 'r']
  else if isShown c then [c]
  else codeEscape c

def encode (cs : List Char) : List Char :=
  quoteOf cs :: cs.flatMap (escape (quoteOf cs)) ++ [quoteOf cs]

def asciiOnly (cs : List Char) : List Char :=
  cs.flatMap fun c => if c.toNat < 0x80 then [c] else codeEscape c

end Phrasebook.Text.Quoted

namespace Phrasebook.Text

def quoted (s : String) : String := String.ofList (Quoted.encode s.toList)

end Phrasebook.Text

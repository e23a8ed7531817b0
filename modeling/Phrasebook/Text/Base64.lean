import Phrasebook.Text.Class

/-!
Bytes written in base 64. Characters outside the alphabet are passed over, and the text ends at the
padding.
-/

namespace Phrasebook.Text.Base64

def digit? (c : Char) : Option Nat :=
  if 'A' ≤ c && c ≤ 'Z' then some (c.toNat - 'A'.toNat)
  else if 'a' ≤ c && c ≤ 'z' then some (c.toNat - 'a'.toNat + 26)
  else if isAsciiDigit c then some (c.toNat - '0'.toNat + 52)
  else if c = '+' then some 62
  else if c = '/' then some 63
  else none

/-- The bytes of a text: `held` are the digits of a group of four so far and `pads` the padding after
them. A group that is neither complete nor padded has no bytes. -/
def decodeFrom (held : List Nat) (pads : Nat) : List Char → Option (List UInt8)
  | [] => if held.isEmpty then some [] else none
  | c :: rest =>
    if c = '=' then
      if held.length < 2 then decodeFrom held pads rest
      else if held.length + pads + 1 < 4 then decodeFrom held (pads + 1) rest
      else some []
    else
      match digit? c, held with
      | none, _ => decodeFrom held pads rest
      | some d, [] => decodeFrom [d] 0 rest
      | some d, [a] => (decodeFrom [a, d] 0 rest).map (UInt8.ofNat (a * 4 + d / 16) :: ·)
      | some d, [a, b] =>
        (decodeFrom [a, b, d] 0 rest).map (UInt8.ofNat (b % 16 * 16 + d / 4) :: ·)
      | some d, a =>
        (decodeFrom [] 0 rest).map (UInt8.ofNat (a.getLastD 0 % 4 * 64 + d) :: ·)

def decode? (text : List Char) : Option (List UInt8) := decodeFrom [] 0 text

end Phrasebook.Text.Base64

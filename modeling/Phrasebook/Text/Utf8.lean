import Phrasebook.Text.Quoted

/-!
Reading bytes as UTF-8. A sequence that is not UTF-8 is refused with the place and the kind of its
first fault: a byte that cannot open a character, a byte that cannot continue one, or an end inside
a character.
-/

namespace Phrasebook.Text.Utf8

inductive FaultKind where
  | badStart
  | badContinuation
  | cutShort
  deriving DecidableEq, Repr

structure Fault where
  kind : FaultKind
  first : UInt8
  position : Nat
  length : Nat
  deriving DecidableEq, Repr

def isContinuation (b : UInt8) : Bool := 0x80 ≤ b && b < 0xc0

/-- Which second bytes a first byte admits: no overlong form, no surrogate, nothing beyond the last
code point. -/
def admitsSecond (first second : UInt8) : Bool :=
  isContinuation second &&
    (if first = 0xe0 then 0xa0 ≤ second
      else if first = 0xed then second < 0xa0
      else if first = 0xf0 then 0x90 ≤ second
      else if first = 0xf4 then second < 0x90
      else true)

def followers (first : UInt8) : Option Nat :=
  if first < 0x80 then some 0
  else if first < 0xc2 then none
  else if first < 0xe0 then some 1
  else if first < 0xf0 then some 2
  else if first < 0xf5 then some 3
  else none

/-- The fault of a character with first byte `first`, of which `good` bytes are read and `missing`
are to come. -/
def faultInside (first : UInt8) (position good : Nat) : Nat → List UInt8 → Option Fault
  | 0, _ => none
  | _ + 1, [] => some ⟨.cutShort, first, position, good⟩
  | missing + 1, b :: rest =>
    if (if good = 1 then admitsSecond first b else isContinuation b) then
      faultInside first position (good + 1) missing rest
    else some ⟨.badContinuation, first, position, good⟩

/-- The first fault at or after `position`; `skip` bytes belong to a character already checked. -/
def faultFrom (position skip : Nat) : List UInt8 → Option Fault
  | [] => none
  | b :: rest =>
    match skip with
    | n + 1 => faultFrom (position + 1) n rest
    | 0 =>
      match followers b with
      | none => some ⟨.badStart, b, position, 1⟩
      | some n =>
        match faultInside b position 1 n rest with
        | some fault => some fault
        | none => faultFrom (position + 1) n rest

def firstFault (bytes : ByteArray) : Option Fault := faultFrom 0 0 bytes.toList

def Fault.reason (fault : Fault) : String :=
  match fault.kind with
  | .badStart => "invalid start byte"
  | .badContinuation => "invalid continuation byte"
  | .cutShort => "unexpected end of data"

def Fault.message (fault : Fault) : String :=
  let place :=
    if fault.length = 1 then
      s!"byte 0x{String.ofList (Quoted.paddedDigits 16 2 fault.first.toNat)} in position {fault.position}"
    else s!"bytes in position {fault.position}-{fault.position + fault.length - 1}"
  s!"'utf-8' codec can't decode {place}: {fault.reason}"

def decode (bytes : ByteArray) : Except Fault String :=
  match String.fromUTF8? bytes with
  | some text => .ok text
  | none => .error ((firstFault bytes).getD ⟨.badStart, 0, 0, 1⟩)

theorem decodeEncoded (s : String) : decode s.toUTF8 = .ok s := by
  have valid : s.toByteArray.IsValidUTF8 := s.isValidUTF8
  simp [decode, String.fromUTF8?, valid, String.fromUTF8]

end Phrasebook.Text.Utf8

import Phrasebook.Value

/-!
The order of keys. Texts are ordered among themselves, numbers among themselves, and so on; keys of
different kinds have no order, and nothing has none with itself.
-/

namespace Phrasebook.Value

def compareBytes : List UInt8 → List UInt8 → Ordering
  | [], [] => .eq
  | [], _ => .lt
  | _, [] => .gt
  | a :: as, b :: bs => if a < b then .lt else if b < a then .gt else compareBytes as bs

def isNumber : Value → Bool
  | bool _ => true
  | int _ => true
  | float _ => true
  | _ => false

def compareDates (a b : Date) : Ordering :=
  (compare a.year b.year).then ((compare a.month b.month).then (compare a.day b.day))

def compareTimes (a b : TimeOfDay) : Ordering :=
  compare (((a.hour * 60 + a.minute) * 60 + a.second) * 1000000 + a.microsecond)
    (((b.hour * 60 + b.minute) * 60 + b.second) * 1000000 + b.microsecond)

/-- The order of two keys, none when they have no order. Two numbers one of which is not a number
count as equal. -/
def compare? : Value → Value → Option Ordering
  | text s, text t => some (compare s t)
  | bytes a, bytes b => some (compareBytes a b)
  | date a, date b => some (compareDates a b)
  | time a, time b => some (compareTimes a b)
  | dateTime d t (some o), dateTime d' t' (some o') =>
    some (compare (instant d t o) (instant d' t' o'))
  | dateTime d t none, dateTime d' t' none =>
    some ((compareDates d d').then (compareTimes t t'))
  | v, w =>
    if v.isNumber && w.isNumber then some ((compareNumbers? v w).getD .eq) else none

def sorted? (keys : List Value) : Option (List Value) :=
  let comparable := keys.length ≤ 1 ||
    keys.all fun a => keys.all fun b => (a.compare? b).isSome
  if comparable then
    some (keys.mergeSort fun a b => a.compare? b ≠ some .gt)
  else none

end Phrasebook.Value

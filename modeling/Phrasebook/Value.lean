import Phrasebook.Number.Layout

/-!
Values of declarations and of structured catalogs: what the readers of the three document formats
produce and what a message template is filled with.
-/

namespace Phrasebook

open Number

structure Date where
  year : Nat
  month : Nat
  day : Nat
  deriving DecidableEq, Repr

structure TimeOfDay where
  hour : Nat
  minute : Nat
  second : Nat
  microsecond : Nat
  deriving DecidableEq, Repr

def isLeapYear (year : Nat) : Bool := year % 4 = 0 && (year % 100 ≠ 0 || year % 400 = 0)

def daysInMonth (year : Nat) : Nat → Nat
  | 2 => if isLeapYear year then 29 else 28
  | 4 => 30
  | 6 => 30
  | 9 => 30
  | 11 => 30
  | _ => 31

def Date.isValid (d : Date) : Bool :=
  1 ≤ d.year && d.year ≤ 9999 && 1 ≤ d.month && d.month ≤ 12 && 1 ≤ d.day &&
    d.day ≤ daysInMonth d.year d.month

def TimeOfDay.isValid (t : TimeOfDay) : Bool :=
  t.hour < 24 && t.minute < 60 && t.second < 60 && t.microsecond < 1000000

inductive Value where
  | null
  | bool (b : Bool)
  | int (i : Int)
  | float (x : Binary64)
  | text (s : String)
  | bytes (bs : List UInt8)
  | date (d : Date)
  | dateTime (d : Date) (t : TimeOfDay) (offset : Option Int)
  | time (t : TimeOfDay)
  | list (items : List Value)
  | pair (first second : Value)
  | set (members : List Value)
  | map (entries : List (Value × Value))
  | loop (isMap : Bool)
  deriving Repr, Inhabited

namespace Value

def isText : Value → Bool
  | text _ => true
  | _ => false

def isMap : Value → Bool
  | map _ => true
  | loop isMap => isMap
  | _ => false

/-- Whether a value counts as given: nothing, false, zero and everything empty do not. -/
def isGiven : Value → Bool
  | null => false
  | bool b => b
  | int i => i ≠ 0
  | float x => !x.isZero
  | text s => !s.isEmpty
  | bytes bs => !bs.isEmpty
  | list items => !items.isEmpty
  | set members => !members.isEmpty
  | map entries => !entries.isEmpty
  | _ => true

/-- The number a value stands for, exact for integers; true counts as one and false as zero. -/
def integer? : Value → Option Int
  | bool b => some (if b then 1 else 0)
  | int i => some i
  | _ => none

def dayNumber (d : Date) : Nat :=
  let years := d.year - 1
  let months := (List.range (d.month - 1)).map fun m => daysInMonth d.year (m + 1)
  years * 365 + years / 4 - years / 100 + years / 400 + months.foldl (· + ·) 0 + (d.day - 1)

def instant (d : Date) (t : TimeOfDay) (offset : Int) : Int :=
  (((dayNumber d * 24 + t.hour : Nat) : Int) * 60 + t.minute - offset) * 60000000 +
    ((t.second * 1000000 + t.microsecond : Nat) : Int)

/-- Numerical order of two values; none unless both are numbers, or when one is not a number. -/
def compareNumbers? : Value → Value → Option Ordering
  | float x, float y => x.compare? y
  | float x, v => v.integer?.bind x.compareInt?
  | v, float x => v.integer?.bind fun i => (x.compareInt? i).map Ordering.swap
  | v, w =>
    match v.integer?, w.integer? with
    | some i, some j => some (compare i j)
    | _, _ => none

/-- Whether two values are the same key of a map: numbers are the same when they are equal. -/
def sameKey : Value → Value → Bool
  | null, null => true
  | text s, text t => s = t
  | bytes a, bytes b => a = b
  | date a, date b => a = b
  | time a, time b => a = b
  | dateTime d t (some o), dateTime d' t' (some o') => instant d t o = instant d' t' o'
  | dateTime d t none, dateTime d' t' none => d = d' && t = t'
  | v, w => compareNumbers? v w = some .eq

/-- Whether a value can be a key: everything but lists, sets and maps, at any depth of a pair. -/
def isKey : Value → Bool
  | list _ => false
  | set _ => false
  | map _ => false
  | loop _ => false
  | pair a b => a.isKey && b.isKey
  | _ => true

def lookup (entries : List (Value × Value)) (key : Value) : Option Value :=
  (entries.find? fun entry => entry.1.sameKey key).map Prod.snd

def put (key value : Value) : List (Value × Value) → List (Value × Value)
  | [] => [(key, value)]
  | (k, v) :: rest => if k.sameKey key then (k, value) :: rest else (k, v) :: put key value rest

def putAll (entries more : List (Value × Value)) : List (Value × Value) :=
  more.foldl (fun es e => put e.1 e.2 es) entries

def ofEntries (entries : List (Value × Value)) : Value := map (putAll [] entries)

end Value

end Phrasebook

import Mathlib.Data.List.Basic
import Phrasebook.Catalog.Flat

/-! Parts of values and what cannot be written of them. A value has a text unless an integer somewhere in
it is too long, and a map has a flat form unless it has no text or stands in itself. -/
namespace Phrasebook

open Number

namespace Value

/-- A value that stands in another one, at any depth; a value stands in itself. -/
inductive Within (part : Value) : Value → Prop
  | self : Within part part
  | item {v items} (mem : v ∈ items) (inside : Within part v) : Within part (.list items)
  | first {a b} (inside : Within part a) : Within part (.pair a b)
  | second {a b} (inside : Within part b) : Within part (.pair a b)
  | member {v members} (mem : v ∈ members) (inside : Within part v) : Within part (.set members)
  | key {k v entries} (mem : (k, v) ∈ entries) (inside : Within part k) : Within part (.map entries)
  | entry {k v entries} (mem : (k, v) ∈ entries) (inside : Within part v) :
      Within part (.map entries)

/-- A value that is reached from another one through the entries of maps alone. -/
inductive Under (part : Value) : Value → Prop
  | self : Under part part
  | entry {k v entries} (mem : (k, v) ∈ entries) (below : Under part v) : Under part (.map entries)

def HoldsLong (v : Value) : Prop := ∃ i, Within (.int i) v ∧ exceedsDigitLimit i = true

theorem intLong {i : Int} : (Value.int i).HoldsLong ↔ exceedsDigitLimit i = true := by
  constructor
  · rintro ⟨j, inside, long⟩
    cases inside
    exact long
  · exact fun long => ⟨i, .self, long⟩

theorem listLong {items : List Value} : (Value.list items).HoldsLong ↔ ∃ v ∈ items, v.HoldsLong := by
  constructor
  · rintro ⟨i, inside, long⟩
    cases inside with
    | item mem inside => exact ⟨_, mem, i, inside, long⟩
  · rintro ⟨v, mem, i, inside, long⟩
    exact ⟨i, .item mem inside, long⟩

theorem pairLong {a b : Value} : (Value.pair a b).HoldsLong ↔ a.HoldsLong ∨ b.HoldsLong := by
  constructor
  · rintro ⟨i, inside, long⟩
    cases inside with
    | first inside => exact .inl ⟨i, inside, long⟩
    | second inside => exact .inr ⟨i, inside, long⟩
  · rintro (⟨i, inside, long⟩ | ⟨i, inside, long⟩)
    · exact ⟨i, .first inside, long⟩
    · exact ⟨i, .second inside, long⟩

theorem setLong {members : List Value} :
    (Value.set members).HoldsLong ↔ ∃ v ∈ members, v.HoldsLong := by
  constructor
  · rintro ⟨i, inside, long⟩
    cases inside with
    | member mem inside => exact ⟨_, mem, i, inside, long⟩
  · rintro ⟨v, mem, i, inside, long⟩
    exact ⟨i, .member mem inside, long⟩

theorem mapLong {entries : List (Value × Value)} :
    (Value.map entries).HoldsLong ↔ ∃ e ∈ entries, e.1.HoldsLong ∨ e.2.HoldsLong := by
  constructor
  · rintro ⟨i, inside, long⟩
    cases inside with
    | key mem inside => exact ⟨_, mem, .inl ⟨i, inside, long⟩⟩
    | entry mem inside => exact ⟨_, mem, .inr ⟨i, inside, long⟩⟩
  · rintro ⟨⟨k, v⟩, mem, ⟨i, inside, long⟩ | ⟨i, inside, long⟩⟩
    · exact ⟨i, .key mem inside, long⟩
    · exact ⟨i, .entry mem inside, long⟩

/-- Values in which no other values stand. -/
def IsLeaf : Value → Prop
  | list _ => False
  | pair _ _ => False
  | set _ => False
  | map _ => False
  | _ => True

theorem leafWithin {part v : Value} (leaf : v.IsLeaf) (inside : Within part v) : part = v := by
  cases inside with
  | self => rfl
  | item | first | second | member | key | entry => exact leaf.elim

theorem leafLong {v : Value} (leaf : v.IsLeaf) (other : ∀ i, v ≠ .int i) : ¬ v.HoldsLong := by
  rintro ⟨i, inside, -⟩
  exact other i (leafWithin leaf inside).symm

/-! ### Literals -/

mutual

theorem literalNone : ∀ v : Value, v.literal? = none ↔ v.HoldsLong
  | null | bool _ | float _ | text _ | bytes _ | date _ | dateTime _ _ _ | time _ | loop _ => by
    simp only [literal?, reduceCtorEq, false_iff]
    exact leafLong trivial (by simp)
  | int i => by
    rw [intLong, literal?, intText?]
    split <;> simp_all
  | list items => by
    rw [literal?, Option.map_eq_none_iff, literalsNone, listLong]
  | pair a b => by
    rw [pairLong, ← literalNone a, ← literalNone b, literal?]
    cases a.literal? <;> cases b.literal? <;> simp
  | set [] => by
    simp [literal?, setLong]
  | set (v :: rest) => by
    rw [literal?, Option.map_eq_none_iff, literalsNone, setLong]
    simp
  | map entries => by
    rw [literal?, Option.map_eq_none_iff, entriesNone, mapLong]

theorem literalsNone : ∀ items : List Value, literals? items = none ↔ ∃ v ∈ items, v.HoldsLong
  | [] => by simp [literals?]
  | v :: rest => by
    rw [List.exists_mem_cons_iff, ← literalNone v, ← literalsNone rest, literals?]
    cases v.literal? <;> cases literals? rest <;> simp

theorem entriesNone : ∀ entries : List (Value × Value),
    entryLiterals? entries = none ↔ ∃ e ∈ entries, e.1.HoldsLong ∨ e.2.HoldsLong
  | [] => by simp [entryLiterals?]
  | (k, v) :: rest => by
    rw [List.exists_mem_cons_iff, ← literalNone k, ← literalNone v, ← entriesNone rest, entryLiterals?]
    cases k.literal? <;> cases v.literal? <;> cases entryLiterals? rest <;> simp

end

/-- A value has no text exactly when an integer in it has too many digits. -/
theorem textNone (v : Value) : v.text? = none ↔ v.HoldsLong := by
  cases v with
  | text | date | dateTime | time =>
    simp only [text?, reduceCtorEq, false_iff]
    exact leafLong trivial (by simp)
  | _ => exact literalNone _

/-! ### Flat forms -/

def Obstructed (v : Value) : Prop := v.HoldsLong ∨ Under (.loop true) v

theorem mapObstructed {entries : List (Value × Value)} :
    (Value.map entries).Obstructed ↔ ∃ e ∈ entries, e.1.HoldsLong ∨ e.2.Obstructed := by
  have below : Under (.loop true) (.map entries) ↔ ∃ e ∈ entries, Under (.loop true) e.2 := by
    constructor
    · rintro (_ | ⟨mem, below⟩)
      exact ⟨_, mem, below⟩
    · rintro ⟨⟨k, v⟩, mem, below⟩
      exact .entry mem below
  simp only [Obstructed, mapLong, below, ← exists_or, ← and_or_left, or_assoc]

theorem otherUnder {v : Value} (noMap : ∀ entries, v ≠ .map entries) :
    Under (.loop true) v ↔ v = .loop true := by
  constructor
  · rintro (_ | _)
    · rfl
    · exact absurd rfl (noMap _)
  · rintro rfl
    exact .self

theorem otherObstructed {v : Value} (noMap : ∀ entries, v ≠ .map entries) (noLoop : v ≠ .loop true) :
    v.Obstructed ↔ v.HoldsLong :=
  or_iff_left (mt (otherUnder noMap).mp noLoop)

theorem leafObstructed {v : Value} (leaf : v.IsLeaf) (other : ∀ i, v ≠ .int i)
    (noLoop : v ≠ .loop true) : ¬ v.Obstructed := by
  have noMap : ∀ entries, v ≠ .map entries := by
    rintro entries rfl
    exact leaf
  rw [otherObstructed noMap noLoop]
  exact leafLong leaf other

end Value

namespace Catalog

open Value

theorem textRefused {v : Value} : (∃ breach, textOf v = .error breach) ↔ v.HoldsLong := by
  rw [← textNone]
  unfold textOf
  cases v.text? <;> simp

theorem leafFlat {key : String} {flat : OrderedMap String String} {v : Value}
    (noMap : ∀ entries, v ≠ .map entries) (noLoop : v ≠ .loop true) (filled : v ≠ .null) :
    flattenUnder key flat v = (textOf v).map fun text => flat.insert key text := by
  cases v with
  | map entries => exact absurd rfl (noMap entries)
  | null => exact absurd rfl filled
  | loop isMap =>
    cases isMap with
    | true => exact absurd rfl noLoop
    | false => rfl
  | _ =>
    simp only [flattenUnder]
    cases textOf _ <;> rfl

theorem writtenFlat {key : String} {flat : OrderedMap String String} {v : Value}
    (noMap : ∀ entries, v ≠ .map entries) (noLoop : v ≠ .loop true) (filled : v ≠ .null) :
    (∃ breach, flattenUnder key flat v = .error breach) ↔ v.Obstructed := by
  rw [leafFlat noMap noLoop filled, otherObstructed noMap noLoop, ← textRefused]
  cases textOf v <;> simp [Except.map]

mutual

theorem entriesFlat (above : String) (flat : OrderedMap String String) :
    ∀ entries : List (Value × Value), (∃ breach, flattenEntries above flat entries = .error breach) ↔
      ∃ e ∈ entries, e.1.HoldsLong ∨ e.2.Obstructed
  | [] => by simp [flattenEntries]
  | (k, v) :: rest => by
    rw [List.exists_mem_cons_iff, ← textRefused, flattenEntries]
    cases textOf k with
    | error breach => simp [bind, Except.bind]
    | ok name =>
      have head := underFlat (keyBelow above name) flat v
      simp only [bind, Except.bind]
      cases under : flattenUnder (keyBelow above name) flat v with
      | error breach => simp_all
      | ok more =>
        have later := entriesFlat above more rest
        simp_all

theorem underFlat (key : String) (flat : OrderedMap String String) :
    ∀ v : Value, (∃ breach, flattenUnder key flat v = .error breach) ↔ v.Obstructed
  | .map entries => by
    rw [mapObstructed, ← entriesFlat key .empty entries, flattenUnder]
    cases flattenEntries key .empty entries <;> simp [bind, Except.bind]
  | .loop true => by
    simp [flattenUnder, Obstructed, Under.self]
  | .null => by
    simp only [flattenUnder, reduceCtorEq, exists_false, false_iff]
    exact leafObstructed trivial (by simp) (by simp)
  | .bool _ | .int _ | .float _ | .text _ | .bytes _ | .date _ | .dateTime _ _ _ | .time _
  | .list _ | .pair _ _ | .set _ | .loop false => writtenFlat (by simp) (by simp) (by simp)

end

/-- A map has no flat form exactly when an integer in it has too many digits or a map that is reached
through maps alone stands in itself. -/
theorem flatRefused {entries : List (Value × Value)} :
    (∃ breach, flatten entries = .error breach) ↔ (Value.map entries).Obstructed := by
  rw [mapObstructed]
  exact entriesFlat "" .empty entries

end Catalog

end Phrasebook

/-!
Ordered maps: every key once, in the order of first insertion, with the value of the last. The main
statements give the keys and the values after an insertion.
-/

namespace Phrasebook

/-- The pairs of an ordered map after `key` is given `value`: in place when the key is there, at the
end when it is not. -/
def putEntry {κ α : Type} [DecidableEq κ] (key : κ) (value : α) : List (κ × α) → List (κ × α)
  | [] => [(key, value)]
  | (k, v) :: rest => if k = key then (k, value) :: rest else (k, v) :: putEntry key value rest

theorem putEntryKeys {κ α : Type} [DecidableEq κ] (key : κ) (value : α)
    (entries : List (κ × α)) :
    (putEntry key value entries).map Prod.fst =
      if key ∈ entries.map Prod.fst then entries.map Prod.fst
      else entries.map Prod.fst ++ [key] := by
  induction entries with
  | nil => simp [putEntry]
  | cons entry rest ih =>
    obtain ⟨k, v⟩ := entry
    by_cases h : k = key
    · simp [putEntry, h]
    · have h' : ¬key = k := fun e => h e.symm
      by_cases hm : key ∈ rest.map Prod.fst
      · simp only [putEntry, h, if_false, List.map_cons, ih, hm, if_true, List.mem_cons, or_true]
      · simp only [putEntry, h, if_false, List.map_cons, ih, hm, List.mem_cons, h', or_self,
          List.cons_append]

structure OrderedMap (κ α : Type) where
  entries : List (κ × α)
  distinct : (entries.map Prod.fst).Nodup

namespace OrderedMap

variable {κ α : Type}

instance [DecidableEq κ] [DecidableEq α] : DecidableEq (OrderedMap κ α) := fun a b =>
  if h : a.entries = b.entries then
    .isTrue (by cases a; cases b; simp_all)
  else .isFalse fun e => h (congrArg entries e)

def empty : OrderedMap κ α := ⟨[], by simp⟩

instance : Inhabited (OrderedMap κ α) := ⟨empty⟩

def keys (m : OrderedMap κ α) : List κ := m.entries.map Prod.fst

def size (m : OrderedMap κ α) : Nat := m.entries.length

def isEmpty (m : OrderedMap κ α) : Bool := m.entries.isEmpty

variable [DecidableEq κ]

def get? (m : OrderedMap κ α) (key : κ) : Option α :=
  (m.entries.find? fun entry => entry.1 = key).map Prod.snd

def contains (m : OrderedMap κ α) (key : κ) : Bool := m.keys.contains key

theorem putEntryDistinct (key : κ) (value : α) (entries : List (κ × α))
    (distinct : (entries.map Prod.fst).Nodup) :
    ((putEntry key value entries).map Prod.fst).Nodup := by
  rw [putEntryKeys]
  split
  · exact distinct
  · rename_i fresh
    rw [List.nodup_append]
    refine ⟨distinct, by simp, ?_⟩
    intro a ha b hb hab
    simp only [List.mem_singleton] at hb
    exact fresh (hb ▸ hab ▸ ha)

def insert (m : OrderedMap κ α) (key : κ) (value : α) : OrderedMap κ α :=
  ⟨putEntry key value m.entries, putEntryDistinct key value m.entries m.distinct⟩

def insertAll (m : OrderedMap κ α) (entries : List (κ × α)) : OrderedMap κ α :=
  entries.foldl (fun m entry => m.insert entry.1 entry.2) m

def ofList (entries : List (κ × α)) : OrderedMap κ α := empty.insertAll entries

/-- The values of the second map over those of the first; its new keys follow in their order. -/
def overlay (m other : OrderedMap κ α) : OrderedMap κ α := m.insertAll other.entries

def erase (m : OrderedMap κ α) (key : κ) : OrderedMap κ α :=
  ⟨m.entries.filter fun entry => entry.1 ≠ key,
    (List.filter_sublist.map Prod.fst).nodup m.distinct⟩

theorem insertKeys (m : OrderedMap κ α) (key : κ) (value : α) :
    (m.insert key value).keys = if key ∈ m.keys then m.keys else m.keys ++ [key] :=
  putEntryKeys key value m.entries

theorem putEntryFind (key k : κ) (value : α) (entries : List (κ × α)) :
    ((putEntry key value entries).find? fun entry => entry.1 = k).map Prod.snd =
      if key = k then some value else (entries.find? fun entry => entry.1 = k).map Prod.snd := by
  induction entries with
  | nil => by_cases h : key = k <;> simp [putEntry, h]
  | cons entry rest ih =>
    obtain ⟨k₀, v⟩ := entry
    by_cases h₀ : k₀ = key
    · subst h₀
      by_cases h : k₀ = k <;> simp [putEntry, h]
    · by_cases hk : k₀ = k
      · subst hk
        simp [putEntry, h₀, Ne.symm h₀]
      · simp [putEntry, h₀, hk, ih]

theorem insertGet (m : OrderedMap κ α) (key k : κ) (value : α) :
    (m.insert key value).get? k = if key = k then some value else m.get? k :=
  putEntryFind key k value m.entries

end OrderedMap

end Phrasebook

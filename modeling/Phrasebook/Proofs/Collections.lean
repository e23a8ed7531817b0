import Mathlib.Data.List.Induction
import Mathlib.Data.List.Nodup
import Mathlib.Data.Prod.Basic
import Phrasebook.Placeholder

/-! Ordered maps through their pairs, and the first occurrences in a list. A look-up finds exactly the
pair that stands in the map, and laying one map over another leaves the values of the lower one where
the upper one has none. -/
namespace Phrasebook

theorem memDistinct {α : Type} [DecidableEq α] {items : List α} {a : α} :
    a ∈ distinct items ↔ a ∈ items := by
  induction items with
  | nil => rfl
  | cons first rest ih =>
    by_cases same : a = first <;> simp [distinct, ih, same]

theorem distinctNodup {α : Type} [DecidableEq α] (items : List α) : (distinct items).Nodup := by
  induction items with
  | nil => exact .nil
  | cons first rest ih =>
    refine List.nodup_cons.mpr ⟨?_, ih.filter _⟩
    simp

theorem distinctFixed {α : Type} [DecidableEq α] {items : List α} (nodup : items.Nodup) :
    distinct items = items := by
  induction items with
  | nil => rfl
  | cons first rest ih =>
    obtain ⟨fresh, nodup⟩ := List.nodup_cons.mp nodup
    have kept : rest.filter (· ≠ first) = rest := by
      refine List.filter_eq_self.mpr fun a mem => ?_
      have other : a ≠ first := fun same => fresh (same ▸ mem)
      simpa using other
    rw [distinct, ih nodup, kept]

/-- What is kept of a list: every item once, at the place of its first occurrence. -/
structure FirstOccurrences {α : Type} [DecidableEq α] (kept all : List α) : Prop where
  members : ∀ a, a ∈ kept ↔ a ∈ all
  ordered : kept.Pairwise fun a b => all.idxOf a < all.idxOf b

theorem distinctFirst {α : Type} [DecidableEq α] (items : List α) :
    FirstOccurrences (distinct items) items := by
  constructor
  · exact fun a => memDistinct
  · induction items with
    | nil => exact .nil
    | cons first rest ih =>
      have later : ∀ b ∈ (distinct rest).filter (· ≠ first),
          (first :: rest).idxOf b = rest.idxOf b + 1 := by
        intro b mem
        have other : b ≠ first := by simpa using (List.mem_filter.mp mem).2
        exact List.idxOf_cons_ne rest other.symm
      rw [distinct, List.pairwise_cons]
      constructor
      · intro b mem
        rw [later b mem, List.idxOf_cons_self]
        omega
      · refine (ih.filter _).imp_of_mem fun left right before => ?_
        rw [later _ left, later _ right]
        omega

theorem distinctAppend {α : Type} [DecidableEq α] (items more : List α) :
    distinct (items ++ more) = distinct items ++ (distinct more).filter (· ∉ items) := by
  induction items with
  | nil => simp [distinct]
  | cons first rest ih =>
    rw [List.cons_append, distinct, ih, List.filter_append, List.filter_filter, distinct,
      List.cons_append]
    congr 2
    refine List.filter_congr fun a mem => ?_
    by_cases same : a = first <;> simp [same]

theorem distinctSnoc {α : Type} [DecidableEq α] (items : List α) (a : α) :
    distinct (items ++ [a]) = if a ∈ items then distinct items else distinct items ++ [a] := by
  rw [distinctAppend]
  split <;> simp [distinct, *]

theorem distinctKnown {α : Type} [DecidableEq α] {items : List α} {a : α} (known : a ∈ items)
    (more : List α) : distinct (items ++ a :: more) = distinct (items ++ more) := by
  rw [distinctAppend, distinctAppend, distinct, List.filter_cons_of_neg (by simpa using known),
    List.filter_filter]
  congr 1
  refine List.filter_congr fun b mem => ?_
  by_cases same : b = a <;> simp [same, known]

theorem distinctPrefix {α : Type} [DecidableEq α] (items more : List α) :
    distinct (distinct items ++ more) = distinct (items ++ more) := by
  rw [distinctAppend, distinctAppend, distinctFixed (distinctNodup items)]
  simp only [memDistinct]

theorem distinctSuffix {α : Type} [DecidableEq α] (items more : List α) :
    distinct (items ++ distinct more) = distinct (items ++ more) := by
  rw [distinctAppend, distinctAppend, distinctFixed (distinctNodup more)]

theorem lookupMember {κ α : Type} [DecidableEq κ] {entries : List (κ × α)}
    (distinct : (entries.map Prod.fst).Nodup) {key : κ} {value : α} :
    entries.lookup key = some value ↔ (key, value) ∈ entries := by
  induction entries with
  | nil => simp
  | cons found rest ih =>
    obtain ⟨k, other⟩ := found
    simp only [List.map_cons, List.nodup_cons] at distinct
    by_cases same : key = k
    · subst same
      have absent : (key, value) ∉ rest := fun mem =>
        distinct.1 (List.mem_map.mpr ⟨_, mem, rfl⟩)
      simp [absent, eq_comm]
    · simp [List.lookup_cons, same, beq_eq_false_iff_ne.mpr same, ih distinct.2]

namespace OrderedMap

variable {κ α : Type} [DecidableEq κ]

theorem getMember {m : OrderedMap κ α} {key : κ} {value : α} :
    m.get? key = some value ↔ (key, value) ∈ m.entries := by
  obtain ⟨entries, distinct⟩ := m
  simp only [get?]
  induction entries with
  | nil => simp
  | cons entry rest ih =>
    obtain ⟨k, v⟩ := entry
    simp only [List.map_cons, List.nodup_cons] at distinct
    obtain ⟨fresh, distinct⟩ := distinct
    by_cases same : k = key
    · subst same
      have absent : (k, value) ∉ rest := fun mem => fresh (List.mem_map.mpr ⟨_, mem, rfl⟩)
      simp [absent, eq_comm]
    · have other : key ≠ k := fun e => same e.symm
      simpa [same, other] using ih distinct

theorem getNone {m : OrderedMap κ α} {key : κ} : m.get? key = none ↔ key ∉ m.keys := by
  constructor
  · intro absent mem
    obtain ⟨⟨_, value⟩, inside, rfl⟩ := List.mem_map.mp mem
    exact absurd (absent.symm.trans (getMember.mpr inside)) (by simp)
  · intro absent
    cases found : m.get? key with
    | none => rfl
    | some value => exact absurd (List.mem_map.mpr ⟨_, getMember.mp found, rfl⟩) absent

theorem keyMember {m : OrderedMap κ α} {key : κ} :
    key ∈ m.keys ↔ ∃ value, m.get? key = some value := by
  cases found : m.get? key with
  | none => simpa using getNone.mp found
  | some value =>
    exact ⟨fun _ => ⟨value, rfl⟩, fun _ => List.mem_map.mpr ⟨_, getMember.mp found, rfl⟩⟩

theorem containsKey {m : OrderedMap κ α} {key : κ} : m.contains key = true ↔ key ∈ m.keys :=
  List.contains_iff_mem

@[simp] theorem emptyGet (key : κ) : (empty : OrderedMap κ α).get? key = none := rfl

theorem insertAllGet (m : OrderedMap κ α) (entries : List (κ × α)) (key : κ)
    (distinct : (entries.map Prod.fst).Nodup) :
    (m.insertAll entries).get? key =
      ((entries.find? fun entry => entry.1 = key).map Prod.snd).or (m.get? key) := by
  induction entries generalizing m with
  | nil => rfl
  | cons entry rest ih =>
    obtain ⟨k, v⟩ := entry
    simp only [List.map_cons, List.nodup_cons] at distinct
    have step : m.insertAll ((k, v) :: rest) = (m.insert k v).insertAll rest := rfl
    rw [step, ih _ distinct.2, insertGet]
    by_cases same : k = key
    · subst same
      have absent : rest.find? (fun entry => decide (entry.1 = k)) = none := by
        refine List.find?_eq_none.mpr fun entry mem => ?_
        simpa using fun e => distinct.1 (List.mem_map.mpr ⟨entry, mem, e⟩)
      simp [absent]
    · simp [same]

theorem ofListMember {entries : List (κ × α)} (distinct : (entries.map Prod.fst).Nodup) {key : κ}
    {value : α} : (ofList entries).get? key = some value ↔ (key, value) ∈ entries := by
  have held : (ofList entries).get? key =
      (entries.find? fun entry => entry.1 = key).map Prod.snd := by
    rw [ofList, insertAllGet _ _ _ distinct, emptyGet, Option.or_none]
  rw [held]
  exact getMember (m := ⟨entries, distinct⟩)

theorem ofZipMember {keys : List κ} {values : List α} (distinct : keys.Nodup)
    (count : keys.length = values.length) {key : κ} {value : α} :
    (ofList (keys.zip values)).get? key = some value ↔ (key, value) ∈ keys.zip values := by
  have firsts : (keys.zip values).map Prod.fst = keys := List.map_fst_zip (Nat.le_of_eq count)
  exact ofListMember (by rwa [firsts])

theorem distinctKeys (m : OrderedMap κ α) : Phrasebook.distinct m.keys = m.keys :=
  distinctFixed m.distinct

theorem insertAllKeys (m : OrderedMap κ α) (entries : List (κ × α)) :
    (m.insertAll entries).keys = Phrasebook.distinct (m.keys ++ entries.map Prod.fst) := by
  induction entries generalizing m with
  | nil =>
    rw [List.map_nil, List.append_nil, m.distinctKeys]
    rfl
  | cons entry rest ih =>
    obtain ⟨k, v⟩ := entry
    have step : m.insertAll ((k, v) :: rest) = (m.insert k v).insertAll rest := rfl
    rw [step, ih, insertKeys, List.map_cons]
    split
    · rename_i known
      exact (distinctKnown known _).symm
    · rw [List.append_assoc, List.singleton_append]

theorem putEntryFresh {key : κ} {value : α} {entries : List (κ × α)}
    (fresh : key ∉ entries.map Prod.fst) : putEntry key value entries = entries ++ [(key, value)] := by
  induction entries with
  | nil => rfl
  | cons entry rest ih =>
    obtain ⟨other, later⟩ := not_or.mp (mt List.mem_cons.mpr fresh)
    rw [putEntry, if_neg (Ne.symm other), ih later, List.cons_append]

theorem putEntryFilterMap {β : Type} {f : κ × α → Option β} {key : κ}
    (drops : ∀ value, f (key, value) = none) {value : α} {entries : List (κ × α)} :
    (putEntry key value entries).filterMap f = entries.filterMap f := by
  induction entries with
  | nil => simp [putEntry, drops]
  | cons entry rest ih =>
    obtain ⟨k, v⟩ := entry
    unfold putEntry
    split
    · rename_i same
      subst same
      simp only [List.filterMap_cons, drops]
    · simp only [List.filterMap_cons, ih]

theorem insertAllFresh (m : OrderedMap κ α) (entries : List (κ × α))
    (distinct : (m.entries ++ entries).map Prod.fst |>.Nodup) :
    (m.insertAll entries).entries = m.entries ++ entries := by
  induction entries generalizing m with
  | nil => exact (List.append_nil _).symm
  | cons entry rest ih =>
    have snoc : m.entries ++ entry :: rest = (m.entries ++ [entry]) ++ rest := by simp
    have fresh : entry.1 ∉ m.entries.map Prod.fst := by
      rw [List.map_append] at distinct
      exact fun mem => (List.nodup_append.mp distinct).2.2 _ mem _ (by simp) rfl
    have put : (m.insert entry.1 entry.2).entries = m.entries ++ [entry] := putEntryFresh fresh
    change ((m.insert entry.1 entry.2).insertAll rest).entries = _
    rw [ih, put, snoc]
    rwa [put, ← snoc]

theorem ofEntries (m : OrderedMap κ α) : ofList m.entries = m := by
  obtain ⟨entries, distinct⟩ := m
  have same : (ofList entries).entries = entries := insertAllFresh empty entries distinct
  cases made : ofList entries with
  | mk held distinct =>
    rw [made] at same
    cases same
    rfl

theorem eraseGet (m : OrderedMap κ α) (key k : κ) :
    (m.erase key).get? k = if k = key then none else m.get? k := by
  simp only [get?, erase, List.find?_filter]
  split
  · rename_i same
    subst same
    simp
  · rename_i other
    congr 2
    funext entry
    by_cases same : entry.1 = k <;> simp [same, other]

theorem overlayGet (m other : OrderedMap κ α) (key : κ) :
    (m.overlay other).get? key = (other.get? key).or (m.get? key) :=
  insertAllGet m other.entries key other.distinct

theorem overlayKeys (m other : OrderedMap κ α) :
    (m.overlay other).keys = Phrasebook.distinct (m.keys ++ other.keys) :=
  insertAllKeys m other.entries

theorem keysRead (m : OrderedMap κ α) :
    m.keys.map (fun key => (key, m.get? key)) = m.entries.map (Prod.map id some) := by
  rw [keys, List.map_map]
  refine List.map_congr_left fun entry mem => ?_
  rw [Function.comp_apply, getMember.mpr mem]
  rfl

theorem sameMap {a b : OrderedMap κ α} (keys : a.keys = b.keys) (values : ∀ key, a.get? key = b.get? key) :
    a = b := by
  have entries : a.entries.map (Prod.map id some) = b.entries.map (Prod.map id some) := by
    rw [← keysRead, ← keysRead, keys, funext values]
  have injective : Function.Injective (Prod.map (id : κ → κ) (some : α → Option α)) :=
    Function.Injective.prodMap Function.injective_id fun _ _ => Option.some.inj
  obtain ⟨_, _⟩ := a
  obtain ⟨_, _⟩ := b
  cases List.map_injective_iff.mpr injective entries
  rfl

theorem insertKeysDistinct (m : OrderedMap κ α) (key : κ) (value : α) :
    (m.insert key value).keys = Phrasebook.distinct (m.keys ++ [key]) :=
  m.insertAllKeys [(key, value)]

theorem overlayInsert (m other : OrderedMap κ α) (key : κ) (value : α) :
    m.overlay (other.insert key value) = (m.overlay other).insert key value := by
  refine sameMap ?_ fun k => ?_
  · rw [overlayKeys, insertKeysDistinct, insertKeysDistinct, overlayKeys, distinctSuffix,
      distinctPrefix, List.append_assoc]
  · rw [overlayGet, insertGet, insertGet, overlayGet]
    split
    · rfl
    · rfl

theorem overlayAssoc (a b c : OrderedMap κ α) :
    (a.overlay b).overlay c = a.overlay (b.overlay c) := by
  refine sameMap ?_ fun key => ?_
  · calc ((a.overlay b).overlay c).keys = Phrasebook.distinct (a.keys ++ b.keys ++ c.keys) := by
          rw [overlayKeys, overlayKeys, distinctPrefix]
      _ = (a.overlay (b.overlay c)).keys := by
          rw [overlayKeys, overlayKeys, distinctSuffix, List.append_assoc]
  · rw [overlayGet, overlayGet, overlayGet, overlayGet, Option.or_assoc]

theorem overlayMember {a b : OrderedMap κ α} {key : κ} :
    key ∈ (a.overlay b).keys ↔ key ∈ a.keys ∨ key ∈ b.keys := by
  rw [overlayKeys, memDistinct, List.mem_append]

/-- Pairs that are inserted one by one may be gathered in a map of their own first. -/
theorem insertAllOverlay (m : OrderedMap κ α) (entries : List (κ × α)) :
    m.insertAll entries = m.overlay (ofList entries) := by
  induction entries using List.reverseRecOn with
  | nil => rfl
  | append_singleton entries entry ih =>
    have snoc (n : OrderedMap κ α) :
        n.insertAll (entries ++ [entry]) = (n.insertAll entries).insert entry.1 entry.2 :=
      List.foldl_append
    rw [ofList, snoc, snoc, overlayInsert, ih]
    rfl

theorem insertAllLast (m : OrderedMap κ α) (entries : List (κ × α)) (key : κ) :
    (m.insertAll entries).get? key = (entries.reverse.lookup key).or (m.get? key) := by
  induction entries generalizing m with
  | nil => rfl
  | cons entry rest ih =>
    obtain ⟨own, value⟩ := entry
    have step : m.insertAll ((own, value) :: rest) = (m.insert own value).insertAll rest := rfl
    rw [step, ih, insertGet, List.reverse_cons, List.lookup_append, Option.or_assoc]
    congr 1
    by_cases same : own = key
    · simp [same]
    · simp [List.lookup_cons, same, beq_eq_false_iff_ne.mpr (Ne.symm same)]

/-- A map as pairs leave it that are inserted one by one: each key stands where it came first and has the
value that came last. -/
structure Inserts (listed : List (κ × α)) (m : OrderedMap κ α) : Prop where
  made : m = ofList listed
  keys : FirstOccurrences m.keys (listed.map Prod.fst)
  last : ∀ key, m.get? key = listed.reverse.lookup key

theorem ofListInserts (listed : List (κ × α)) : Inserts listed (ofList listed) := by
  constructor
  case made => rfl
  case keys =>
    rw [ofList, insertAllKeys]
    exact distinctFirst _
  case last =>
    intro key
    rw [ofList, insertAllLast, emptyGet, Option.or_none]

theorem insertAllEntry {m : OrderedMap κ α} {entries : List (κ × α)} {key : κ} {value : α}
    (found : (m.insertAll entries).get? key = some value) :
    (key, value) ∈ entries ∨ m.get? key = some value := by
  induction entries generalizing m with
  | nil => exact .inr found
  | cons entry rest ih =>
    rcases ih found with later | held
    · exact .inl (List.mem_cons_of_mem entry later)
    · rw [insertGet] at held
      split at held
      · rename_i same
        cases held
        exact .inl (same ▸ List.mem_cons_self)
      · exact .inr held

theorem ofListAppend (entries more : List (κ × α)) :
    ofList (entries ++ more) = (ofList entries).overlay (ofList more) := by
  rw [← insertAllOverlay]
  exact List.foldl_append

end OrderedMap
end Phrasebook

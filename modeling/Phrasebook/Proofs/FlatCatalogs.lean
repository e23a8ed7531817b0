import Phrasebook.Proofs.Collections
import Phrasebook.Proofs.Outcome
import Phrasebook.Proofs.Pieces
import Phrasebook.Proofs.ValueParts

/-! Flat catalogs against the leaves of the nested ones they come from. Whatever the nesting, a flat catalog is
what the leaves make that are inserted one by one, each under its dotted path; none of them is lost when keys
are plain. -/
namespace Phrasebook

open Text

namespace Value

mutual

/-- The leaves of a value in the order of the document, each with the keys on the way to it. -/
def leaves : Value → List (List Value × Value)
  | map entries => entryLeaves entries
  | v => [([], v)]

def entryLeaves : List (Value × Value) → List (List Value × Value)
  | [] => []
  | (k, v) :: rest => (leaves v).map (fun leaf => (k :: leaf.1, leaf.2)) ++ entryLeaves rest

end

def leafText? : Value → Option String
  | null => some ""
  | v => v.text?

theorem mapInduction {motive : Value → Prop}
    (leaf : ∀ v, (∀ entries, v ≠ .map entries) → motive v)
    (map : ∀ entries, (∀ e ∈ entries, motive e.2) → motive (.map entries)) : ∀ v, motive v
  | .map entries => map entries fun e _ => mapInduction leaf map e.2
  | .null | .bool _ | .int _ | .float _ | .text _ | .bytes _ | .date _ | .dateTime _ _ _ | .time _
  | .list _ | .pair _ _ | .set _ | .loop _ => leaf _ (by simp)
termination_by v => sizeOf v
decreasing_by
  rename_i mem
  have smaller := List.sizeOf_lt_of_mem mem
  obtain ⟨k, below⟩ := e
  simp only [Prod.mk.sizeOf_spec, Value.map.sizeOf_spec] at smaller ⊢
  omega

theorem leafAlone {v : Value} (noMap : ∀ entries, v ≠ .map entries) : v.leaves = [([], v)] := by
  cases v with
  | map entries => exact absurd rfl (noMap entries)
  | _ => rw [leaves]; simp

theorem leavesMap (entries : List (Value × Value)) :
    (map entries).leaves =
      entries.flatMap fun e => e.2.leaves.map fun leaf => (e.1 :: leaf.1, leaf.2) := by
  rw [leaves]
  induction entries with
  | nil => rfl
  | cons e rest ih => rw [entryLeaves, ih, List.flatMap_cons]

end Value

namespace Catalog

open Value Report

/-! ### Entries -/

/-- Names joined with dots. Those that are empty are left out as long as no other came before them. -/
def dotted (names : List String) : String := ".".intercalate (names.dropWhile String.isEmpty)

/-- The entry that a leaf is written as: the texts of its keys as one, and its own text. -/
def written? (leaf : List Value × Value) : Option (String × String) := do
  let names ← leaf.1.mapM Value.text?
  let text ← leaf.2.leafText?
  some (dotted names, text)

def writtenBelow? (above : String) (leaf : List Value × Value) : Option (String × String) := do
  let names ← leaf.1.mapM Value.text?
  let text ← leaf.2.leafText?
  some (names.foldl keyBelow above, text)

theorem keysJoined {above : String} (filled : above ≠ "") (names : List String) :
    names.foldl keyBelow above = ".".intercalate (above :: names) := by
  induction names generalizing above with
  | nil => exact String.intercalate_singleton.symm
  | cons name rest ih =>
    have step : keyBelow above name = above ++ "." ++ name := by
      rw [keyBelow, if_neg (by simpa using filled)]
    have longer : above ++ "." ++ name ≠ "" := by
      intro empty
      simpa using congrArg String.length empty
    rw [List.foldl_cons, step, ih longer, String.intercalate_cons_cons]
    cases rest with
    | nil => rw [String.intercalate_singleton, String.intercalate_singleton]
    | cons next rest =>
      rw [String.intercalate_cons_cons, String.intercalate_cons_cons]
      simp only [String.append_assoc]

theorem keysDotted (names : List String) : names.foldl keyBelow "" = dotted names := by
  induction names with
  | nil => rfl
  | cons name rest ih =>
    have first : keyBelow "" name = name := rfl
    rw [List.foldl_cons, first, dotted]
    by_cases empty : name = ""
    · subst empty
      exact ih
    · rw [keysJoined empty, List.dropWhile_cons_of_neg (by simpa using empty)]

theorem writtenTop : writtenBelow? "" = written? := by
  funext leaf
  simp only [writtenBelow?, written?, keysDotted]

theorem writtenUnder {above name : String} {k : Value} (text : k.text? = some name)
    (leaf : List Value × Value) :
    writtenBelow? above (k :: leaf.1, leaf.2) = writtenBelow? (keyBelow above name) leaf := by
  simp only [writtenBelow?, List.mapM_cons, text, Option.bind_eq_bind, Option.bind_some]
  cases leaf.1.mapM Value.text? <;> rfl

theorem textGiven {v : Value} {text : String} (given : textOf v = .ok text) : v.text? = some text := by
  unfold textOf at given
  split at given
  · rename_i found
    cases given
    exact found
  · contradiction

/-! ### Insertion -/

/-- A run that lists the leaves it meets: what it makes of a map is what their entries make of it. -/
def Adds (key : String) (met : List (List Value × Value)) (flat out : OrderedMap String String) : Prop :=
  ∃ listed, met.map (writtenBelow? key) = listed.map some ∧ out = flat.insertAll listed

theorem leafAdds {key : String} {flat out : OrderedMap String String} {v : Value}
    (noMap : ∀ entries, v ≠ .map entries) (noLoop : v ≠ .loop true) (filled : v ≠ .null)
    (ok : flattenUnder key flat v = .ok out) : Adds key v.leaves flat out := by
  have own : v.leafText? = v.text? := by
    cases v with
    | null => exact absurd rfl filled
    | _ => rfl
  rw [leafFlat noMap noLoop filled] at ok
  cases given : textOf v with
  | error breach => simp [given, Except.map] at ok
  | ok text =>
    simp only [given, Except.map, Except.ok.injEq] at ok
    subst ok
    refine ⟨[(key, text)], ?_, rfl⟩
    simp [leafAlone noMap, writtenBelow?, own, textGiven given]

mutual

theorem entriesAdd (above : String) (flat : OrderedMap String String) :
    ∀ (entries : List (Value × Value)) (out : OrderedMap String String),
      flattenEntries above flat entries = .ok out → Adds above (entryLeaves entries) flat out
  | [] => by
    rintro out ⟨⟩
    exact ⟨[], rfl, rfl⟩
  | (k, v) :: rest => by
    intro out ok
    rw [flattenEntries] at ok
    obtain ⟨name, given, ok⟩ := exceptBindOk.mp ok
    obtain ⟨more, under, ok⟩ := exceptBindOk.mp ok
    obtain ⟨first, writes, rfl⟩ := underAdds (keyBelow above name) flat v more under
    obtain ⟨later, follows, rfl⟩ := entriesAdd above _ rest out ok
    refine ⟨first ++ later, ?_, List.foldl_append.symm⟩
    rw [entryLeaves, List.map_append, List.map_append, List.map_map, ← follows, ← writes]
    congr 1
    exact List.map_congr_left fun leaf _ => writtenUnder (textGiven given) leaf

theorem underAdds (key : String) (flat : OrderedMap String String) :
    ∀ (v : Value) (out : OrderedMap String String), flattenUnder key flat v = .ok out →
      Adds key v.leaves flat out
  | .map entries => by
    intro out ok
    rw [flattenUnder] at ok
    obtain ⟨below, made, ok⟩ := exceptBindOk.mp ok
    cases ok
    -- The map of the inner entries is gathered first, and then laid over the outer one.
    obtain ⟨listed, writes, rfl⟩ := entriesAdd key .empty entries below made
    exact ⟨listed, writes, (OrderedMap.insertAllOverlay flat listed).symm⟩
  | .null => by
    intro out ok
    rw [flattenUnder] at ok
    cases ok
    exact ⟨[(key, "")], rfl, rfl⟩
  | .loop true => by
    intro out ok
    rw [flattenUnder] at ok
    contradiction
  | .bool _ | .int _ | .float _ | .text _ | .bytes _ | .date _ | .dateTime _ _ _ | .time _ | .list _
  | .pair _ _ | .set _ | .loop false => fun _ => leafAdds (by simp) (by simp) (by simp)

end

/-! ### Plain keys -/

def Undotted (name : String) : Prop := name ≠ "" ∧ '.' ∉ name.toList

instance (name : String) : Decidable (Undotted name) := inferInstanceAs (Decidable (_ ∧ _))

/-- Keys with different names, none of them empty or with a dot in it. -/
structure PlainKeys (entries : List (Value × Value)) : Prop where
  apart : (entries.map fun e => e.1.text?).Nodup
  plain : ∀ e ∈ entries, ∀ name ∈ e.1.text?, Undotted name

/-- Plain keys in every map that is reached through maps. -/
def PlainBelow (v : Value) : Prop := ∀ entries, Under (.map entries) v → PlainKeys entries

theorem plainMap {entries : List (Value × Value)} :
    PlainBelow (.map entries) ↔ PlainKeys entries ∧ ∀ e ∈ entries, PlainBelow e.2 := by
  constructor
  · exact fun plain => ⟨plain entries .self, fun e mem inner below => plain inner (.entry mem below)⟩
  · rintro ⟨own, later⟩ inner below
    cases below with
    | self => exact own
    | entry mem below => exact later _ mem inner below

theorem plainLeaf {v : Value} (noMap : ∀ entries, v ≠ .map entries) : PlainBelow v := by
  rintro entries (_ | _)
  · exact absurd rfl (noMap _)
  · exact absurd rfl (noMap _)

def pathNames (leaf : List Value × Value) : List (Option String) := leaf.1.map Value.text?

theorem leafUndotted {v : Value} (plain : PlainBelow v) :
    ∀ leaf ∈ v.leaves, ∀ name, some name ∈ pathNames leaf → Undotted name := by
  induction v using mapInduction with
  | leaf v noMap => simp [leafAlone noMap, pathNames]
  | map entries ih =>
    rw [leavesMap]
    intro leaf mem name named
    obtain ⟨e, listed, mem⟩ := List.mem_flatMap.mp mem
    obtain ⟨below, inside, rfl⟩ := List.mem_map.mp mem
    rcases List.mem_cons.mp named with own | later
    · exact (plainMap.mp plain).1.plain e listed name own.symm
    · exact ih e listed ((plainMap.mp plain).2 e listed) below inside name later

theorem leavesApart {v : Value} (plain : PlainBelow v) : (v.leaves.map pathNames).Nodup := by
  induction v using mapInduction with
  | leaf v noMap =>
    rw [leafAlone noMap]
    exact List.nodup_singleton _
  | map entries ih =>
    obtain ⟨own, later⟩ := plainMap.mp plain
    have keys := own.apart
    rw [List.nodup_iff_pairwise_ne, List.pairwise_map] at keys
    rw [leavesMap, List.map_flatMap, List.nodup_iff_pairwise_ne, List.pairwise_flatMap]
    constructor
    · intro e mem
      have below := ih e mem (later e mem)
      have cons : pathNames ∘ (fun leaf => (e.1 :: leaf.1, leaf.2)) = (e.1.text? :: ·) ∘ pathNames := rfl
      rw [List.map_map, ← List.nodup_iff_pairwise_ne, cons, ← List.map_map]
      exact below.map fun _ _ same => (List.cons.inj same).2
    · -- Paths through different keys differ at the first of their names.
      refine keys.imp fun other path mem path' mem' same => ?_
      simp only [List.mem_map] at mem mem'
      obtain ⟨_, ⟨_, _, rfl⟩, rfl⟩ := mem
      obtain ⟨_, ⟨_, _, rfl⟩, rfl⟩ := mem'
      exact other (List.cons.inj same).1

theorem dottedPieces {names : List String} (filled : names ≠ []) (plain : ∀ name ∈ names, Undotted name) :
    piecesAt (· = '.') (dotted names).toList = names.map String.toList := by
  obtain ⟨name, rest, rfl⟩ := List.exists_cons_of_ne_nil filled
  have kept : (name :: rest).dropWhile String.isEmpty = name :: rest :=
    List.dropWhile_cons_of_neg (by simpa using (plain name List.mem_cons_self).1)
  rw [dotted, kept, joinedText]
  refine piecesJoined (by decide) (by simp) fun part mem c inside => ?_
  obtain ⟨own, listed, rfl⟩ := List.mem_map.mp mem
  rw [decide_eq_false_iff_not]
  rintro rfl
  exact (plain own listed).2 inside

theorem mapMSome {α β : Type} {f : α → Option β} {items : List α} {images : List β} :
    items.mapM f = some images ↔ items.map f = images.map some := by
  induction items generalizing images with
  | nil => cases images <;> simp
  | cons item rest ih =>
    simp only [List.mapM_cons, Option.bind_eq_bind, Option.bind_eq_some_iff, Option.pure_def,
      Option.some.injEq, ih]
    cases images with
    | nil => simp
    | cons image images => simp [List.cons.injEq]

section

variable {entries : List (Value × Value)} {leaf other : List Value × Value} {entry next : String × String}

theorem leafKeyed (mem : leaf ∈ (Value.map entries).leaves) : leaf.1 ≠ [] := by
  rw [leavesMap] at mem
  obtain ⟨e, -, mem⟩ := List.mem_flatMap.mp mem
  obtain ⟨below, -, rfl⟩ := List.mem_map.mp mem
  exact List.cons_ne_nil _ _

/-- The names on the way to a leaf can be read off the key of its entry. -/
theorem writtenPieces (plain : PlainBelow (.map entries)) (mem : leaf ∈ (Value.map entries).leaves)
    (writes : written? leaf = some entry) :
    (piecesAt (· = '.') entry.1.toList).map (some ∘ String.ofList) = pathNames leaf := by
  simp only [written?, Option.bind_eq_bind, Option.bind_eq_some_iff] at writes
  obtain ⟨names, path, text, -, same⟩ := writes
  cases same
  have path : pathNames leaf = names.map some := mapMSome.mp path
  have filled : names ≠ [] := by
    rintro rfl
    exact leafKeyed mem (List.map_eq_nil_iff.mp path)
  have undotted : ∀ name ∈ names, Undotted name := fun name inside =>
    leafUndotted plain leaf mem name (path ▸ List.mem_map_of_mem inside)
  rw [dottedPieces filled undotted, List.map_map, path]
  exact List.map_congr_left fun name _ => congrArg some String.ofList_toList

theorem leafListed {listed : List (String × String)}
    (writes : (Value.map entries).leaves.map written? = listed.map some)
    (mem : leaf ∈ (Value.map entries).leaves) : ∃ entry ∈ listed, written? leaf = some entry := by
  have held : written? leaf ∈ listed.map some := writes ▸ List.mem_map_of_mem mem
  obtain ⟨entry, inside, same⟩ := List.mem_map.mp held
  exact ⟨entry, inside, same.symm⟩

theorem listedApart {listed : List (String × String)} (plain : PlainBelow (.map entries))
    (writes : (Value.map entries).leaves.map written? = listed.map some) :
    (listed.map Prod.fst).Nodup := by
  have apart := leavesApart plain
  have keys : (listed.map Prod.fst).map some =
      (Value.map entries).leaves.map fun leaf => (written? leaf).map Prod.fst := by
    have firsts := congrArg (List.map (Option.map Prod.fst)) writes
    rw [List.map_map, List.map_map] at firsts
    rw [List.map_map]
    exact firsts.symm
  refine List.Nodup.of_map some ?_
  rw [keys]
  refine List.Nodup.map_on (fun leaf mem other held same => ?_) (List.Nodup.of_map _ apart)
  obtain ⟨entry, -, first⟩ := leafListed writes mem
  obtain ⟨next, -, second⟩ := leafListed writes held
  rw [first, second] at same
  have key : entry.1 = next.1 := Option.some.inj same
  refine List.inj_on_of_nodup_map apart mem held ?_
  rw [← writtenPieces plain mem first, ← writtenPieces plain held second, key]

end

/-- A nested catalog that can be flattened becomes the map that its leaves make, inserted one by one in the
order of the document. With plain keys there are as many entries as leaves, and each leaf is found under its
path. -/
theorem leavesInserted (entries : List (Value × Value)) :
    ((∃ breach, flatten entries = .error breach) ↔ (Value.map entries).Obstructed) ∧
    ∀ flat, flatten entries = .ok flat → ∃ listed,
      (Value.map entries).leaves.map written? = listed.map some ∧ OrderedMap.Inserts listed flat ∧
      (PlainBelow (.map entries) → flat.size = (Value.map entries).leaves.length ∧
        ∀ leaf ∈ (Value.map entries).leaves, ∃ key text, written? leaf = some (key, text) ∧
          flat.get? key = some text) := by
  refine ⟨flatRefused, fun flat ok => ?_⟩
  obtain ⟨listed, writes, rfl⟩ := entriesAdd "" .empty entries flat ok
  have writes : (Value.map entries).leaves.map written? = listed.map some := writtenTop ▸ writes
  refine ⟨listed, writes, OrderedMap.ofListInserts listed, fun plain => ?_⟩
  have whole : (OrderedMap.empty.insertAll listed).entries = listed :=
    OrderedMap.insertAllFresh .empty listed (listedApart plain writes)
  constructor
  · have count := congrArg List.length writes
    rw [List.length_map, List.length_map] at count
    rw [OrderedMap.size, whole, count]
  · intro leaf mem
    obtain ⟨⟨key, text⟩, inside, same⟩ := leafListed writes mem
    exact ⟨key, text, same, OrderedMap.getMember.mpr (whole.symm ▸ inside)⟩

def menuEntries : List (Value × Value) :=
  [(.text "menu", .map [(.text "open", .text "Open"), (.int 2, .map [(.bool true, .int 7)]),
    (.text "quit", .null)]), (.text "tips", .map []), (.null, .list [.null])]

def menuCatalog : OrderedMap String String :=
  .ofList [("menu.open", "Open"), ("menu.2.True", "7"), ("menu.quit", ""), ("None", "[None]")]

theorem menuInserted :
    flatten menuEntries = .ok menuCatalog ∧ PlainBelow (.map menuEntries) ∧
    menuCatalog.size = (Value.map menuEntries).leaves.length ∧
    ∃ listed, (Value.map menuEntries).leaves.map written? = listed.map some ∧
      OrderedMap.Inserts listed menuCatalog := by
  have ok : flatten menuEntries = .ok menuCatalog := by decide +kernel
  have plain : PlainBelow (.map menuEntries) := by
    refine plainMap.mpr ⟨⟨by decide +kernel, by decide +kernel⟩, ?_⟩
    simp only [menuEntries, List.forall_mem_cons, List.not_mem_nil, false_imp_iff, implies_true, and_true,
      plainMap]
    refine ⟨⟨⟨by decide +kernel, by decide +kernel⟩, ?text, ⟨⟨by decide +kernel, by decide +kernel⟩, ?number⟩,
      ?nothing⟩, ⟨by decide, by decide⟩, ?list⟩
    all_goals exact plainLeaf (by simp)
  obtain ⟨listed, writes, inserts, whole⟩ := (leavesInserted menuEntries).2 menuCatalog ok
  exact ⟨ok, plain, (whole plain).1, listed, writes, inserts⟩

/-- A path that a dotted key spells too, and one whose first names are empty. -/
example : flatten [(.text "b", .map [(.text "c", .int 1)]), (.text "", .map [(.text "", .text "x")]),
    (.text "b.c", .int 2), (.text "b", .map [(.text "", .null)])] =
      .ok (.ofList [("b.c", "2"), ("", "x"), ("b.", "")]) := by
  decide +kernel

end Catalog

end Phrasebook

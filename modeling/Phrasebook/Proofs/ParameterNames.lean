import Phrasebook.Proofs.LegalNames

/-! Names of the parameters of a template with named fields. A name is lengthened past those that are taken,
which ends because each try is longer than the last, so that no two parameters share a name. -/
namespace Phrasebook.Accessor

open Text

/-- The tries for a name: one that is taken is lengthened, and the first that is not is chosen. -/
inductive Lengthened (taken : List String) : String → String → Prop
  | free {name} (fresh : name ∉ taken) : Lengthened taken name name
  | again {name chosen} (held : name ∈ taken) (next : Lengthened taken (name ++ "_") chosen) :
      Lengthened taken name chosen

def firstTry (name : String) : String :=
  if keywords.contains name || reservedParameters.contains name then name ++ "_" else name

/-- The parameters of names in their order, each chosen past those before it. -/
inductive Chosen : List String → List String → List Parameter → Prop
  | nil (used) : Chosen used [] []
  | cons {used name chosen rest parameters}
      (ends : Lengthened (used ++ reservedParameters) (firstTry name) chosen)
      (later : Chosen (chosen :: used) rest parameters) :
      Chosen used (name :: rest) (⟨chosen, .named name⟩ :: parameters)

/-- What a caller can rely on in the parameters of names. -/
structure Signature (names : List String) (parameters : List Parameter) : Prop where
  chosen : Chosen [] names parameters
  fields : parameters.map (fun p => p.placeholder.fieldName) = names
  named : ∀ p ∈ parameters, p.placeholder.mode = .named
  distinct : (parameters.map Parameter.name).Nodup
  shapes : ∀ p ∈ parameters, isAsciiName p.name.toList = true
  free : ∀ p ∈ parameters, p.name ∉ keywords ∧ p.name ∉ reservedParameters

/-- The taken names that are still in the way: none that is shorter is ever tried again. -/
def inTheWay (taken : List String) (name : String) : List String :=
  taken.filter fun other => name.length ≤ other.length

theorem fewerInTheWay {taken : List String} {name : String} (held : name ∈ taken) :
    (inTheWay taken (name ++ "_")).length < (inTheWay taken name).length := by
  have longer : inTheWay taken (name ++ "_") =
      (inTheWay taken name).filter fun other => name.length < other.length := by
    have size : (name ++ "_").length = name.length + 1 := String.length_append name "_"
    rw [inTheWay, inTheWay, List.filter_filter, size]
    refine List.filter_congr fun other _ => ?_
    rw [Bool.eq_iff_iff, Bool.and_eq_true, decide_eq_true_iff, decide_eq_true_iff, decide_eq_true_iff]
    omega
  rw [longer, List.length_filter_lt_length_iff_exists]
  exact ⟨name, List.mem_filter.mpr ⟨held, by simp⟩, by simp⟩

theorem freshLengthened {taken : List String} {tries : Nat} {name : String}
    (enough : (inTheWay taken name).length < tries) :
    Lengthened taken name (freshName taken tries name) := by
  induction tries generalizing name with
  | zero => contradiction
  | succ tries ih =>
    unfold freshName
    split
    · rename_i held
      have fewer := fewerInTheWay (List.contains_iff_mem.mp held)
      exact .again (List.contains_iff_mem.mp held) (ih (by omega))
    · rename_i fresh
      exact .free (mt List.contains_iff_mem.mpr fresh)

theorem Lengthened.fresh {taken : List String} {name chosen : String}
    (ends : Lengthened taken name chosen) : chosen ∉ taken := by
  induction ends with
  | free fresh => exact fresh
  | again held next ih => exact ih

theorem parameterLengthened (used : List String) (name : String) :
    Lengthened (used ++ reservedParameters) (firstTry name) (parameterName used name) := by
  refine freshLengthened (Nat.lt_succ_of_le ?_)
  exact List.length_filter_le _ _

theorem namedChosen (used names : List String) : Chosen used names (namedParameters used names) := by
  induction names generalizing used with
  | nil => exact .nil used
  | cons name rest ih => exact .cons (parameterLengthened used name) (ih _)

section

variable {used names : List String} {parameters : List Parameter}

theorem Chosen.placeholders (chosen : Chosen used names parameters) :
    parameters.map Parameter.placeholder = names.map .named := by
  induction chosen with
  | nil => rfl
  | cons ends later ih => rw [List.map_cons, List.map_cons, ih]

theorem Chosen.apart (chosen : Chosen used names parameters) :
    ∀ p ∈ parameters, p.name ∉ used ∧ p.name ∉ reservedParameters := by
  induction chosen with
  | nil => simp
  | cons ends later ih =>
    refine List.forall_mem_cons.mpr ⟨?_, fun p mem => ?_⟩
    · simpa only [List.mem_append, not_or] using ends.fresh
    · obtain ⟨other, free⟩ := ih p mem
      exact ⟨fun held => other (List.mem_cons_of_mem _ held), free⟩

theorem Chosen.distinct (chosen : Chosen used names parameters) :
    (parameters.map Parameter.name).Nodup := by
  induction chosen with
  | nil => exact .nil
  | cons ends later ih =>
    refine List.nodup_cons.mpr ⟨fun mem => ?_, ih⟩
    obtain ⟨p, listed, same⟩ := List.mem_map.mp mem
    exact (later.apart p listed).1 (same ▸ List.mem_cons_self)

end

/-- The parameters of a template with named fields: one for each of its names, in the order of first
occurrence. Their names are identifiers, no two the same, and none is a keyword or is read by the method. -/
theorem parametersDistinct {template : String} {names : List String}
    (read : Shape.ofTemplate template = .ok (.named names)) :
    (∃ chunks, Chunk.spell chunks = template.toList ∧
      FirstOccurrences (names.map Placeholder.named) (Chunk.fields chunks)) ∧
    Signature names (parametersOf (.named names)) := by
  have chosen : Chosen [] names (parametersOf (.named names)) := namedChosen [] names
  have placeholders := chosen.placeholders
  have plain : ∀ p ∈ parametersOf (.named names), IsPlainName p.name :=
    namedPlain fun name held => shapedNames read (List.mem_map.mpr ⟨name, held, rfl⟩)
  constructor
  · obtain ⟨chunks, spelled, same⟩ := Shape.orderedChunks read
    have kept : names.map Placeholder.named = distinct (Chunk.fields chunks) := same
    rw [kept]
    exact ⟨chunks, spelled, distinctFirst _⟩
  · constructor
    case chosen => exact chosen
    case fields =>
      have fields := congrArg (List.map Placeholder.fieldName) placeholders
      rw [List.map_map, List.map_map] at fields
      exact fields.trans (List.map_id names)
    case named =>
      intro p mem
      have held : p.placeholder ∈ names.map Placeholder.named :=
        placeholders ▸ List.mem_map_of_mem mem
      obtain ⟨name, -, same⟩ := List.mem_map.mp held
      rw [← same]
      rfl
    case distinct => exact chosen.distinct
    case shapes => exact fun p mem => (plain p mem).shape
    case free => exact fun p mem => ⟨(plain p mem).free, (chosen.apart p mem).2⟩

def crowdedTemplate : String :=
  "\x7bclass\x7d \x7bclass_\x7d \x7blocale_\x7d \x7blocale\x7d \x7bclass\x7d"

def crowdedNames : List String := ["class", "class_", "locale_", "locale"]

theorem crowdedParameters :
    Shape.ofTemplate crowdedTemplate = .ok (.named crowdedNames) ∧
    (parametersOf (.named crowdedNames)).map Parameter.name = ["class_", "class__", "locale_", "locale__"] ∧
    Signature crowdedNames (parametersOf (.named crowdedNames)) := by
  have read : Shape.ofTemplate crowdedTemplate = .ok (.named crowdedNames) := by decide
  exact ⟨read, by decide, (parametersDistinct read).2⟩

end Phrasebook.Accessor

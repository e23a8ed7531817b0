import Phrasebook.Proofs.Substitution
import Phrasebook.Proofs.TemplateShapes

/-! What a template needs of its arguments. A field without an argument spoils the whole template, so
that filling in succeeds exactly when the arity is reached or all names are there. -/
namespace Phrasebook

open Text Number Template

namespace Template

theorem missedField {arguments : Arguments} {chunk : Chunk} {p : Placeholder} {numbering : Numbering}
    (stands : chunk.placeholder? = some p) (missed : ¬ arguments.Serves p) (named : numbering.IsNamed) :
    ∃ name, chunk.part = .field ⟨name, none, []⟩ ∧
      ∀ v later, fetch arguments numbering name = some (v, later) → v.text? = none := by
  -- Whatever value is found for the field is the one supplied, so it must be one without a text.
  have unwritten : ∀ v, arguments.supplied? p = some v → (∀ i, p = .positional i → i ≤ maxSize) →
      v.text? = none := by
    intro v supplied small
    cases written : v.text? with
    | none => rfl
    | some text => exact absurd ⟨⟨v, text, supplied, written⟩, small⟩ missed
  cases chunk with
  | char c plain => contradiction
  | brace c doubled => contradiction
  | index digits shape =>
    cases Option.some.inj stands
    refine ⟨digits, rfl, ?_⟩
    intro v later found
    rw [fetchedIndex shape named] at found
    split_ifs at found with small
    obtain ⟨held, supplied, same⟩ := Option.map_eq_some_iff.mp found
    cases same
    refine unwritten v supplied ?_
    intro i index
    cases index
    exact small
  | name token shape =>
    cases Option.some.inj stands
    refine ⟨token, rfl, ?_⟩
    intro v later found
    rw [fetchedName shape] at found
    obtain ⟨held, supplied, same⟩ := Option.map_eq_some_iff.mp found
    cases same
    exact unwritten v supplied (by simp)

theorem refusedParts {expand arguments numbering} {chunks : List Chunk}
    (missed : ∃ p ∈ Chunk.fields chunks, ¬ Arguments.Serves arguments p)
    (named : Numbering.IsNamed numbering) :
    fillParts expand arguments numbering (chunks.map Chunk.part) = .error .mismatch := by
  -- By induction on the chunks; fields before the missed one leave the numbering one by name.
  induction chunks generalizing numbering with
  | nil => simp [Chunk.fields] at missed
  | cons chunk rest ih =>
    obtain ⟨p, mem, unserved⟩ := missed
    rw [Chunk.fieldsCons, List.mem_append] at mem
    cases stands : chunk.placeholder? with
    | none =>
      have later : p ∈ Chunk.fields rest := by simpa [stands] using mem
      have refused := ih ⟨p, later, unserved⟩ named
      cases chunk with
      | char c plain => simp [Chunk.part, fillParts, refused, Except.map]
      | brace c doubled => simp [Chunk.part, fillParts, refused, Except.map]
      | index digits shape => contradiction
      | name token shape => contradiction
    | some first =>
      by_cases serves : arguments.Serves first
      · have later : p ∈ Chunk.fields rest := by
          have other : p ≠ first := fun same => unserved (same ▸ serves)
          simpa [stands, other] using mem
        obtain ⟨name, v, text, next, seen, fetched, written, reads, stays⟩ :=
          fetchedField stands serves named
        have refused := ih ⟨p, later, unserved⟩ stays
        simp [seen, fillParts, fetched, convert?, formatValue, written, refused, Except.map]
      · obtain ⟨name, seen, unwritten⟩ := missedField stands serves named
        cases found : fetch arguments numbering name with
        | none => simp [seen, fillParts, found]
        | some pair =>
          have written := unwritten pair.1 pair.2 found
          simp [seen, fillParts, found, convert?, formatValue, written]

theorem refusedTemplate {arguments : Arguments} {template : String} {chunks : List Chunk}
    (spelled : Chunk.spell chunks = template.toList)
    (missed : ∃ p ∈ Chunk.fields chunks, ¬ arguments.Serves p) :
    fill arguments template = ⟨[.notFormatted template], .ok template⟩ := by
  have refused := @refusedParts (fillFrom arguments 1) arguments .undecided chunks missed trivial
  have mismatch : fill? arguments template = .error .mismatch := by
    rw [fill?, ← spelled, maxDepth, fillFrom, Chunk.spelledParts, refused]
    rfl
  rw [fill, mismatch]

theorem servesPositional {values : List Value} {p : Placeholder}
    (written : ∀ v ∈ values, ∃ text, v.text? = some text) (small : ∀ i, p = .positional i → i ≤ maxSize) :
    (Arguments.positional values).Serves p ↔ ∃ i, p = .positional i ∧ i < values.length := by
  constructor
  · intro serves
    obtain ⟨⟨v, text, supplied, -⟩, -⟩ := serves
    cases p with
    | positional i =>
      have found : values[i]? = some v := supplied
      exact ⟨i, rfl, (List.getElem?_eq_some_iff.mp found).1⟩
    | named name => contradiction
  · intro standing
    obtain ⟨i, same, below⟩ := standing
    cases same
    have found : values[i]? = some values[i] := List.getElem?_eq_getElem below
    obtain ⟨text, reads⟩ := written _ (List.getElem_mem below)
    exact ⟨⟨values[i], text, found, reads⟩, small⟩

theorem servesNamed {values : OrderedMap String Value} {p : Placeholder}
    (written : ∀ name v, values.get? name = some v → ∃ text, v.text? = some text) :
    (Arguments.named values).Serves p ↔ ∃ name, p = .named name ∧ name ∈ values.keys := by
  constructor
  · intro serves
    obtain ⟨⟨v, text, supplied, -⟩, -⟩ := serves
    cases p with
    | positional i => contradiction
    | named name => exact ⟨name, rfl, OrderedMap.keyMember.mpr ⟨v, supplied⟩⟩
  · intro standing
    obtain ⟨name, same, mem⟩ := standing
    cases same
    obtain ⟨v, found⟩ := OrderedMap.keyMember.mp mem
    obtain ⟨text, reads⟩ := written name v found
    exact ⟨⟨v, text, found, reads⟩, by simp⟩

/-- Filling in under a condition: when it is met nothing is logged and every field has given way to the
text of its argument, and when it is not the template comes back with a warning. -/
structure FillsExactlyWhen (met : Prop) (arguments : Arguments) (chunks : List Chunk)
    (template : String) (report : Report String) : Prop where
  quiet : report.log = [] ↔ met
  filled : met → ∃ texts : Placeholder → String,
    (∀ p ∈ Chunk.fields chunks, ∃ v, arguments.supplied? p = some v ∧ v.text? = some (texts p)) ∧
    report = pure (String.ofList (chunks.flatMap (Chunk.filled texts)))
  givenBack : ¬ met → report = ⟨[.notFormatted template], .ok template⟩

theorem servedTexts {arguments : Arguments} {p : Placeholder} (serves : arguments.Serves p) :
    ∃ v, arguments.supplied? p = some v ∧ v.text? = some (arguments.textOf p) := by
  obtain ⟨⟨v, text, supplied, written⟩, -⟩ := serves
  exact ⟨v, supplied, by simp [Arguments.textOf, supplied, written]⟩

theorem fillsWhenServed {met : Prop} {arguments : Arguments} {template : String} {chunks : List Chunk}
    (spelled : Chunk.spell chunks = template.toList)
    (needs : met ↔ ∀ p ∈ Chunk.fields chunks, arguments.Serves p) :
    FillsExactlyWhen met arguments chunks template (fill arguments template) := by
  have refused : ¬ met → fill arguments template = ⟨[.notFormatted template], .ok template⟩ := by
    intro unmet
    have missed : ∃ p ∈ Chunk.fields chunks, ¬ arguments.Serves p := by
      simpa using mt needs.mpr unmet
    exact refusedTemplate spelled missed
  have served : met → fill arguments template =
      pure (String.ofList (chunks.flatMap (Chunk.filled arguments.textOf))) :=
    fun holds => filledTemplate spelled (needs.mp holds)
  refine ⟨⟨?_, ?_⟩, ?_, refused⟩
  · intro silent
    by_contra unmet
    rw [refused unmet] at silent
    contradiction
  · intro holds
    rw [served holds]
    rfl
  · intro holds
    exact ⟨arguments.textOf, fun p mem => servedTexts (needs.mp holds p mem), served holds⟩

end Template

namespace Shape

def MetByCount (shape : Shape) (count : Nat) : Prop :=
  shape = .noArgs ∨ shape.mode = .positional ∧ shape.arity ≤ count

def MetByNames (shape : Shape) (names : List String) : Prop :=
  shape = .noArgs ∨ shape.mode = .named ∧ ∀ name ∈ shape.names, name ∈ names

theorem foldBelow {indices : List Nat} {start bound : Nat} :
    indices.foldl max start < bound ↔ start < bound ∧ ∀ i ∈ indices, i < bound := by
  induction indices generalizing start with
  | nil => simp
  | cons first rest ih =>
    rw [List.foldl_cons, ih, List.forall_mem_cons, Nat.max_lt, and_assoc]

theorem smallParameters {shape : Shape} (small : ∀ i ∈ shape.indices, i ≤ maxSize) :
    ∀ p ∈ Accessor.parametersOf shape, ∀ i, p.placeholder = .positional i → i ≤ maxSize := by
  intro p mem i same
  have placed : Placeholder.positional i ∈ (Accessor.parametersOf shape).map Accessor.Parameter.placeholder :=
    List.mem_map.mpr ⟨p, mem, same⟩
  rw [parameterPlaceholders] at placed
  cases shape with
  | noArgs => simp [placeholders] at placed
  | named names => simp [placeholders] at placed
  | positional indices =>
    have below : i < (positional indices).arity := by simpa using placed
    have least : indices.foldl max 0 < maxSize + 1 :=
      foldBelow.mpr ⟨by decide, fun i mem => Nat.lt_succ_of_le (small i mem)⟩
    exact (Nat.le_of_lt_succ below).trans (Nat.le_of_lt_succ least)

theorem shapelessBare {template : String} {shape : Shape} (accepted : ofTemplate template = .ok shape)
    (bare : shape.placeholders = []) : shape = .noArgs := by
  simp only [ofTemplate] at accepted
  split at accepted
  · contradiction
  · rename_i ps read
    have same := (shapePlaceholders accepted).symm.trans bare
    cases ps with
    | nil => exact (Except.ok.inj accepted).symm
    | cons p rest => simp [distinct] at same

theorem indexAsked {shape : Shape} {i : Nat} :
    .positional i ∈ shape.placeholders ↔ i ∈ shape.indices := by
  cases shape <;> simp [placeholders, indices]

theorem countNeeded {shape : Shape} (bare : shape.placeholders = [] → shape = .noArgs) {count : Nat} :
    shape.MetByCount count ↔ ∀ p ∈ shape.placeholders, ∃ i, p = .positional i ∧ i < count := by
  cases shape with
  | noArgs => simp [MetByCount, placeholders]
  | named names =>
    cases names with
    | nil => simp [placeholders] at bare
    | cons name rest => simp [MetByCount, mode, placeholders]
  | positional indices =>
    have asked : (∀ p ∈ (positional indices).placeholders, ∃ i, p = .positional i ∧ i < count) ↔
        ∀ i ∈ indices, i < count := by
      simp [placeholders]
    have met : (positional indices).MetByCount count ↔ (positional indices).arity ≤ count := by
      simp [MetByCount, mode]
    have threshold : (positional indices).arity ≤ count ↔ 0 < count ∧ ∀ i ∈ indices, i < count :=
      Nat.succ_le_iff.trans foldBelow
    rw [asked, met, threshold]
    cases indices with
    | nil => simp [placeholders] at bare
    | cons first rest =>
      -- The arity of a shape without indices is one too many; here some index is below the count.
      exact and_iff_right_of_imp fun all => Nat.zero_lt_of_lt (all first List.mem_cons_self)

theorem namesNeeded {shape : Shape} (bare : shape.placeholders = [] → shape = .noArgs)
    {names : List String} :
    shape.MetByNames names ↔ ∀ p ∈ shape.placeholders, ∃ name, p = .named name ∧ name ∈ names := by
  cases shape with
  | noArgs => simp [MetByNames, placeholders]
  | named own => simp [MetByNames, mode, placeholders, Shape.names]
  | positional indices =>
    cases indices with
    | nil => simp [placeholders] at bare
    | cons first rest => simp [MetByNames, mode, placeholders]

end Shape

namespace Template

/-- The shape of a template is all there is to know about whether arguments fill it. -/
theorem arityExactlyNeeded {template : String} {shape : Shape}
    (accepted : Shape.ofTemplate template = .ok shape) (small : ∀ i ∈ shape.indices, i ≤ maxSize) :
    ∃ chunks, Chunk.spell chunks = template.toList ∧
      (∀ p, p ∈ Chunk.fields chunks ↔ p ∈ shape.placeholders) ∧
      (∀ values : List Value, (∀ v ∈ values, ∃ text, v.text? = some text) →
        FillsExactlyWhen (shape.MetByCount values.length) (.positional values) chunks template
          (fillPositional template values)) ∧
      (∀ values : OrderedMap String Value,
        (∀ name v, values.get? name = some v → ∃ text, v.text? = some text) →
        FillsExactlyWhen (shape.MetByNames values.keys) (.named values) chunks template
          (fillNamed template values)) := by
  obtain ⟨chunks, spelled, -, fields⟩ := Shape.shapedChunks accepted
  have bare := Shape.shapelessBare accepted
  refine ⟨chunks, spelled, fields, ?_, ?_⟩
  · intro values written
    refine fillsWhenServed spelled ((Shape.countNeeded bare).trans ?_)
    simp only [fields]
    refine forall₂_congr fun p mem => (servesPositional written ?_).symm
    intro i same
    cases same
    exact small i (Shape.indexAsked.mp mem)
  · intro values written
    refine fillsWhenServed spelled ((Shape.namesNeeded bare).trans ?_)
    simp only [fields]
    exact forall₂_congr fun p mem => (servesNamed written).symm

def gappedTemplate : String := "\x7b\x7b\x7b02\x7d\x7d\x7d \x7b0\x7d\x7b2\x7d"

theorem gappedTemplateNeedsThree :
    Shape.ofTemplate gappedTemplate = .ok (.positional [2, 0]) ∧
    (fillPositional gappedTemplate [.text "a", .null, .bool true]).log = [] ∧
    fillPositional gappedTemplate [.text "a", .null] =
      ⟨[.notFormatted gappedTemplate], .ok gappedTemplate⟩ ∧
    fillNamed gappedTemplate (.ofList [("0", .text "a")]) =
      ⟨[.notFormatted gappedTemplate], .ok gappedTemplate⟩ := by
  have accepted : Shape.ofTemplate gappedTemplate = .ok (.positional [2, 0]) := by decide +kernel
  have small : ∀ i ∈ (Shape.positional [2, 0]).indices, i ≤ maxSize := by decide
  obtain ⟨chunks, -, -, counted, named⟩ := arityExactlyNeeded accepted small
  have three := counted [.text "a", .null, .bool true] (by
    simp [Value.text?, Value.literal?])
  have two := counted [.text "a", .null] (by simp [Value.text?, Value.literal?])
  have byName := named (.ofList [("0", .text "a")]) (by
    intro name v found
    have mem := OrderedMap.getMember.mp found
    obtain ⟨-, rfl⟩ := Prod.mk.inj (List.mem_singleton.mp mem)
    exact ⟨"a", rfl⟩)
  have enough : (Shape.positional [2, 0]).MetByCount 3 := .inr ⟨rfl, by decide⟩
  have few : ¬ (Shape.positional [2, 0]).MetByCount 2 := by
    simp [Shape.MetByCount, Shape.arity]
  have unnamed : ¬ (Shape.positional [2, 0]).MetByNames ["0"] := by
    simp [Shape.MetByNames, Shape.mode]
  exact ⟨accepted, three.quiet.mpr enough, two.givenBack few, byName.givenBack unnamed⟩

end Template

end Phrasebook

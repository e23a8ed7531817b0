import Phrasebook.Proofs.Consistency
import Phrasebook.Proofs.TemplateShapes

/-! What a build tells when it fails. Each pass goes over all of its entries and keeps an issue for each
one that it refuses. Only an index with too many digits is no issue of any key: where a pass comes upon
one, the build breaks off and nothing that was found is told. -/
namespace Phrasebook

def TemplateFault.issue? (key : String) (place : Place) : TemplateFault → Option Issue
  | malformed fragment position => some (.malformed key fragment position place)
  | mixed p n => some (.modeConflict key (.mixes p.token n.token) place)
  | longIndex => none

/-- An issue whose details name this key and this locale. -/
def Issue.IsAt (issue : Issue) (key locale : String) : Prop :=
  ("key", .text key) ∈ issue.details ∧ ("locale", .text locale) ∈ issue.details

def BreaksOff (template : String) : Prop := Shape.ofTemplate template = .error .longIndex

def Catalog.Accepts (catalog : Catalog) (key : String) (shape : Shape) : Prop :=
  ∃ template, catalog.get? key = some template ∧ Shape.ofTemplate template = .ok shape

namespace Accessor

open OrderedMap Report

def placeIn (bundle : String) (catalog : Catalog) : Place :=
  { bundle := some bundle, locale := some catalog.label }

theorem toldFault {template : String} {fault : TemplateFault} (smooth : ¬ BreaksOff template)
    (refused : Shape.ofTemplate template = .error fault) (key : String) (place : Place) :
    ∃ issue, fault.issue? key place = some issue ∧ fault.failure key place = .issue issue := by
  cases fault with
  | malformed fragment position => exact ⟨_, rfl, rfl⟩
  | mixed p n => exact ⟨_, rfl, rfl⟩
  | longIndex => contradiction

theorem toldAt {fault : TemplateFault} {bundle : String} {catalog : Catalog} {key : String}
    {issue : Issue} (told : fault.issue? key (placeIn bundle catalog) = some issue) {k label : String} :
    issue.IsAt k label ↔ k = key ∧ label = catalog.label := by
  cases fault with
  | longIndex => contradiction
  | malformed fragment position =>
    cases told
    simp [Issue.IsAt, Issue.details, placeIn, Issue.optionalText]
  | mixed p n =>
    cases told
    simp [Issue.IsAt, Issue.details, placeIn, Issue.optionalText]

/-! ### Extraction -/

def rejection? (bundle : String) (catalog : Catalog) (entry : String × String) : Option Issue :=
  match Shape.ofTemplate entry.2 with
  | .ok _ => none
  | .error fault => fault.issue? entry.1 (placeIn bundle catalog)

def keptShape? (entry : String × String) : Option (String × Shape) :=
  match Shape.ofTemplate entry.2 with
  | .ok shape => some (entry.1, shape)
  | .error _ => none

def shapesOf (catalog : Catalog) : List (String × Shape) :=
  catalog.messages.entries.filterMap keptShape?

theorem extractedIssue {bundle catalog key template fault issue}
    (refused : Shape.ofTemplate template = .error fault)
    (told : fault.issue? key (placeIn bundle catalog) = some issue) :
    (extract bundle catalog key template).outcome = .ok (.inl issue) := by
  cases fault with
  | longIndex => contradiction
  | malformed fragment position =>
    cases told
    simp [extract, refused, TemplateFault.failure, placeIn]
  | mixed p n =>
    cases told
    simp [extract, refused, TemplateFault.failure, placeIn]

theorem extractedBroken {bundle catalog key template} (broken : BreaksOff template) :
    (extract bundle catalog key template).outcome = .error (.breach .value) := by
  unfold BreaksOff at broken
  simp [extract, broken, TemplateFault.failure]

theorem extractedSmooth {template} (smooth : ¬ BreaksOff template) (bundle catalog key) :
    ∃ found, (extract bundle catalog key template).outcome = .ok found := by
  cases read : Shape.ofTemplate template with
  | ok shape => exact ⟨_, extractedShape.mpr read⟩
  | error fault =>
    obtain ⟨issue, told, -⟩ := toldFault smooth read key (placeIn bundle catalog)
    exact ⟨_, extractedIssue read told⟩

theorem extractedEvery {bundle catalog entries} (smooth : ∀ entry ∈ entries, ¬ BreaksOff entry.2) :
    (extractAll bundle catalog entries).outcome =
      .ok (entries.filterMap (rejection? bundle catalog), entries.filterMap keptShape?) := by
  induction entries with
  | nil => rfl
  | cons entry rest ih =>
    obtain ⟨key, template⟩ := entry
    obtain ⟨head, later⟩ := List.forall_mem_cons.mp smooth
    refine bindOutcomeOk.mpr ?_
    cases read : Shape.ofTemplate template with
    | ok shape =>
      refine ⟨.inr shape, extractedShape.mpr read, bindOutcomeOk.mpr ⟨_, ih later, ?_⟩⟩
      simp [rejection?, keptShape?, read]
    | error fault =>
      obtain ⟨issue, told, -⟩ := toldFault head read key (placeIn bundle catalog)
      refine ⟨.inl issue, extractedIssue read told, bindOutcomeOk.mpr ⟨_, ih later, ?_⟩⟩
      simp [rejection?, keptShape?, read, told]

theorem extractedUntil {bundle catalog} {entries : List (String × String)}
    (broken : ∃ entry ∈ entries, BreaksOff entry.2) :
    (extractAll bundle catalog entries).outcome = .error (.breach .value) := by
  induction entries with
  | nil => simp at broken
  | cons entry rest ih =>
    obtain ⟨key, template⟩ := entry
    refine bindOutcomeError.mpr ?_
    by_cases head : BreaksOff template
    · exact .inl (extractedBroken head)
    · have later : ∃ entry ∈ rest, BreaksOff entry.2 := by simpa [head] using broken
      obtain ⟨found, ok⟩ := extractedSmooth head bundle catalog key
      exact .inr ⟨found, ok, bindOutcomeError.mpr (.inl (ih later))⟩

theorem shapeKeys (entries : List (String × String)) :
    ((entries.filterMap keptShape?).map Prod.fst).Sublist (entries.map Prod.fst) := by
  induction entries with
  | nil => exact .slnil
  | cons entry rest ih =>
    cases read : Shape.ofTemplate entry.2 with
    | ok shape =>
      have kept : keptShape? entry = some (entry.1, shape) := by simp [keptShape?, read]
      rw [List.filterMap_cons_some kept]
      exact ih.cons_cons _
    | error fault =>
      have dropped : keptShape? entry = none := by simp [keptShape?, read]
      rw [List.filterMap_cons_none dropped]
      exact ih.cons _

theorem shapeFound {catalog : Catalog} {key : String} {shape : Shape} :
    (shapesOf catalog).lookup key = some shape ↔ catalog.Accepts key shape := by
  have distinct := (shapeKeys catalog.messages.entries).nodup catalog.messages.distinct
  rw [shapesOf, lookupMember distinct, List.mem_filterMap]
  simp only [Catalog.Accepts, Catalog.get?, getMember, Prod.exists, keptShape?]
  constructor
  · intro found
    obtain ⟨k, template, mem, same⟩ := found
    split at same
    · rename_i read
      cases same
      exact ⟨template, mem, read⟩
    · contradiction
  · intro found
    obtain ⟨template, mem, read⟩ := found
    exact ⟨key, template, mem, by rw [read]⟩

/-! ### Comparison with the variants -/

def comparison? (catalogs : CatalogSet) (shapes : List (String × Shape)) (variant : Catalog)
    (entry : String × String) : Option Issue :=
  match shapes.lookup entry.1 with
  | none => none
  | some default =>
    match Shape.ofTemplate entry.2 with
    | .ok shape =>
      (default.mismatch? shape).map (.inconsistent catalogs.bundle variant.locale entry.1)
    | .error fault => fault.issue? entry.1 (placeIn catalogs.bundle variant)

section

variable {catalogs : CatalogSet} {shapes : List (String × Shape)} {variant : Catalog}

/-- Nothing is compared with a key that the default catalog does not have. -/
def Known (catalogs : CatalogSet) (shapes : List (String × Shape)) : Prop :=
  ∀ key shape, shapes.lookup key = some shape → key ∈ catalogs.default.keys

theorem passedOver {key template rest} (absent : shapes.lookup key = none) :
    (checkVariant catalogs shapes variant ((key, template) :: rest)).outcome =
      (checkVariant catalogs shapes variant rest).outcome := by
  rw [checkVariant]
  split
  · rw [bindOutcome]
    rfl
  · rw [absent]

theorem comparedEntry (known : Known catalogs shapes) {key template rest default}
    (held : shapes.lookup key = some default) :
    checkVariant catalogs shapes variant ((key, template) :: rest) = (do
      let found ← extract catalogs.bundle variant key template
      let issues ← checkVariant catalogs shapes variant rest
      match found with
      | .inl issue => pure (issue :: issues)
      | .inr shape =>
        match default.mismatch? shape with
        | none => pure issues
        | some mismatch =>
          pure (.inconsistent catalogs.bundle variant.locale key mismatch :: issues)) := by
  have has : catalogs.default.messages.contains key = true := containsKey.mpr (known key default held)
  rw [checkVariant, has, held]
  rfl

theorem comparedEvery (known : Known catalogs shapes) {entries : List (String × String)}
    (smooth : ∀ entry ∈ entries, ∀ shape, shapes.lookup entry.1 = some shape → ¬ BreaksOff entry.2) :
    (checkVariant catalogs shapes variant entries).outcome =
      .ok (entries.filterMap (comparison? catalogs shapes variant)) := by
  induction entries with
  | nil => rfl
  | cons entry rest ih =>
    obtain ⟨key, template⟩ := entry
    obtain ⟨head, later⟩ := List.forall_mem_cons.mp smooth
    cases held : shapes.lookup key with
    | none =>
      rw [passedOver held, ih later, List.filterMap_cons_none]
      simp [comparison?, held]
    | some default =>
      rw [comparedEntry known held]
      refine bindOutcomeOk.mpr ?_
      cases read : Shape.ofTemplate template with
      | ok shape =>
        refine ⟨.inr shape, extractedShape.mpr read, bindOutcomeOk.mpr ⟨_, ih later, ?_⟩⟩
        cases fits : default.mismatch? shape <;> simp [comparison?, held, read, fits]
      | error fault =>
        obtain ⟨issue, told, -⟩ :=
          toldFault (head default held) read key (placeIn catalogs.bundle variant)
        refine ⟨.inl issue, extractedIssue read told, bindOutcomeOk.mpr ⟨_, ih later, ?_⟩⟩
        simp [comparison?, held, read, told]

theorem comparedUntil (known : Known catalogs shapes) {entries : List (String × String)}
    (broken : ∃ entry ∈ entries, (∃ shape, shapes.lookup entry.1 = some shape) ∧ BreaksOff entry.2) :
    (checkVariant catalogs shapes variant entries).outcome = .error (.breach .value) := by
  induction entries with
  | nil => simp at broken
  | cons entry rest ih =>
    obtain ⟨key, template⟩ := entry
    cases held : shapes.lookup key with
    | none =>
      rw [passedOver held]
      exact ih (by simpa [held] using broken)
    | some default =>
      rw [comparedEntry known held]
      refine bindOutcomeError.mpr ?_
      by_cases head : BreaksOff template
      · exact .inl (extractedBroken head)
      · obtain ⟨found, ok⟩ := extractedSmooth head catalogs.bundle variant key
        refine .inr ⟨found, ok, bindOutcomeError.mpr (.inl (ih ?_))⟩
        simpa [head] using broken

theorem comparedVariants (known : Known catalogs shapes) {variants : List Catalog}
    (smooth : ∀ variant ∈ variants, ∀ entry ∈ variant.messages.entries, ∀ shape,
      shapes.lookup entry.1 = some shape → ¬ BreaksOff entry.2) :
    (checkVariants catalogs shapes variants).outcome = .ok (variants.flatMap fun variant =>
      variant.messages.entries.filterMap (comparison? catalogs shapes variant)) := by
  induction variants with
  | nil => rfl
  | cons variant rest ih =>
    obtain ⟨head, later⟩ := List.forall_mem_cons.mp smooth
    exact bindOutcomeOk.mpr ⟨_, comparedEvery known head, bindOutcomeOk.mpr ⟨_, ih later, rfl⟩⟩

theorem comparedVariantsUntil (known : Known catalogs shapes) {variants : List Catalog}
    (broken : ∃ variant ∈ variants, ∃ entry ∈ variant.messages.entries,
      (∃ shape, shapes.lookup entry.1 = some shape) ∧ BreaksOff entry.2) :
    (checkVariants catalogs shapes variants).outcome = .error (.breach .value) := by
  induction variants with
  | nil => simp at broken
  | cons variant rest ih =>
    refine bindOutcomeError.mpr ?_
    by_cases head : ∃ entry ∈ variant.messages.entries,
        (∃ shape, shapes.lookup entry.1 = some shape) ∧ BreaksOff entry.2
    · exact .inl (comparedUntil known head)
    · have smooth : ∀ entry ∈ variant.messages.entries, ∀ shape,
          shapes.lookup entry.1 = some shape → ¬ BreaksOff entry.2 := fun entry mem shape held breaks =>
        head ⟨entry, mem, ⟨shape, held⟩, breaks⟩
      obtain ⟨other, mem, later⟩ := broken
      rcases List.mem_cons.mp mem with rfl | inside
      · exact absurd later head
      · exact .inr ⟨_, comparedEvery known smooth, bindOutcomeError.mpr (.inl (ih ⟨other, inside, later⟩))⟩

end

/-! ### The whole build -/

theorem knownShapes (catalogs : CatalogSet) : Known catalogs (shapesOf catalogs.default) := by
  intro key shape found
  obtain ⟨template, held, -⟩ := shapeFound.mp found
  exact defaultKey held

def issuesOf (options : Options) (catalogs : CatalogSet) : List Issue :=
  catalogs.default.messages.entries.filterMap (rejection? catalogs.bundle catalogs.default) ++
    (resolveMode (placeIn catalogs.bundle catalogs.default) options.mode none
      (shapesOf catalogs.default)).2 ++
    (groups (describe options catalogs (shapesOf catalogs.default))).filterMap
      (collisionOf catalogs.bundle) ++
    catalogs.variants.flatMap fun variant =>
      variant.messages.entries.filterMap (comparison? catalogs (shapesOf catalogs.default) variant)

/-- The accessor that a build makes when there is no issue. -/
def specOf (options : Options) (catalogs : CatalogSet) : Spec where
  bundle := catalogs.bundle
  className := if options.className.isEmpty then className catalogs.bundle else options.className
  mode := (resolveMode (placeIn catalogs.bundle catalogs.default) options.mode none
    (shapesOf catalogs.default)).1
  descriptors := describe options catalogs (shapesOf catalogs.default)
  locales := catalogs.locales

/-- A template that the build reads has an index with too many digits. Of a variant the build reads what
stands under a key whose default template is accepted. -/
def MeetsLongIndex (catalogs : CatalogSet) : Prop :=
  (∃ key template, catalogs.default.get? key = some template ∧
    Chunk.MeetsLongIndex template.toList) ∨
  ∃ variant ∈ catalogs.variants, ∃ key shape translated, catalogs.default.Accepts key shape ∧
    variant.get? key = some translated ∧ Chunk.MeetsLongIndex translated.toList

variable {options : Options} {catalogs : CatalogSet}

theorem buildTells (smooth : ¬ MeetsLongIndex catalogs) :
    (issuesOf options catalogs = [] →
      (build options catalogs).outcome = .ok (specOf options catalogs)) ∧
    (issuesOf options catalogs ≠ [] → (build options catalogs).outcome =
      .error (.validation catalogs.bundle (issuesOf options catalogs))) := by
  have extracted := @extractedEvery catalogs.bundle catalogs.default catalogs.default.messages.entries
    fun entry mem breaks =>
      smooth (.inl ⟨entry.1, entry.2, getMember.mpr mem, Shape.longIndexMet.mp breaks⟩)
  have compared := @comparedVariants catalogs (shapesOf catalogs.default) (knownShapes catalogs)
    catalogs.variants fun variant listed entry mem shape found breaks => by
      exact smooth (.inr ⟨variant, listed, entry.1, shape, entry.2, shapeFound.mp found,
        getMember.mpr mem, Shape.longIndexMet.mp breaks⟩)
  constructor
  · intro none
    refine bindOutcomeOk.mpr ⟨_, extracted, bindOutcomeOk.mpr ⟨_, compared, ?_⟩⟩
    change Report.outcome (if (issuesOf options catalogs).isEmpty then _ else _) = _
    rw [if_pos (List.isEmpty_iff.mpr none)]
    exact bindOutcomeOk.mpr ⟨(), rfl, rfl⟩
  · intro some
    refine bindOutcomeError.mpr (.inr ⟨_, extracted, bindOutcomeError.mpr (.inr ⟨_, compared, ?_⟩)⟩)
    change Report.outcome (if (issuesOf options catalogs).isEmpty then _ else _) = _
    rw [if_neg (mt List.isEmpty_iff.mp some)]
    exact bindOutcomeError.mpr (.inr ⟨(), rfl, rfl⟩)

theorem buildBreaksOff (broken : MeetsLongIndex catalogs) :
    (build options catalogs).outcome = .error (.breach .value) := by
  refine bindOutcomeError.mpr ?_
  -- A variant is read only after all of the default catalog.
  by_cases default : ∃ entry ∈ catalogs.default.messages.entries, BreaksOff entry.2
  · exact .inl (extractedUntil default)
  · have smooth : ∀ entry ∈ catalogs.default.messages.entries, ¬ BreaksOff entry.2 :=
      fun entry mem breaks => default ⟨entry, mem, breaks⟩
    refine .inr ⟨_, extractedEvery smooth, bindOutcomeError.mpr (.inl ?_)⟩
    refine comparedVariantsUntil (knownShapes catalogs) ?_
    rcases broken with ⟨key, template, held, long⟩ |
      ⟨variant, listed, key, shape, translated, accepted, given, long⟩
    · exact absurd (Shape.longIndexMet.mpr long) (smooth (key, template) (getMember.mp held))
    · exact ⟨variant, listed, (key, translated), getMember.mp given, ⟨shape, shapeFound.mpr accepted⟩,
        Shape.longIndexMet.mpr long⟩

/-- A build gives an accessor or tells its issues, all at once, and reading a template gives a shape or a
fault of that template. Both fail otherwise exactly on an index with too many digits. -/
theorem buildReturnsOrTells (options : Options) (catalogs : CatalogSet) :
    (((∃ spec, (build options catalogs).outcome = .ok spec) ∨
        ∃ issues, issues ≠ [] ∧
          (build options catalogs).outcome = .error (.validation catalogs.bundle issues)) ↔
      ¬ MeetsLongIndex catalogs) ∧
    (MeetsLongIndex catalogs → (build options catalogs).outcome = .error (.breach .value)) ∧
    ∀ template : String,
      ((∃ shape, Shape.ofTemplate template = .ok shape) ∨
          (∃ fragment position, Shape.ofTemplate template = .error (.malformed fragment position)) ∨
          (∃ p n, Shape.ofTemplate template = .error (.mixed p n)) ↔
        ¬ Chunk.MeetsLongIndex template.toList) := by
  refine ⟨⟨?_, ?_⟩, buildBreaksOff, fun template => ?_⟩
  · intro answered long
    have broken := @buildBreaksOff options catalogs long
    rcases answered with ⟨spec, ok⟩ | ⟨issues, -, failed⟩
    · cases broken.symm.trans ok
    · cases broken.symm.trans failed
  · intro smooth
    obtain ⟨returns, tells⟩ := @buildTells options catalogs smooth
    cases found : issuesOf options catalogs with
    | nil => exact .inl ⟨_, returns found⟩
    | cons issue rest =>
      have some : issuesOf options catalogs ≠ [] := found ▸ List.cons_ne_nil issue rest
      exact .inr ⟨_, some, tells some⟩
  · rw [← Shape.longIndexMet]
    cases Shape.ofTemplate template with
    | ok shape => simp
    | error fault => cases fault <;> simp

/-- The index zero, written with so many digits. -/
def zerosTemplate (count : Nat) : String :=
  String.ofList ('\x7b' :: (List.replicate count '0' ++ ['\x7d']))

theorem zerosMeet {count : Nat} (many : Number.maxIntegerDigits < count) :
    Chunk.MeetsLongIndex (zerosTemplate count).toList := by
  refine ⟨[], List.replicate count '0', [], ?_, by simp, ?_, ?_⟩
  · rw [zerosTemplate, String.toList_ofList]
    rfl
  · have filled : count ≠ 0 := by omega
    have digit : Text.isAsciiDigit '0' = true := rfl
    simp [isIndexToken, filled, digit]
  · rwa [List.length_replicate]

/-- One default template is broken, but the French one keeps that from being told. -/
def overlongGreetings : CatalogSet where
  bundle := "messages"
  default := { bundle := "messages", messages := .ofList [("greet", "Hello \x7b0\x7d"), ("bye", "Bye \x7b")] }
  variants := [{ bundle := "messages", locale := "fr", messages := .ofList [("greet", zerosTemplate 4301)] }]

theorem longIndexUntold :
    ¬ ((∃ spec, (build {} overlongGreetings).outcome = .ok spec) ∨
      ∃ bundle issues, (build {} overlongGreetings).outcome = .error (.validation bundle issues)) ∧
    Shape.ofTemplate (zerosTemplate 4301) = .error .longIndex := by
  have many : Number.maxIntegerDigits < 4301 := by decide
  have read : Shape.ofTemplate "Hello \x7b0\x7d" = .ok (.positional [0]) := by decide +kernel
  have long : MeetsLongIndex overlongGreetings :=
    .inr ⟨_, List.mem_singleton_self _, "greet", _, zerosTemplate 4301, ⟨_, rfl, read⟩, rfl, zerosMeet many⟩
  have broken := @buildBreaksOff {} overlongGreetings long
  refine ⟨fun answered => ?_, Shape.longIndexMet.mpr (zerosMeet many)⟩
  rcases answered with ⟨spec, ok⟩ | ⟨bundle, issues, failed⟩
  · cases broken.symm.trans ok
  · cases broken.symm.trans failed

end Accessor
end Phrasebook

import Phrasebook.Proofs.DistinctSources

/-! The part of the variants in a source. A source is read off an accessor through what the default
catalog alone settles and the list of locales, and the list stands in two of its lines. -/
namespace Phrasebook.Accessor

open Text Number Report

def countLine (locales : List String) : String :=
  "Generated by typedbundle from the default catalog" ++ variantCount locales ++ "."

def localesLine (locales : List String) : String :=
  "LOCALES: tuple[str, ...] = " ++ tupleLiteral locales

/-- A text of which only two lines tell the locales: how many there are, and which. -/
def listing (before between after : List String) (locales : List String) : String :=
  unlines (before ++ countLine locales :: (between ++ localesLine locales :: after))

theorem countLineIsLine (locales : List String) : IsLine (countLine locales) := by
  refine lineAppend.mpr ⟨lineAppend.mpr ⟨by decide, ?_⟩, by decide⟩
  unfold variantCount
  split
  · decide
  · exact lineAppend.mpr ⟨lineAppend.mpr ⟨by decide, natLine _⟩, by decide⟩

theorem localesLineIsLine (locales : List String) : IsLine (localesLine locales) :=
  lineAppend.mpr ⟨by decide, tupleLine locales⟩

theorem unlinesAppend (lines more : List String) :
    unlines (lines ++ more) = unlines lines ++ unlines more := by
  apply String.toList_inj.mp
  simp only [String.toList_append, unlinesChars, List.flatMap_append]

theorem listingApart {before between after locales others : List String}
    (same : listing before between after locales = listing before between after others) :
    locales = others := by
  rw [listing, listing, unlinesAppend, unlinesAppend, String.append_right_inj] at same
  obtain ⟨-, later⟩ := firstLineApart (countLineIsLine locales) (countLineIsLine others) same
  rw [unlinesAppend, unlinesAppend, String.append_right_inj] at later
  obtain ⟨listed, -⟩ := firstLineApart (localesLineIsLine locales) (localesLineIsLine others) later
  exact tupleApart ((String.append_right_inj _).mp listed)

/-- An accessor without what the variants have a part in. The mode is not told by a source. -/
def Spec.untold (spec : Spec) : Spec :=
  { spec with mode := .noArgs, locales := [], descriptors := spec.descriptors.map Descriptor.untranslated }

/-- The lines of an accessor after the one that lists the locales. -/
def Spec.closing (spec : Spec) : List String :=
  spec.constants.drop 3 ++ (spec.classHead ++ spec.descriptors.flatMap Descriptor.block)

theorem untoldFrame (spec : Spec) :
    spec.untold.head.take 2 = spec.head.take 2 ∧ spec.untold.head.drop 3 = spec.head.drop 3 ∧
      spec.untold.constants.take 2 = spec.constants.take 2 ∧ spec.untold.closing = spec.closing := by
  have named : spec.untold.usesNamed = spec.usesNamed := by
    rw [Spec.usesNamed, Spec.untold, List.any_map]
    rfl
  have keys : spec.untold.classHead = spec.classHead := by
    rw [Spec.classHead, Spec.untold, List.map_map]
    rfl
  have blocks : spec.untold.descriptors.flatMap Descriptor.block =
      spec.descriptors.flatMap Descriptor.block := by
    rw [Spec.untold, List.flatMap_map]
    rfl
  refine ⟨rfl, ?_, rfl, ?_⟩
  · simp only [Spec.head, named]
    rfl
  · rw [Spec.closing, keys, blocks]
    rfl

theorem sourceListing (spec : Spec) :
    spec.source = listing (spec.untold.head.take 2)
      (spec.untold.head.drop 3 ++ spec.untold.constants.take 2) spec.untold.closing spec.locales := by
  obtain ⟨opens, middle, constants, closes⟩ := untoldFrame spec
  rw [sourceLines, listing, opens, middle, constants, closes]
  refine congrArg unlines ?_
  calc spec.lines
      = (spec.head.take 2 ++ countLine spec.locales :: spec.head.drop 3) ++
          (spec.constants.take 2 ++ localesLine spec.locales :: spec.constants.drop 3) ++
          spec.classHead ++ spec.descriptors.flatMap Descriptor.block := rfl
    _ = _ := by simp only [Spec.closing, List.append_assoc, List.cons_append]

theorem listedAlike {a b : Spec} (same : a.untold = b.untold) :
    ∃ before between after, a.source = listing before between after a.locales ∧
      b.source = listing before between after b.locales := by
  have listed := sourceListing a
  rw [same] at listed
  exact ⟨_, _, _, listed, sourceListing b⟩

/-! ### Two builds from one default catalog -/

theorem shapesUnique {entries shapes shapes'} (one : ShapesOf entries shapes)
    (other : ShapesOf entries shapes') : shapes = shapes' := by
  induction one generalizing shapes' with
  | nil =>
    cases other
    rfl
  | cons head tail ih =>
    cases other with
    | cons headOther tailOther =>
      have key := head.1.trans headOther.1.symm
      have shape := Except.ok.inj (head.2.symm.trans headOther.2)
      rw [ih tailOther, Prod.ext key shape]

theorem describedUntold {one other : CatalogSet} (default : one.default.messages = other.default.messages)
    (options : Options) (shapes : List (String × Shape)) :
    (describe options one shapes).map Descriptor.untranslated =
      (describe options other shapes).map Descriptor.untranslated := by
  rw [describe, describe, default, List.map_filterMap, List.map_filterMap]
  refine List.filterMap_congr fun entry _ => ?_
  simp only [Option.map_map]
  rfl

theorem builtUntold {options : Options} {one other : CatalogSet} {spec spec' : Spec}
    (bundle : one.bundle = other.bundle) (default : one.default.messages = other.default.messages)
    (built : (build options one).outcome = .ok spec)
    (builtOther : (build options other).outcome = .ok spec') :
    spec.untold = spec'.untold ∧ spec.locales = one.locales ∧ spec'.locales = other.locales := by
  obtain ⟨shapes, passed, rfl⟩ := buildOutcome.mp built
  obtain ⟨shapes', passedOther, rfl⟩ := buildOutcome.mp builtOther
  obtain rfl := shapesUnique passed.shaped (default ▸ passedOther.shaped)
  refine ⟨?_, rfl, rfl⟩
  simp only [Spec.untold, bundle, describedUntold default options shapes]

theorem sourceOfOutcome {options : Options} {directory : String} {isRelative : Bool}
    {catalogs : CatalogSet} {source : String} :
    (sourceOf options directory isRelative catalogs).outcome = .ok source ↔
      ∃ spec, (build options catalogs).outcome = .ok spec ∧
        (render { spec with catalogDir := directory, isRelative := isRelative }).outcome = .ok source :=
  bindOutcomeOk

/-- The default catalog alone settles a source but for two of its lines. A variant can keep a source from
being made; in one that is made it is counted and listed, and its messages leave no trace. -/
theorem variantsOnlyListed {options : Options} {directory : String} {isRelative : Bool}
    {one other : CatalogSet} {source source' : String} (bundle : one.bundle = other.bundle)
    (default : one.default.messages = other.default.messages)
    (made : (sourceOf options directory isRelative one).outcome = .ok source)
    (madeOther : (sourceOf options directory isRelative other).outcome = .ok source') :
    (source = source' ↔ one.locales = other.locales) ∧
    (∀ locales, IsLine (countLine locales) ∧ IsLine (localesLine locales)) ∧
    ∃ before between after, source = listing before between after one.locales ∧
      source' = listing before between after other.locales := by
  obtain ⟨spec, built, rendered⟩ := sourceOfOutcome.mp made
  obtain ⟨spec', builtOther, renderedOther⟩ := sourceOfOutcome.mp madeOther
  obtain ⟨-, -, rfl⟩ := renderOutcome.mp rendered
  obtain ⟨-, -, rfl⟩ := renderOutcome.mp renderedOther
  obtain ⟨untold, locales, localesOther⟩ := builtUntold bundle default built builtOther
  have placed : { spec with catalogDir := directory, isRelative := isRelative }.untold =
      { spec' with catalogDir := directory, isRelative := isRelative }.untold :=
    congrArg (fun s : Spec => { s with catalogDir := directory, isRelative := isRelative }) untold
  obtain ⟨before, between, after, listed, listedOther⟩ := listedAlike placed
  rw [← locales, ← localesOther]
  refine ⟨?_, fun locales => ⟨countLineIsLine locales, localesLineIsLine locales⟩,
    before, between, after, listed, listedOther⟩
  rw [listed, listedOther]
  constructor
  · exact listingApart
  · intro same
    rw [same]

def englishGreetings : CatalogSet := { greetings with variants := [] }

def englishGreeter : Spec := { greeter with descriptors := [greetMethod.untranslated], locales := [] }

theorem englishGreeterListed :
    (sourceOf {} "i18n" true greetings).outcome = .ok { greeter with catalogDir := "i18n" }.source ∧
    (sourceOf {} "i18n" true englishGreetings).outcome =
      .ok { englishGreeter with catalogDir := "i18n" }.source ∧
    { greeter with catalogDir := "i18n" }.source ≠ { englishGreeter with catalogDir := "i18n" }.source ∧
    ∃ before between after,
      { greeter with catalogDir := "i18n" }.source = listing before between after ["fr"] ∧
      { englishGreeter with catalogDir := "i18n" }.source = listing before between after [] := by
  have made := sourceOfOutcome.mpr ⟨greeter, greeterBuilt,
    renderedAt greeter "i18n" true (by decide) greeterBuilt (by decide +kernel)⟩
  have builtEnglish : (build {} englishGreetings).outcome = .ok englishGreeter := by decide +kernel
  have madeEnglish := sourceOfOutcome.mpr ⟨englishGreeter, builtEnglish,
    renderedAt englishGreeter "i18n" true (by decide) builtEnglish (by decide +kernel)⟩
  obtain ⟨same, -, listed⟩ := @variantsOnlyListed {} "i18n" true greetings englishGreetings _ _ rfl rfl
    made madeEnglish
  exact ⟨made, madeEnglish, mt same.mp (by decide), listed⟩

end Phrasebook.Accessor

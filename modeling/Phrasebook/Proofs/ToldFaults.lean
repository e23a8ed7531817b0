import Phrasebook.Proofs.BuildIssues

/-! Which faults the issues of a failed build tell. A refused template is told, and so is a method name
that two keys share, as long as the default templates of these keys are accepted: the later passes see
nothing of a key whose default template is refused. -/
namespace Phrasebook

def Catalog.Refuses (catalog : Catalog) (key : String) (fault : TemplateFault) : Prop :=
  ∃ template, catalog.get? key = some template ∧ Shape.ofTemplate template = .error fault

theorem Catalog.acceptsNone {catalog : Catalog} {key : String} {fault : TemplateFault}
    (refused : catalog.Refuses key fault) (shape : Shape) : ¬ catalog.Accepts key shape := by
  intro accepted
  obtain ⟨template, held, read⟩ := refused
  obtain ⟨other, found, ok⟩ := accepted
  cases held.symm.trans found
  cases read.symm.trans ok

namespace Accessor

open OrderedMap Report

/-! ### What each pass tells -/

theorem rejectionTold {bundle : String} {catalog : Catalog} {issue : Issue} :
    issue ∈ catalog.messages.entries.filterMap (rejection? bundle catalog) ↔
      ∃ key fault, catalog.Refuses key fault ∧ fault.issue? key (placeIn bundle catalog) = some issue := by
  simp only [List.mem_filterMap, Prod.exists, rejection?, Catalog.Refuses, Catalog.get?, getMember]
  constructor
  · intro told
    obtain ⟨key, template, mem, told⟩ := told
    cases read : Shape.ofTemplate template with
    | ok shape => simp [read] at told
    | error fault => exact ⟨key, fault, ⟨template, mem, read⟩, by simpa [read] using told⟩
  · intro refused
    obtain ⟨key, fault, ⟨template, mem, read⟩, told⟩ := refused
    exact ⟨key, template, mem, by simpa [read] using told⟩

theorem comparisonTold {catalogs : CatalogSet} {variant : Catalog} {issue : Issue} :
    issue ∈ variant.messages.entries.filterMap (comparison? catalogs (shapesOf catalogs.default) variant) ↔
      ∃ key shape, catalogs.default.Accepts key shape ∧
        ((∃ fault, variant.Refuses key fault ∧
            fault.issue? key (placeIn catalogs.bundle variant) = some issue) ∨
          ∃ other mismatch, variant.Accepts key other ∧ shape.mismatch? other = some mismatch ∧
            issue = .inconsistent catalogs.bundle variant.locale key mismatch) := by
  simp only [List.mem_filterMap, Prod.exists, comparison?, ← @shapeFound catalogs.default]
  simp only [Catalog.Refuses, Catalog.Accepts, Catalog.get?, getMember]
  constructor
  · intro told
    obtain ⟨key, template, mem, told⟩ := told
    cases held : (shapesOf catalogs.default).lookup key with
    | none => simp [held] at told
    | some shape =>
      simp only [held] at told
      refine ⟨key, shape, held, ?_⟩
      cases read : Shape.ofTemplate template with
      | error fault => exact .inl ⟨fault, ⟨template, mem, read⟩, by simpa [read] using told⟩
      | ok other =>
        simp only [read, Option.map_eq_some_iff] at told
        obtain ⟨mismatch, apart, same⟩ := told
        exact .inr ⟨other, mismatch, ⟨template, mem, read⟩, apart, same.symm⟩
  · intro compared
    obtain ⟨key, shape, held, found⟩ := compared
    rcases found with ⟨fault, ⟨template, mem, read⟩, told⟩ |
      ⟨other, mismatch, ⟨template, mem, read⟩, apart, rfl⟩
    · exact ⟨key, template, mem, by simpa [held, read] using told⟩
    · exact ⟨key, template, mem, by simp [held, read, apart]⟩

theorem conflictKey {place declared setBy shapes issue}
    (told : issue ∈ (resolveMode place declared setBy shapes).2) :
    ∃ found ∈ shapes, ∃ mode source,
      issue = .modeConflict found.1 (.differs found.2.mode mode source) place := by
  induction shapes generalizing declared setBy with
  | nil => simp [resolveMode] at told
  | cons found rest ih =>
    obtain ⟨key, shape⟩ := found
    have later {declared setBy} (inside : issue ∈ (resolveMode place declared setBy rest).2) :
        ∃ found ∈ (key, shape) :: rest, ∃ mode source,
          issue = .modeConflict found.1 (.differs found.2.mode mode source) place := by
      obtain ⟨other, mem, conflict⟩ := ih inside
      exact ⟨other, List.mem_cons_of_mem _ mem, conflict⟩
    simp only [resolveMode] at told
    split at told
    · exact later told
    · split at told
      · exact later told
      · rename_i mode
        split at told
        · exact later told
        · rcases List.mem_cons.mp told with same | inside
          · exact ⟨(key, shape), List.mem_cons_self, mode, setBy, same⟩
          · exact later inside

theorem groupOf {descriptors : List Descriptor} {folded : String} {group : List Descriptor} :
    (folded, group) ∈ groups descriptors ↔
      (∃ d ∈ descriptors, Text.lower d.method = folded) ∧
        group = descriptors.filter fun d => Text.lower d.method = folded := by
  simp only [groups, List.mem_map, memDistinct, Prod.mk.injEq]
  constructor
  · intro named
    obtain ⟨name, occurs, rfl, same⟩ := named
    exact ⟨occurs, same.symm⟩
  · intro named
    obtain ⟨occurs, rfl⟩ := named
    exact ⟨folded, occurs, rfl, rfl⟩

theorem sharedTold {bundle folded : String} {group : List Descriptor} {d e : Descriptor}
    (one : d ∈ group) (two : e ∈ group) (apart : d.key ≠ e.key) :
    ∃ first ∈ group, ∃ keys, collisionOf bundle (folded, group) =
      some (.collision bundle first.method keys) ∧ d.key ∈ keys ∧ e.key ∈ keys := by
  cases group with
  | nil => contradiction
  | cons first others =>
    have listed {f : Descriptor} (mem : f ∈ first :: others) :
        f.key ∈ (first :: others).map Descriptor.key := List.mem_map.mpr ⟨f, mem, rfl⟩
    -- A group of one descriptor would make the two keys one.
    have several : others.isEmpty = false := by
      cases others with
      | cons second rest => rfl
      | nil =>
        rw [List.mem_singleton] at one two
        exact absurd (one ▸ two ▸ rfl) apart
    refine ⟨first, List.mem_cons_self, ?_⟩
    simp only [collisionOf, several, Bool.false_eq_true, if_false]
    split
    · exact ⟨_, rfl, List.mem_append_left _ (listed one), List.mem_append_left _ (listed two)⟩
    · exact ⟨_, rfl, listed one, listed two⟩

/-- A collision also lists the method that belongs to the class itself, between these marks. -/
def reservedMark (name : String) : String := "<reserved:" ++ name ++ ">"

theorem collidedKeys {bundle folded : String} {group : List Descriptor} {issue : Issue}
    (told : collisionOf bundle (folded, group) = some issue) :
    ∃ method keys, issue = .collision bundle method keys ∧
      ∀ key ∈ keys, (∃ d ∈ group, d.key = key) ∨ ∃ name ∈ reservedMethods, key = reservedMark name := by
  cases group with
  | nil => contradiction
  | cons first others =>
    simp only [collisionOf] at told
    split at told
    · rename_i reserved
      cases told
      refine ⟨_, _, rfl, fun key mem => ?_⟩
      rcases List.mem_append.mp mem with own | mark
      · exact .inl (List.mem_map.mp own)
      · exact .inr ⟨folded, List.contains_iff_mem.mp reserved, List.mem_singleton.mp mark⟩
    · split at told
      · contradiction
      · cases told
        exact ⟨_, _, rfl, fun key mem => .inl (List.mem_map.mp mem)⟩

/-! ### All passes together -/

variable {options : Options} {catalogs : CatalogSet} {issue : Issue}

/-- The pass that an issue of a build comes from, and what it was looking at. -/
inductive IssueSource (catalogs : CatalogSet) : Issue → Prop
  | refused {key fault issue} (found : catalogs.default.Refuses key fault)
      (told : fault.issue? key (placeIn catalogs.bundle catalogs.default) = some issue) :
      IssueSource catalogs issue
  | conflict {key shape} (found : catalogs.default.Accepts key shape) (mode : Mode)
      (setBy : Option String) :
      IssueSource catalogs (.modeConflict key (.differs shape.mode mode setBy)
        (placeIn catalogs.bundle catalogs.default))
  | collision {method keys} (listed : ∀ key ∈ keys, (∃ shape, catalogs.default.Accepts key shape) ∨
        ∃ name ∈ reservedMethods, key = reservedMark name) :
      IssueSource catalogs (.collision catalogs.bundle method keys)
  | refusedVariant {variant key fault shape issue} (listed : variant ∈ catalogs.variants)
      (default : catalogs.default.Accepts key shape) (found : variant.Refuses key fault)
      (told : fault.issue? key (placeIn catalogs.bundle variant) = some issue) :
      IssueSource catalogs issue
  | mismatch {variant key shape other mismatch} (listed : variant ∈ catalogs.variants)
      (default : catalogs.default.Accepts key shape) (found : variant.Accepts key other)
      (apart : shape.mismatch? other = some mismatch) :
      IssueSource catalogs (.inconsistent catalogs.bundle variant.locale key mismatch)

theorem describedAccepted {d : Descriptor}
    (mem : d ∈ describe options catalogs (shapesOf catalogs.default)) :
    ∃ shape, catalogs.default.Accepts d.key shape := by
  obtain ⟨key, template, shape, -, found, rfl⟩ := describedMember.mp mem
  exact ⟨shape, shapeFound.mp found⟩

theorem issueSource (told : issue ∈ issuesOf options catalogs) : IssueSource catalogs issue := by
  rw [issuesOf, List.mem_append, List.mem_append, List.mem_append] at told
  rcases told with ((rejected | conflict) | collision) | compared
  · obtain ⟨key, fault, found, told⟩ := rejectionTold.mp rejected
    exact .refused found told
  · obtain ⟨⟨key, shape⟩, mem, mode, setBy, rfl⟩ := conflictKey conflict
    have distinct := (shapeKeys catalogs.default.messages.entries).nodup catalogs.default.messages.distinct
    exact .conflict (shapeFound.mp ((lookupMember distinct).mpr mem)) mode setBy
  · obtain ⟨⟨folded, group⟩, mem, told⟩ := List.mem_filterMap.mp collision
    obtain ⟨-, rfl⟩ := groupOf.mp mem
    obtain ⟨method, keys, rfl, listed⟩ := collidedKeys told
    refine .collision fun key mem => ?_
    rcases listed key mem with ⟨d, inside, rfl⟩ | mark
    · exact .inl (describedAccepted (List.mem_of_mem_filter inside))
    · exact .inr mark
  · obtain ⟨variant, listed, told⟩ := List.mem_flatMap.mp compared
    obtain ⟨key, shape, default, found⟩ := comparisonTold.mp told
    rcases found with ⟨fault, refused, told⟩ | ⟨other, mismatch, accepted, apart, rfl⟩
    · exact .refusedVariant listed default refused told
    · exact .mismatch listed default accepted apart

theorem faultNoCollision {fault : TemplateFault} {key bundle method : String} {place : Place}
    {keys : List String} : fault.issue? key place ≠ some (.collision bundle method keys) := by
  cases fault <;> simp [TemplateFault.issue?]

theorem silentOn {key label : String} {fault : TemplateFault}
    (refused : catalogs.default.Refuses key fault) (apart : label ≠ catalogs.default.label)
    (source : IssueSource catalogs issue) : ¬ issue.IsAt key label := by
  intro located
  cases source with
  | refused found told => exact apart ((toldAt told).mp located).2
  | conflict found mode setBy =>
    have named : label = catalogs.default.label := by
      simpa [Issue.details, placeIn, Issue.optionalText] using located.2
    exact apart named
  -- A collision is of the whole bundle and names no locale.
  | collision listed => simp [Issue.IsAt, Issue.details, Issue.texts] at located
  | refusedVariant listed default found told =>
    obtain ⟨rfl, -⟩ := (toldAt told).mp located
    exact Catalog.acceptsNone refused _ default
  | @mismatch variant k shape other mismatch listed default found apart =>
    obtain rfl : key = k := by simpa [Issue.details] using located.1
    exact Catalog.acceptsNone refused shape default

/-! ### A failed build -/

/-- What the issues tell of the refused templates and of the method names that several keys share, and what
they leave out. -/
structure TellsFaults (options : Options) (catalogs : CatalogSet) (issues : List Issue) : Prop where
  defaults : ∀ key fault, catalogs.default.Refuses key fault → ∃ issue ∈ issues,
    fault.failure key (placeIn catalogs.bundle catalogs.default) = .issue issue ∧
    issue.IsAt key catalogs.default.label
  variants : ∀ variant ∈ catalogs.variants, ∀ key fault shape, catalogs.default.Accepts key shape →
    variant.Refuses key fault → ∃ issue ∈ issues,
      fault.failure key (placeIn catalogs.bundle variant) = .issue issue ∧ issue.IsAt key variant.label
  untoldVariants : ∀ variant ∈ catalogs.variants, variant.label ≠ catalogs.default.label →
    ∀ key fault, catalogs.default.Refuses key fault → ∀ issue ∈ issues, ¬ issue.IsAt key variant.label
  collisions : ∀ a b shape other, a ≠ b → foldedMethod options a = foldedMethod options b →
    catalogs.default.Accepts a shape → catalogs.default.Accepts b other → ∃ method keys,
      .collision catalogs.bundle method keys ∈ issues ∧ Text.lower method = foldedMethod options a ∧
      a ∈ keys ∧ b ∈ keys
  untoldCollisions : ∀ key fault, catalogs.default.Refuses key fault →
    (∀ name ∈ reservedMethods, key ≠ reservedMark name) →
    ∀ bundle method keys, .collision bundle method keys ∈ issues → key ∉ keys

theorem acceptedDescribed {key : String} {shape : Shape} (accepted : catalogs.default.Accepts key shape) :
    ∃ d ∈ describe options catalogs (shapesOf catalogs.default),
      d.key = key ∧ Text.lower d.method = foldedMethod options key := by
  have found := shapeFound.mpr accepted
  obtain ⟨template, held, -⟩ := accepted
  exact ⟨_, describedMember.mpr ⟨key, template, shape, held, found, rfl⟩, rfl, rfl⟩

theorem collisionTold {a b : String} {shape other : Shape} (apart : a ≠ b)
    (same : foldedMethod options a = foldedMethod options b)
    (one : catalogs.default.Accepts a shape) (two : catalogs.default.Accepts b other) :
    ∃ method keys, .collision catalogs.bundle method keys ∈ issuesOf options catalogs ∧
      Text.lower method = foldedMethod options a ∧ a ∈ keys ∧ b ∈ keys := by
  obtain ⟨d, memD, rfl, methodD⟩ := @acceptedDescribed options _ _ _ one
  obtain ⟨e, memE, rfl, methodE⟩ := @acceptedDescribed options _ _ _ two
  rw [← methodD, ← methodE] at same
  have grouped {f : Descriptor} (mem : f ∈ describe options catalogs (shapesOf catalogs.default))
      (shared : Text.lower f.method = Text.lower d.method) :
      f ∈ (describe options catalogs (shapesOf catalogs.default)).filter fun g =>
        Text.lower g.method = Text.lower d.method :=
    List.mem_filter.mpr ⟨mem, decide_eq_true shared⟩
  obtain ⟨first, inside, keys, told, listedD, listedE⟩ :=
    @sharedTold catalogs.bundle (Text.lower d.method) _ d e (grouped memD rfl) (grouped memE same.symm) apart
  have collided := List.mem_filterMap.mpr ⟨_, groupOf.mpr ⟨⟨d, memD, rfl⟩, rfl⟩, told⟩
  refine ⟨first.method, keys, ?_, ?_, listedD, listedE⟩
  · exact List.mem_append_left _ (List.mem_append_right _ collided)
  · rw [← methodD]
    exact of_decide_eq_true (List.mem_filter.mp inside).2

theorem issuesTell (smooth : ¬ MeetsLongIndex catalogs) :
    TellsFaults options catalogs (issuesOf options catalogs) where
  defaults key fault refused := by
    obtain ⟨template, held, read⟩ := refused
    have whole : ¬ BreaksOff template := fun breaks =>
      smooth (.inl ⟨key, template, held, Shape.longIndexMet.mp breaks⟩)
    obtain ⟨issue, told, failure⟩ :=
      toldFault whole read key (placeIn catalogs.bundle catalogs.default)
    refine ⟨issue, ?_, failure, (toldAt told).mpr ⟨rfl, rfl⟩⟩
    have rejected := rejectionTold.mpr ⟨key, fault, ⟨template, held, read⟩, told⟩
    exact List.mem_append_left _ (List.mem_append_left _ (List.mem_append_left _ rejected))
  variants variant listed key fault shape accepted refused := by
    obtain ⟨translated, given, read⟩ := refused
    have whole : ¬ BreaksOff translated := fun breaks =>
      smooth (.inr ⟨variant, listed, key, shape, translated, accepted, given,
        Shape.longIndexMet.mp breaks⟩)
    obtain ⟨issue, told, failure⟩ := toldFault whole read key (placeIn catalogs.bundle variant)
    refine ⟨issue, ?_, failure, (toldAt told).mpr ⟨rfl, rfl⟩⟩
    have compared := comparisonTold.mpr
      ⟨key, shape, accepted, .inl ⟨fault, ⟨translated, given, read⟩, told⟩⟩
    exact List.mem_append_right _ (List.mem_flatMap.mpr ⟨variant, listed, compared⟩)
  untoldVariants variant _ apart key fault refused issue told :=
    silentOn refused apart (issueSource told)
  collisions a b shape other apart same one two := collisionTold apart same one two
  untoldCollisions key fault refused unmarked bundle method keys told inside := by
    cases issueSource told with
    | refused found told => exact faultNoCollision told
    | refusedVariant listed default found told => exact faultNoCollision told
    | collision listed =>
      rcases listed key inside with ⟨shape, accepted⟩ | ⟨name, reserved, rfl⟩
      · exact Catalog.acceptsNone refused shape accepted
      · exact unmarked name reserved rfl

/-- Of a build that fails with its issues, these tell every refused default template, every refused template
of a variant and every shared method name where the default templates of the keys are accepted. Where the
default template is refused, they tell neither of the other two. -/
theorem faultsTold {options : Options} {catalogs : CatalogSet} {bundle : String} {issues : List Issue}
    (failed : (build options catalogs).outcome = .error (.validation bundle issues)) :
    bundle = catalogs.bundle ∧ TellsFaults options catalogs issues := by
  have smooth : ¬ MeetsLongIndex catalogs := by
    intro long
    cases failed.symm.trans (buildBreaksOff long)
  obtain ⟨returns, tells⟩ := @buildTells options catalogs smooth
  cases found : issuesOf options catalogs with
  | nil => cases failed.symm.trans (returns found)
  | cons issue rest =>
    have some : issuesOf options catalogs ≠ [] := found ▸ List.cons_ne_nil issue rest
    cases failed.symm.trans (tells some)
    exact ⟨rfl, issuesTell smooth⟩

/-- A broken default template, two keys of one method name and a broken translation. -/
def brokenGreetings : CatalogSet where
  bundle := "messages"
  default :=
    { bundle := "messages"
      messages := .ofList
        [("greet", "Hello \x7b"), ("sign.off", "Bye \x7b0\x7d"), ("signOff", "Bye"), ("thank", "Thanks")] }
  variants := [{ bundle := "messages", locale := "fr", messages := .ofList [("thank", "Merci \x7d")] }]

def greetingIssues : List Issue :=
  [.malformed "greet" "\x7b" (some 6) { bundle := some "messages", locale := some "default" },
    .collision "messages" "signOff" ["sign.off", "signOff"],
    .malformed "thank" "\x7d" (some 6) { bundle := some "messages", locale := some "fr" }]

theorem greetingFaultsTold :
    (build {} brokenGreetings).outcome = .error (.validation "messages" greetingIssues) ∧
      TellsFaults {} brokenGreetings greetingIssues := by
  have failed : (build {} brokenGreetings).outcome = .error (.validation "messages" greetingIssues) := by
    decide +kernel
  exact ⟨failed, (faultsTold failed).2⟩

/-- Two keys of one method name, the first of which has broken templates only. -/
def brokenFarewells : CatalogSet where
  bundle := "messages"
  default := { bundle := "messages", messages := .ofList [("sign.off", "Bye \x7b"), ("signOff", "Bye")] }
  variants := [{ bundle := "messages", locale := "fr", messages := .ofList [("sign.off", "Salut \x7b")] }]

theorem farewellFaultsUntold : ∃ issues,
    (build {} brokenFarewells).outcome = .error (.validation "messages" issues) ∧
    (∃ variant ∈ brokenFarewells.variants, ∃ fault, variant.label = "fr" ∧
      variant.Refuses "sign.off" fault ∧ ∀ issue ∈ issues, ¬ issue.IsAt "sign.off" "fr") ∧
    brokenFarewells.default.keys = ["sign.off", "signOff"] ∧
    foldedMethod {} "sign.off" = foldedMethod {} "signOff" ∧
    ∀ bundle method keys, .collision bundle method keys ∉ issues := by
  have read : Shape.ofTemplate "Salut \x7b" = .error (.malformed "\x7b" (some 6)) := by decide +kernel
  refine ⟨[.malformed "sign.off" "\x7b" (some 4) { bundle := some "messages", locale := some "default" }],
    ?_, ⟨_, List.mem_singleton_self _, _, rfl, ⟨_, rfl, read⟩, ?_⟩, rfl, ?_, ?_⟩
  · decide +kernel
  · simp [Issue.IsAt, Issue.details, Issue.optionalText]
  · decide +kernel
  · simp

end Accessor
end Phrasebook

import Phrasebook.Accessor.Spec
import Phrasebook.Proofs.Collections
import Phrasebook.Proofs.Outcome

/-! When a build succeeds. The four passes of a build share one list of issues and pass over what an
earlier pass refused; together they refuse exactly the catalogs that are not consistent. -/
namespace Phrasebook.Accessor

open OrderedMap Report

def foldedMethod (options : Options) (key : String) : String :=
  Text.lower (methodName key options.delimiter options.naming)

structure Consistent (options : Options) (catalogs : CatalogSet) : Prop where
  readable : ∀ key template, catalogs.default.get? key = some template →
    ∃ shape, Shape.ofTemplate template = .ok shape
  oneMode : ∃ mode, (∀ declared, options.mode = some declared → declared = mode) ∧
    ∀ key template shape, catalogs.default.get? key = some template →
      Shape.ofTemplate template = .ok shape → shape.isEmpty = false → shape.mode = mode
  distinctMethods : catalogs.default.keys.Pairwise fun a b =>
    foldedMethod options a ≠ foldedMethod options b
  freeMethods : ∀ key ∈ catalogs.default.keys, foldedMethod options key ∉ reservedMethods
  compatible : ∀ variant ∈ catalogs.variants, ∀ key template translated,
    catalogs.default.get? key = some template → variant.get? key = some translated →
    ∃ shape other, Shape.ofTemplate template = .ok shape ∧
      Shape.ofTemplate translated = .ok other ∧ shape.mismatch? other = none

def ShapesOf (entries : List (String × String)) (shapes : List (String × Shape)) : Prop :=
  List.Forall₂ (fun entry found => found.1 = entry.1 ∧ Shape.ofTemplate entry.2 = .ok found.2)
    entries shapes

theorem extractedShape {bundle catalog key template shape} :
    (extract bundle catalog key template).outcome = .ok (.inr shape) ↔
      Shape.ofTemplate template = .ok shape := by
  unfold extract
  cases Shape.ofTemplate template with
  | ok found => simp
  | error fault => cases fault <;> simp [TemplateFault.failure]

theorem extractedAll {bundle catalog entries shapes} :
    (extractAll bundle catalog entries).outcome = .ok ([], shapes) ↔ ShapesOf entries shapes := by
  induction entries generalizing shapes with
  | nil => simp [extractAll, ShapesOf, eq_comm]
  | cons entry rest ih =>
    obtain ⟨key, template⟩ := entry
    simp only [extractAll, bindOutcomeOk, ShapesOf, List.forall₂_cons_left_iff]
    constructor
    · rintro ⟨found, head, ⟨issues, later⟩, tail, last⟩
      cases found with
      | inl issue => simp at last
      | inr shape =>
        obtain ⟨rfl, rfl⟩ : issues = [] ∧ (key, shape) :: later = shapes := by simpa using last
        exact ⟨_, _, ⟨rfl, extractedShape.mp head⟩, ih.mp tail, rfl⟩
    · rintro ⟨⟨_, shape⟩, later, ⟨rfl, head⟩, tail, rfl⟩
      exact ⟨.inr shape, extractedShape.mpr head, ([], later), ih.mpr tail, rfl⟩

theorem shapesKeys {entries shapes} (shaped : ShapesOf entries shapes) :
    shapes.map Prod.fst = entries.map Prod.fst := by
  induction shaped with
  | nil => rfl
  | cons head tail ih => simp [head.1, ih]

theorem shapesExist {entries : List (String × String)}
    (readable : ∀ entry ∈ entries, ∃ shape, Shape.ofTemplate entry.2 = .ok shape) :
    ∃ shapes, ShapesOf entries shapes := by
  induction entries with
  | nil => exact ⟨[], .nil⟩
  | cons entry rest ih =>
    obtain ⟨shape, head⟩ := readable entry (by simp)
    obtain ⟨shapes, tail⟩ := ih fun e mem => readable e (by simp [mem])
    exact ⟨(entry.1, shape) :: shapes, .cons ⟨rfl, head⟩ tail⟩

theorem shapeMember {entries shapes} (shaped : ShapesOf entries shapes) {key : String}
    {shape : Shape} :
    (key, shape) ∈ shapes ↔
      ∃ template, (key, template) ∈ entries ∧ Shape.ofTemplate template = .ok shape := by
  induction shaped with
  | nil => simp
  | @cons entry found entries shapes head tail ih =>
    obtain ⟨k, template⟩ := entry
    obtain ⟨_, other⟩ := found
    obtain ⟨rfl, read⟩ := head
    simp only [List.mem_cons, Prod.mk.injEq, ih]
    constructor
    · rintro (⟨rfl, rfl⟩ | ⟨t, mem, ok⟩)
      · exact ⟨template, .inl ⟨rfl, rfl⟩, read⟩
      · exact ⟨t, .inr mem, ok⟩
    · rintro ⟨t, ⟨rfl, rfl⟩ | mem, ok⟩
      · exact .inl ⟨rfl, Except.ok.inj (ok.symm.trans read)⟩
      · exact .inr ⟨t, mem, ok⟩

theorem shapeLookup {catalog : Catalog} {shapes}
    (shaped : ShapesOf catalog.messages.entries shapes) {key : String} {shape : Shape} :
    shapes.lookup key = some shape ↔
      ∃ template, catalog.get? key = some template ∧ Shape.ofTemplate template = .ok shape := by
  have distinct : (shapes.map Prod.fst).Nodup := by
    rw [shapesKeys shaped]
    exact catalog.messages.distinct
  rw [lookupMember distinct, shapeMember shaped]
  simp only [Catalog.get?, getMember]

theorem settledMode {place mode setBy shapes} :
    (resolveMode place (some mode) setBy shapes).2 = [] ↔
      ∀ found ∈ shapes, found.2.isEmpty = false → found.2.mode = mode := by
  induction shapes with
  | nil => simp [resolveMode]
  | cons found rest ih =>
    obtain ⟨key, shape⟩ := found
    by_cases empty : shape.isEmpty = true
    · simp [resolveMode, empty, ih]
    · by_cases same : shape.mode = mode
      · simp [resolveMode, empty, same, ih]
      · simp [resolveMode, empty, same]

theorem resolvedMode {place declared setBy shapes} :
    (resolveMode place declared setBy shapes).2 = [] ↔
      ∃ mode, (∀ m, declared = some m → m = mode) ∧
        ∀ found ∈ shapes, found.2.isEmpty = false → found.2.mode = mode := by
  cases declared with
  | some mode => simp [settledMode]
  | none =>
    induction shapes generalizing setBy with
    | nil => simpa [resolveMode] using ⟨Mode.noArgs⟩
    | cons found rest ih =>
      obtain ⟨key, shape⟩ := found
      by_cases empty : shape.isEmpty = true
      · simpa [resolveMode, empty] using ih
      · -- The first template with placeholders stands in for a declaration.
        have filled : shape.isEmpty = false := by simpa using empty
        simp only [resolveMode, filled, Bool.false_eq_true, if_false, settledMode]
        constructor
        · intro later
          refine ⟨shape.mode, by simp, ?_⟩
          simpa [filled] using later
        · rintro ⟨mode, -, all⟩ other mem nonempty
          have first := all (key, shape) (by simp) filled
          exact (all other (by simp [mem]) nonempty).trans first.symm

theorem describedMember {options catalogs shapes} {d : Descriptor} :
    d ∈ describe options catalogs shapes ↔
      ∃ key template shape, catalogs.default.get? key = some template ∧
        shapes.lookup key = some shape ∧
        d = { key := key
              method := methodName key options.delimiter options.naming
              mode := shape.mode
              parameters := parametersOf shape
              template := template
              translations :=
                (catalogs.variants.filter fun c => c.messages.contains key).map Catalog.locale } := by
  simp only [describe, List.mem_filterMap, Option.map_eq_some_iff, Prod.exists, Catalog.get?,
    getMember]
  constructor
  · rintro ⟨key, template, mem, shape, found, rfl⟩
    exact ⟨key, template, shape, mem, found, rfl⟩
  · rintro ⟨key, template, shape, mem, found, rfl⟩
    exact ⟨key, template, mem, shape, found, rfl⟩

theorem describedEntries {options : Options} {catalogs : CatalogSet} {shapes}
    (shaped : ShapesOf catalogs.default.messages.entries shapes) :
    (describe options catalogs shapes).map (fun d => (d.key, d.template)) =
      catalogs.default.messages.entries := by
  have every : ∀ key ∈ catalogs.default.keys, ∃ shape, shapes.lookup key = some shape := by
    intro key mem
    rw [Catalog.keys, OrderedMap.keys, ← shapesKeys shaped] at mem
    obtain ⟨⟨_, shape⟩, inside, rfl⟩ := List.mem_map.mp mem
    refine ⟨shape, (lookupMember ?_).mpr inside⟩
    rw [shapesKeys shaped]
    exact catalogs.default.messages.distinct
  simp only [describe, Catalog.keys, OrderedMap.keys] at every ⊢
  generalize catalogs.default.messages.entries = entries at every ⊢
  induction entries with
  | nil => rfl
  | cons entry rest ih =>
    obtain ⟨shape, found⟩ := every entry.1 (by simp)
    have later := ih fun key mem => every key (List.mem_cons_of_mem _ mem)
    simp [found, later]

theorem describedKeys {options : Options} {catalogs : CatalogSet} {shapes}
    (shaped : ShapesOf catalogs.default.messages.entries shapes) :
    (describe options catalogs shapes).map Descriptor.key = catalogs.default.keys := by
  rw [Catalog.keys, OrderedMap.keys, ← @describedEntries options catalogs shapes shaped, List.map_map]
  rfl

theorem describedMethods {options : Options} {catalogs : CatalogSet} {shapes}
    (shaped : ShapesOf catalogs.default.messages.entries shapes) :
    (describe options catalogs shapes).map (fun d => Text.lower d.method) =
      catalogs.default.keys.map (foldedMethod options) := by
  have keys : (describe options catalogs shapes).map Descriptor.key = catalogs.default.keys :=
    describedKeys shaped
  rw [← keys, List.map_map]
  refine List.map_congr_left fun d mem => ?_
  obtain ⟨key, template, shape, -, -, rfl⟩ := describedMember.mp mem
  rfl

theorem collisionFree {bundle folded} {group : List Descriptor} (filled : group ≠ []) :
    collisionOf bundle (folded, group) = none ↔
      folded ∉ reservedMethods ∧ group.length = 1 := by
  cases group with
  | nil => contradiction
  | cons first others =>
    by_cases reserved : folded ∈ reservedMethods
    · simp [collisionOf, reserved]
    · cases others <;> simp [collisionOf, reserved]

theorem groupSize (descriptors : List Descriptor) (name : String) :
    (descriptors.filter fun d => Text.lower d.method = name).length =
      (descriptors.map fun d => Text.lower d.method).count name := by
  rw [List.count, List.countP_map, List.countP_eq_length_filter]
  congr 2

theorem noCollisions {bundle} {descriptors : List Descriptor} :
    (groups descriptors).filterMap (collisionOf bundle) = [] ↔
      (descriptors.map fun d => Text.lower d.method).Nodup ∧
        ∀ d ∈ descriptors, Text.lower d.method ∉ reservedMethods := by
  simp only [List.filterMap_eq_nil_iff, groups, List.mem_map, memDistinct, forall_exists_index,
    and_imp, forall_apply_eq_imp_iff₂]
  have filled : ∀ d ∈ descriptors,
      (descriptors.filter fun e => Text.lower e.method = Text.lower d.method) ≠ [] :=
    fun d mem => List.ne_nil_of_mem (List.mem_filter.mpr ⟨mem, by simp⟩)
  constructor
  · intro clean
    refine ⟨List.nodup_iff_count_eq_one.mpr fun name mem => ?_, fun d mem => ?_⟩
    · obtain ⟨d, inside, rfl⟩ := List.mem_map.mp mem
      rw [← groupSize]
      exact ((collisionFree (filled d inside)).mp (clean d inside)).2
    · exact ((collisionFree (filled d mem)).mp (clean d mem)).1
  · rintro ⟨distinct, free⟩ d mem
    refine (collisionFree (filled d mem)).mpr ⟨free d mem, ?_⟩
    rw [groupSize]
    exact List.nodup_iff_count_eq_one.mp distinct _ (List.mem_map.mpr ⟨d, mem, rfl⟩)

theorem checkedVariant {catalogs shapes variant entries} :
    (checkVariant catalogs shapes variant entries).outcome = .ok [] ↔
      ∀ entry ∈ entries, entry.1 ∈ catalogs.default.keys → ∀ shape,
        shapes.lookup entry.1 = some shape →
        ∃ other, Shape.ofTemplate entry.2 = .ok other ∧ shape.mismatch? other = none := by
  induction entries with
  | nil => simp [checkVariant]
  | cons entry rest ih =>
    obtain ⟨key, template⟩ := entry
    simp only [checkVariant, List.forall_mem_cons]
    by_cases known : key ∈ catalogs.default.keys
    · have has : catalogs.default.messages.contains key = true := containsKey.mpr known
      cases found : shapes.lookup key with
      -- The default template has no shape, which an earlier pass has told.
      | none => simp [has, ih]
      | some shape =>
        simp only [has, known, Bool.not_true, Bool.false_eq_true, if_false, bindOutcomeOk,
          true_implies, Option.some.injEq, forall_eq']
        constructor
        · rintro ⟨outcome, head, issues, tail, last⟩
          cases outcome with
          | inl issue => simp at last
          | inr other =>
            cases fits : shape.mismatch? other with
            | some mismatch => simp [fits] at last
            | none =>
              obtain rfl : issues = [] := by simpa [fits] using last
              exact ⟨⟨other, extractedShape.mp head, fits⟩, ih.mp tail⟩
        · rintro ⟨⟨other, head, fits⟩, tail⟩
          exact ⟨.inr other, extractedShape.mpr head, [], ih.mpr tail, by simp [fits]⟩
    · have missing : catalogs.default.messages.contains key = false := by
        simpa using mt containsKey.mp known
      simp [missing, known, bindOutcomeOk, ih]

theorem checkedVariants {catalogs shapes variants} :
    (checkVariants catalogs shapes variants).outcome = .ok [] ↔
      ∀ variant ∈ variants,
        (checkVariant catalogs shapes variant variant.messages.entries).outcome = .ok [] := by
  induction variants with
  | nil => simp [checkVariants]
  | cons variant rest ih =>
    simp only [checkVariants, bindOutcomeOk, List.forall_mem_cons]
    constructor
    · rintro ⟨issues, head, others, tail, last⟩
      obtain ⟨rfl, rfl⟩ : issues = [] ∧ others = [] := by simpa using last
      exact ⟨head, ih.mp tail⟩
    · rintro ⟨head, tail⟩
      exact ⟨[], head, [], ih.mpr tail, rfl⟩

structure Built (options : Options) (catalogs : CatalogSet) (shapes : List (String × Shape)) :
    Prop where
  shaped : ShapesOf catalogs.default.messages.entries shapes
  mode : ∃ mode, (∀ m, options.mode = some m → m = mode) ∧
    ∀ found ∈ shapes, found.2.isEmpty = false → found.2.mode = mode
  methods : ((describe options catalogs shapes).map fun d => Text.lower d.method).Nodup
  free : ∀ d ∈ describe options catalogs shapes, Text.lower d.method ∉ reservedMethods
  variants : ∀ variant ∈ catalogs.variants,
    (checkVariant catalogs shapes variant variant.messages.entries).outcome = .ok []

theorem buildOutcome {options catalogs} {spec : Spec} :
    (build options catalogs).outcome = .ok spec ↔
      ∃ shapes, Built options catalogs shapes ∧
        spec =
          { bundle := catalogs.bundle
            className :=
              if options.className.isEmpty then className catalogs.bundle else options.className
            mode := (resolveMode
              { bundle := some catalogs.bundle, locale := some catalogs.default.label }
              options.mode none shapes).1
            descriptors := describe options catalogs shapes
            locales := catalogs.locales } := by
  simp only [build, bindOutcomeOk]
  constructor
  · rintro ⟨⟨malformed, shapes⟩, extracted, inconsistent, checked, last⟩
    split at last
    · rename_i none
      -- An accessor comes only of four empty lists of issues.
      simp only [List.isEmpty_iff, List.append_eq_nil_iff] at none
      obtain ⟨⟨⟨rfl, conflicts⟩, collisions⟩, rfl⟩ := none
      obtain ⟨methods, free⟩ := noCollisions.mp collisions
      refine ⟨shapes, ⟨extractedAll.mp extracted, resolvedMode.mp conflicts, methods, free,
        checkedVariants.mp checked⟩, ?_⟩
      obtain ⟨_, -, last⟩ := bindOutcomeOk.mp last
      exact (Except.ok.inj last).symm
    · obtain ⟨_, -, last⟩ := bindOutcomeOk.mp last
      simp at last
  · rintro ⟨shapes, built, rfl⟩
    refine ⟨([], shapes), extractedAll.mpr built.shaped, [], checkedVariants.mpr built.variants, ?_⟩
    have conflicts (place : Place) : (resolveMode place options.mode none shapes).2 = [] :=
      resolvedMode.mpr built.mode
    have collisions (bundle : String) :
        (groups (describe options catalogs shapes)).filterMap (collisionOf bundle) = [] :=
      noCollisions.mpr ⟨built.methods, built.free⟩
    simp only [conflicts, collisions, List.append_nil, List.isEmpty_nil, if_true]
    exact bindOutcomeOk.mpr ⟨(), rfl, rfl⟩

theorem shapesReadable {entries shapes} (shaped : ShapesOf entries shapes) :
    ∀ entry ∈ entries, ∃ shape, Shape.ofTemplate entry.2 = .ok shape := by
  induction shaped with
  | nil => simp
  | cons head tail ih => exact List.forall_mem_cons.mpr ⟨⟨_, head.2⟩, ih⟩

theorem defaultKey {catalog : Catalog} {key template : String}
    (found : catalog.get? key = some template) : key ∈ catalog.keys :=
  keyMember.mpr ⟨template, found⟩

theorem builtConsistent {options catalogs shapes} (built : Built options catalogs shapes) :
    Consistent options catalogs where
  readable key template found := shapesReadable built.shaped (key, template) (getMember.mp found)
  oneMode := by
    obtain ⟨mode, declared, all⟩ := built.mode
    refine ⟨mode, declared, fun key template shape found read filled => ?_⟩
    exact all (key, shape) ((shapeMember built.shaped).mpr ⟨template, getMember.mp found, read⟩) filled
  distinctMethods := by
    have distinct := built.methods
    rwa [describedMethods built.shaped, List.Nodup, List.pairwise_map] at distinct
  freeMethods key mem := by
    have described : foldedMethod options key ∈
        (describe options catalogs shapes).map fun d => Text.lower d.method := by
      rw [describedMethods built.shaped]
      exact List.mem_map.mpr ⟨key, mem, rfl⟩
    obtain ⟨d, inside, same⟩ := List.mem_map.mp described
    exact same ▸ built.free d inside
  compatible variant mem key template translated found given := by
    obtain ⟨shape, read⟩ := shapesReadable built.shaped (key, template) (getMember.mp found)
    obtain ⟨other, readOther, fits⟩ := checkedVariant.mp (built.variants variant mem)
      (key, translated) (getMember.mp given) (defaultKey found) shape
      ((shapeLookup built.shaped).mpr ⟨template, found, read⟩)
    exact ⟨shape, other, read, readOther, fits⟩

theorem consistentBuilt {options catalogs} (good : Consistent options catalogs) :
    ∃ shapes, Built options catalogs shapes := by
  obtain ⟨shapes, shaped⟩ : ∃ shapes, ShapesOf catalogs.default.messages.entries shapes :=
    shapesExist fun entry mem => good.readable entry.1 entry.2 (getMember.mpr mem)
  refine ⟨shapes, shaped, ?_, ?_, ?_, ?_⟩
  · obtain ⟨mode, declared, all⟩ := good.oneMode
    refine ⟨mode, declared, fun found mem filled => ?_⟩
    obtain ⟨template, inside, read⟩ := (shapeMember shaped).mp mem
    exact all found.1 template found.2 (getMember.mpr inside) read filled
  · rw [describedMethods shaped, List.Nodup, List.pairwise_map]
    exact good.distinctMethods
  · intro d mem
    obtain ⟨key, template, shape, found, -, rfl⟩ := describedMember.mp mem
    exact good.freeMethods key (defaultKey found)
  · intro variant mem
    refine checkedVariant.mpr fun entry inside _ shape found => ?_
    obtain ⟨template, default, read⟩ := (shapeLookup shaped).mp found
    obtain ⟨shape', other, read', readOther, fits⟩ :=
      good.compatible variant mem entry.1 template entry.2 default (getMember.mpr inside)
    obtain rfl : shape' = shape := Except.ok.inj (read'.symm.trans read)
    exact ⟨other, readOther, fits⟩

theorem buildAcceptsExactlyConsistent (options : Options) (catalogs : CatalogSet) :
    (∃ spec, (build options catalogs).outcome = .ok spec) ↔ Consistent options catalogs := by
  constructor
  · rintro ⟨spec, ok⟩
    obtain ⟨shapes, built, -⟩ := buildOutcome.mp ok
    exact builtConsistent built
  · intro good
    obtain ⟨shapes, built⟩ := consistentBuilt good
    exact ⟨_, buildOutcome.mpr ⟨shapes, built, rfl⟩⟩

end Phrasebook.Accessor

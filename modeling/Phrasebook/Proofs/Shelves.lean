import Phrasebook.Proofs.Discovery
import Phrasebook.Proofs.Resolution

/-! The two kinds of sources whose catalogs do not change: messages in memory and a directory of files.
Whatever variant either of them serves at run time stands in the set that a build has checked. -/
namespace Phrasebook

open Report Resolver

inductive Shelf where
  | memory (bundles : Bundles)
  | directory (path : Path) (tree : FileTree)

namespace Shelf

def source : Shelf → Source
  | memory bundles => bundles.source
  | directory path tree => (Catalog.Directory.usual path).source tree

def Accepts : Shelf → String → Prop
  | memory _, _ => True
  | directory _ _, bundle => Target.isBundleName bundle = true

/-- Whether a variant can be asked for: the name of its file must not be too long to look for. -/
def CanAsk : Shelf → String → String → Prop
  | memory _, _, _ => True
  | directory path _, bundle, tag =>
    Locale.isTag tag = true → FileTree.Fits path (Catalog.Directory.longestOf bundle tag)

instance (shelf : Shelf) (bundle tag : String) : Decidable (shelf.CanAsk bundle tag) := by
  cases shelf with
  | memory bundles => exact .isTrue trivial
  | directory path tree => exact inferInstanceAs (Decidable (_ → _))

variable {bundle tag : String} {set : CatalogSet}

theorem answeredOf {source : Source} {answer : Option Catalog}
    (found : (source.find bundle tag).outcome = .ok answer) :
    variantOf source bundle tag = .ok answer := by
  simp [variantOf, found]

theorem listedSupplied {source : Source} (loaded : (source.loadSet bundle).outcome = .ok set)
    (listed : ∀ locales, (source.locales bundle).outcome = .ok locales → tag ∈ locales) :
    variantOf source bundle tag = .ok none ∨
      ∃ variant ∈ set.variants, variantOf source bundle tag = .ok (some variant) := by
  obtain ⟨-, -, locales, found, discovered, answers, variants⟩ := Source.loadSetOutcome.mp loaded
  obtain ⟨answer, outcome, member⟩ := Source.answerLoaded answers (listed locales discovered)
  cases answer with
  | none => exact .inl (answeredOf outcome)
  | some variant =>
    refine .inr ⟨variant, ?_, answeredOf outcome⟩
    rw [variants]
    exact member variant rfl

theorem memorySupplied {bundles : Bundles} (loaded : (bundles.source.loadSet bundle).outcome = .ok set)
    (settled : Locale.normalize (some tag) = tag) (filled : tag ≠ "") :
    variantOf bundles.source bundle tag = .ok none ∨
      ∃ variant ∈ set.variants, variantOf bundles.source bundle tag = .ok (some variant) := by
  cases known : bundles.messages? bundle tag with
  | none =>
    refine .inl (answeredOf ?_)
    simp [Bundles.source, settled, known]
  | some messages =>
    refine listedSupplied loaded fun locales discovered => ?_
    obtain ⟨catalogs, held, found⟩ := Option.bind_eq_some_iff.mp known
    have member : tag ∈ catalogs.keys := OrderedMap.keyMember.mpr ⟨messages, found⟩
    obtain rfl := Except.ok.inj discovered
    simp [held, member, filled]

theorem loadedOpens {path : Path} {tree : FileTree} (valid : Target.isBundleName bundle = true)
    (loaded : (((Catalog.Directory.usual path).source tree).loadSet bundle).outcome = .ok set) :
    ∃ place, tree.Opens path place := by
  obtain ⟨default, -⟩ := Source.loadSetOutcome.mp loaded
  rcases Catalog.Directory.findOutcome.mp default with ⟨-, missing⟩ | ⟨file, -, found, -⟩
  · simp at missing
  · obtain ⟨-, place, -, opens, -⟩ := Catalog.Directory.foundPath valid found
    exact ⟨place, opens⟩

theorem directorySupplied {path : Path} {tree : FileTree}
    (valid : Target.isBundleName bundle = true)
    (loaded : (((Catalog.Directory.usual path).source tree).loadSet bundle).outcome = .ok set)
    (settled : Locale.normalize (some tag) = tag) (filled : tag ≠ "")
    (can : (directory path tree).CanAsk bundle tag) :
    variantOf ((Catalog.Directory.usual path).source tree) bundle tag = .ok none ∨
      ∃ variant ∈ set.variants,
        variantOf ((Catalog.Directory.usual path).source tree) bundle tag = .ok (some variant) := by
  obtain ⟨place, opens⟩ := loadedOpens valid loaded
  by_cases shape : Locale.isTag tag = true
  · have asked := Catalog.Directory.settledPath valid opens shape settled
    rw [if_pos (can shape)] at asked
    cases found : (Catalog.Directory.fileNamesOf bundle tag).find?
        (Catalog.Directory.lists tree path ·) with
    | none =>
      rw [found] at asked
      exact .inl (answeredOf (Catalog.Directory.findOutcome.mpr (.inl ⟨asked, rfl⟩)))
    | some name =>
      have listed := (Catalog.Directory.openedLists opens).mp (List.find?_some found)
      have told := @Catalog.Directory.tagRead path bundle valid tag name shape
        (List.mem_of_find?_eq_some found)
      refine listedSupplied loaded fun locales discovered => ?_
      exact (Catalog.Directory.listedLocale discovered).mpr
        ⟨place, name, tag, opens, listed, told, shape, settled.symm⟩
  · -- A text without the shape of a tag is never looked for.
    have other : ¬ Catalog.Directory.IsAskable
        (Locale.normalize (some (Locale.normalize (some tag)))) := by
      rw [settled, settled]
      exact not_or.mpr ⟨filled, shape⟩
    have asked := @Catalog.Directory.unaskedPath tree path bundle _ other
    exact .inl (answeredOf (Catalog.Directory.findOutcome.mpr (.inl ⟨asked, rfl⟩)))

theorem suppliedVariant {shelf : Shelf} (accepts : shelf.Accepts bundle)
    (loaded : (shelf.source.loadSet bundle).outcome = .ok set)
    (settled : Locale.normalize (some tag) = tag) (filled : tag ≠ "")
    (can : shelf.CanAsk bundle tag) :
    variantOf shelf.source bundle tag = .ok none ∨
      ∃ variant ∈ set.variants, variantOf shelf.source bundle tag = .ok (some variant) := by
  cases shelf with
  | memory bundles => exact memorySupplied loaded settled filled
  | directory path tree => exact directorySupplied accepts loaded settled filled can

theorem refusedVariant {shelf : Shelf} (accepts : shelf.Accepts bundle)
    (loaded : (shelf.source.loadSet bundle).outcome = .ok set)
    (settled : Locale.normalize (some tag) = tag) (cannot : ¬ shelf.CanAsk bundle tag) :
    variantOf shelf.source bundle tag = .error (.breach (.file .nameTooLong)) := by
  cases shelf with
  | memory bundles => exact absurd trivial cannot
  | directory path tree =>
    obtain ⟨place, opens⟩ := loadedOpens accepts loaded
    obtain ⟨shape, long⟩ : Locale.isTag tag = true ∧
        ¬ FileTree.Fits path (Catalog.Directory.longestOf bundle tag) := by
      simpa [CanAsk] using cannot
    have asked := Catalog.Directory.settledPath accepts opens shape settled
    rw [if_neg long] at asked
    have found : (((Catalog.Directory.usual path).source tree).find bundle tag).outcome =
        .error (.breach (.file .nameTooLong)) :=
      bindOutcomeError.mpr (.inl (ofFilesError.mpr ⟨_, asked, rfl⟩))
    have answer : variantOf ((Catalog.Directory.usual path).source tree) bundle tag =
        .error (.breach (.file .nameTooLong)) := by
      simp [variantOf, found]
    exact answer

/-- A catalog made of a set: it has every key of the default, and each of its templates is one of the
default or of a variant. -/
structure MadeOf (set : CatalogSet) (catalog : Catalog) : Prop where
  known : ∀ key ∈ set.default.keys, ∃ template, catalog.get? key = some template
  origin : ∀ key template, catalog.get? key = some template →
    ∃ held ∈ set.default :: set.variants, held.get? key = some template

theorem defaultMade (set : CatalogSet) : MadeOf set set.default :=
  ⟨fun _ mem => OrderedMap.keyMember.mp mem, fun _ _ found => ⟨_, List.mem_cons_self, found⟩⟩

theorem overlayMade {catalog variant : Catalog} (made : MadeOf set catalog)
    (mem : variant ∈ set.variants) : MadeOf set (catalog.overlay variant) := by
  have laid : ∀ key, (catalog.overlay variant).get? key =
      (variant.get? key).or (catalog.get? key) :=
    fun key => OrderedMap.overlayGet catalog.messages variant.messages key
  constructor
  · intro key known
    obtain ⟨template, found⟩ := made.known key known
    rw [laid, found]
    cases variant.get? key with
    | none => exact ⟨template, rfl⟩
    | some other => exact ⟨other, rfl⟩
  · intro key template found
    rw [laid] at found
    rcases Option.or_eq_some_iff.mp found with own | ⟨-, below⟩
    · exact ⟨variant, List.mem_cons_of_mem _ mem, own⟩
    · exact made.origin key template below

theorem layersMade {source : Source} {tags : List String}
    (supplied : ∀ tag ∈ tags, variantOf source bundle tag = .ok none ∨
      ∃ variant ∈ set.variants, variantOf source bundle tag = .ok (some variant))
    {base : Catalog} (made : MadeOf set base) :
    ∃ catalog, layered source bundle base tags = .ok catalog ∧ MadeOf set catalog := by
  -- By induction on the tags; the catalog under them grows with each variant.
  induction tags generalizing base with
  | nil => exact ⟨base, rfl, made⟩
  | cons tag rest ih =>
    obtain ⟨first, later⟩ := List.forall_mem_cons.mp supplied
    unfold layered
    rcases first with missing | ⟨variant, mem, found⟩
    · rw [missing]
      exact ih later made
    · rw [found]
      exact ih later (overlayMade made mem)

theorem layersRefused {source : Source} {tags : List String} {failure : Failure}
    (answered : ∀ tag ∈ tags, variantOf source bundle tag = .error failure ∨
      ∃ answer, variantOf source bundle tag = .ok answer)
    (refused : ∃ tag ∈ tags, variantOf source bundle tag = .error failure) (base : Catalog) :
    layered source bundle base tags = .error failure := by
  induction tags generalizing base with
  | nil => simp at refused
  | cons tag rest ih =>
    obtain ⟨first, later⟩ := List.forall_mem_cons.mp answered
    unfold layered
    rcases first with failed | ⟨answer, found⟩
    · rw [failed]
    · -- Variants before the refused one are laid, but the refusal outweighs them.
      have others : ∃ tag ∈ rest, variantOf source bundle tag = .error failure := by
        obtain ⟨other, mem, failed⟩ := refused
        rcases List.mem_cons.mp mem with rfl | inside
        · rw [found] at failed
          contradiction
        · exact ⟨other, inside, failed⟩
      rw [found]
      cases answer with
      | none => exact ih later others base
      | some variant => exact ih later others (base.overlay variant)

theorem requestSettled (bundle : String) (defaultLocale locale : Option String) :
    Locale.normalize (some (Locale.normalize (some ((new bundle defaultLocale).tagOf locale)))) =
      Locale.normalize (some ((new bundle defaultLocale).tagOf locale)) := by
  unfold tagOf
  dsimp only
  split
  · exact Locale.normalizeThrice defaultLocale
  · exact Locale.normalizeThrice locale

theorem requestedCatalog {shelf : Shelf} (accepts : shelf.Accepts bundle)
    (loaded : (shelf.source.loadSet bundle).outcome = .ok set)
    (settled : Locale.normalize (some (Locale.normalize (some tag))) = Locale.normalize (some tag)) :
    ((∀ layer ∈ (Locale.fallbackChain (some tag)).dropLast, shelf.CanAsk bundle layer) →
      ∃ catalog, catalogFor shelf.source bundle tag = .ok catalog ∧ MadeOf set catalog) ∧
    ((∃ layer ∈ (Locale.fallbackChain (some tag)).dropLast, ¬ shelf.CanAsk bundle layer) →
      catalogFor shelf.source bundle tag = .error (.breach (.file .nameTooLong))) := by
  have default := Source.loadOutcome.mpr (Source.loadSetOutcome.mp loaded).1
  have layers : ∀ layer, layer ∈ layersOf tag ↔
      layer ∈ (Locale.fallbackChain (some tag)).dropLast := fun layer => List.mem_reverse
  constructor
  · intro can
    obtain ⟨catalog, made, stands⟩ := @layersMade bundle set shelf.source (layersOf tag)
      (fun layer mem => by
        obtain ⟨fixed, filled⟩ := Locale.chainSettled settled ((layers layer).mp mem)
        exact suppliedVariant accepts loaded fixed filled (can layer ((layers layer).mp mem)))
      set.default (defaultMade set)
    refine ⟨{ catalog with locale := tag }, ?_, stands.known, stands.origin⟩
    simp only [catalogFor, default, made, Except.map]
  · intro ⟨layer, mem, cannot⟩
    have refused := @layersRefused bundle shelf.source (layersOf tag) (.breach (.file .nameTooLong))
      (fun layer mem => by
        obtain ⟨fixed, filled⟩ := Locale.chainSettled settled ((layers layer).mp mem)
        by_cases can : shelf.CanAsk bundle layer
        · rcases suppliedVariant accepts loaded fixed filled can with missing | ⟨variant, -, found⟩
          · exact .inr ⟨_, missing⟩
          · exact .inr ⟨_, found⟩
        · exact .inl (refusedVariant accepts loaded fixed can))
      ⟨layer, (layers layer).mpr mem,
        refusedVariant accepts loaded (Locale.chainSettled settled mem).1 cannot⟩ set.default
    simp only [catalogFor, default, refused, Except.map]

end Shelf

end Phrasebook

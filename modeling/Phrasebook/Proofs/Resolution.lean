import Phrasebook.Proofs.Collections
import Phrasebook.Proofs.Outcome
import Phrasebook.Resolver

/-! Resolution without memory. What a resolver remembers is what its source answers anyway, so after any
requests it resolves a locale as a fresh one does. -/
namespace Phrasebook.Resolver

def variantOf (source : Source) (bundle tag : String) : Except Failure (Option Catalog) :=
  match (source.find bundle tag).outcome with
  | .ok variant => .ok variant
  | .error (.issue (.catalogFormat ..)) => .ok none
  | .error failure => .error failure

def layered (source : Source) (bundle : String) (base : Catalog) : List String → Except Failure Catalog
  | [] => .ok base
  | tag :: rest =>
    match variantOf source bundle tag with
    | .error failure => .error failure
    | .ok none => layered source bundle base rest
    | .ok (some variant) => layered source bundle (base.overlay variant) rest

def layersOf (tag : String) : List String := (Locale.fallbackChain (some tag)).dropLast.reverse

def catalogFor (source : Source) (bundle tag : String) : Except Failure Catalog :=
  match (source.load bundle "").outcome with
  | .error failure => .error failure
  | .ok default =>
    (layered source bundle default (layersOf tag)).map fun catalog => { catalog with locale := tag }

structure Settled (source : Source) (r : Resolver) : Prop where
  default : ∀ catalog, r.default = some catalog → (source.load r.bundle "").outcome = .ok catalog
  variants : ∀ tag variant, r.variants.get? tag = some variant →
    variantOf source r.bundle tag = .ok variant
  resolved : ∀ tag catalog, r.resolved.get? tag = some catalog →
    catalogFor source r.bundle tag = .ok catalog

/-- A step that keeps to a resolver: it stays settled, and serves the same bundle by the same
default. -/
structure Keeps (source : Source) (before after : Resolver) : Prop where
  settled : Settled source after
  bundle : after.bundle = before.bundle
  defaultLocale : after.defaultLocale = before.defaultLocale

variable {source : Source}

theorem clearSettled (r : Resolver) : Settled source r.clear :=
  ⟨fun _ missing => by simp [clear] at missing, fun _ _ missing => by simp [clear] at missing,
    fun _ _ missing => by simp [clear] at missing⟩

theorem newSettled (bundle : String) (defaultLocale : Option String) :
    Settled source (new bundle defaultLocale) :=
  clearSettled (new bundle defaultLocale)

theorem Keeps.refl {r : Resolver} (settled : Settled source r) : Keeps source r r :=
  ⟨settled, rfl, rfl⟩

theorem Keeps.trans {first second third : Resolver} (one : Keeps source first second)
    (two : Keeps source second third) : Keeps source first third :=
  ⟨two.settled, two.bundle.trans one.bundle, two.defaultLocale.trans one.defaultLocale⟩

theorem Keeps.tagOf {before after : Resolver} (kept : Keeps source before after)
    (locale : Option String) : after.tagOf locale = before.tagOf locale := by
  simp only [Resolver.tagOf, kept.defaultLocale]

theorem loadDefaultSettled {r : Resolver} (settled : Settled source r) :
    (loadDefault source r).report.outcome = (source.load r.bundle "").outcome ∧
      Keeps source r (loadDefault source r).state := by
  unfold loadDefault
  split
  · rename_i catalog known
    exact ⟨(settled.default catalog known).symm, .refl settled⟩
  · dsimp only
    split
    · rename_i catalog loaded
      refine ⟨rfl, ⟨?_, settled.variants, settled.resolved⟩, rfl, rfl⟩
      intro other same
      cases same
      exact loaded
    · exact ⟨rfl, .refl settled⟩

theorem rememberVariant {r : Resolver} (settled : Settled source r) {tag : String}
    {variant : Option Catalog} (answer : variantOf source r.bundle tag = .ok variant) :
    Keeps source r { r with variants := r.variants.insert tag variant } := by
  refine ⟨⟨settled.default, ?_, settled.resolved⟩, rfl, rfl⟩
  intro other found known
  simp only [OrderedMap.insertGet] at known
  split at known
  · rename_i same
    subst same
    cases known
    exact answer
  · exact settled.variants other found known

theorem loadVariantSettled {r : Resolver} (settled : Settled source r) (tag : String) :
    (loadVariant source r tag).report.outcome = variantOf source r.bundle tag ∧
      Keeps source r (loadVariant source r tag).state := by
  unfold loadVariant
  split
  · rename_i variant known
    exact ⟨(settled.variants tag variant known).symm, .refl settled⟩
  · dsimp only
    split
    · rename_i variant found
      have answer : variantOf source r.bundle tag = .ok variant := by simp [variantOf, found]
      exact ⟨found.trans answer.symm, rememberVariant settled answer⟩
    · rename_i file reason bundle found
      -- A variant that cannot be read is remembered as missing.
      have answer : variantOf source r.bundle tag = .ok none := by simp [variantOf, found]
      exact ⟨answer.symm, rememberVariant settled answer⟩
    · rename_i failure other found
      have answer : variantOf source r.bundle tag = .error failure := by
        unfold variantOf
        rw [found]
        split
        · contradiction
        · rename_i file reason bundle same
          exact absurd (Except.error.inj same) (other file reason bundle)
        · rename_i same
          exact congrArg _ (Except.error.inj same).symm
      exact ⟨found.trans answer.symm, .refl settled⟩

theorem layerSettled {r : Resolver} (settled : Settled source r) (base : Catalog)
    (applied tags : List String) :
    (layer source r base applied tags).report.outcome.map Prod.fst =
        layered source r.bundle base tags ∧
      Keeps source r (layer source r base applied tags).state := by
  -- By induction on the tags; the resolver has changed after each.
  induction tags generalizing r base applied with
  | nil => exact ⟨rfl, .refl settled⟩
  | cons tag rest ih =>
    obtain ⟨outcome, kept⟩ := loadVariantSettled settled tag
    unfold layer layered
    dsimp only
    rw [← outcome]
    split
    · rename_i failure failed
      rw [failed]
      exact ⟨rfl, kept⟩
    · rename_i variant found
      rw [found]
      cases variant with
      | none =>
        obtain ⟨later, keptLater⟩ := ih kept.settled base applied
        rw [kept.bundle] at later
        exact ⟨later, kept.trans keptLater⟩
      | some catalog =>
        obtain ⟨later, keptLater⟩ := ih kept.settled (base.overlay catalog) (applied ++ [tag])
        rw [kept.bundle] at later
        exact ⟨later, kept.trans keptLater⟩

theorem populateSettled {r : Resolver} (settled : Settled source r) (tag : String) :
    (populate source r tag).report.outcome = catalogFor source r.bundle tag ∧
      Keeps source r (populate source r tag).state := by
  obtain ⟨outcome, kept⟩ := loadDefaultSettled settled
  unfold populate catalogFor layersOf
  dsimp only
  -- Which tags there are does not matter here.
  generalize (Locale.fallbackChain (some tag)).dropLast.reverse = tags
  rw [← outcome]
  cases loaded : (loadDefault source r).report.outcome with
  | error failure => exact ⟨rfl, kept⟩
  | ok default =>
    obtain ⟨layers, keptLayers⟩ := layerSettled kept.settled default [] tags
    have whole := kept.trans keptLayers
    rw [kept.bundle] at layers
    dsimp only
    rw [← layers]
    cases found : (layer source (loadDefault source r).state default [] tags).report.outcome with
    | error failure => exact ⟨rfl, whole⟩
    | ok layered => exact ⟨rfl, whole⟩

theorem resolveSettled {r : Resolver} (settled : Settled source r) (locale : Option String) :
    (resolve source r locale).report.outcome = catalogFor source r.bundle (r.tagOf locale) ∧
      Keeps source r (resolve source r locale).state := by
  obtain ⟨outcome, kept⟩ := populateSettled settled (r.tagOf locale)
  unfold resolve
  dsimp only
  split
  · rename_i catalog known
    exact ⟨(settled.resolved _ catalog known).symm, .refl settled⟩
  · split
    · rename_i catalog found
      refine ⟨outcome, ⟨kept.settled.default, kept.settled.variants, ?_⟩, kept.bundle,
        kept.defaultLocale⟩
      intro tag other known
      simp only [OrderedMap.insertGet] at known
      split at known
      · rename_i same
        cases known
        rw [← same, ← found, outcome]
        exact congrArg (catalogFor source · _) kept.bundle
      · exact kept.settled.resolved tag other known
    · exact ⟨outcome, kept⟩

theorem getStringSettled {r : Resolver} (settled : Settled source r) (locale : Option String)
    (key : String) :
    (getString source r locale key).report.outcome =
        (match catalogFor source r.bundle (r.tagOf locale) with
        | .ok catalog => .ok ((catalog.get? key).getD (missingKeyMarker key))
        | .error (.breach breach) => .error (.breach breach)
        | .error _ => .ok (missingKeyMarker key)) ∧
      Keeps source r (getString source r locale key).state := by
  obtain ⟨outcome, kept⟩ := resolveSettled settled locale
  unfold getString
  dsimp only
  rw [← outcome]
  split
  · rename_i breach failed
    rw [failed]
    exact ⟨rfl, kept⟩
  · rename_i failure other failed
    rw [failed]
    refine ⟨?_, kept⟩
    cases failure with
    | breach breach => exact absurd rfl (other breach)
    | issue issue => rfl
    | validation bundle issues => rfl
    | declaration reason file => rfl
  · rename_i catalog found
    rw [found]
    refine ⟨?_, kept⟩
    unfold templateIn
    cases known : catalog.get? key with
    | none => simp [known]
    | some template => simp [known]

theorem Keeps.resolves {before after : Resolver} (kept : Keeps source before after)
    (settled : Settled source before) (locale : Option String) :
    (resolve source after locale).report.outcome = (resolve source before locale).report.outcome := by
  rw [(resolveSettled kept.settled locale).1, (resolveSettled settled locale).1, kept.bundle,
    kept.tagOf]

theorem Keeps.getsStrings {before after : Resolver} (kept : Keeps source before after)
    (settled : Settled source before) (locale : Option String) (key : String) :
    (getString source after locale key).report.outcome =
      (getString source before locale key).report.outcome := by
  rw [(getStringSettled kept.settled locale key).1, (getStringSettled settled locale key).1,
    kept.bundle, kept.tagOf]

inductive Request where
  | resolve (locale : Option String)
  | getString (locale : Option String) (key : String)
  | clear
  deriving DecidableEq, Repr

def after (source : Source) (r : Resolver) : Request → Resolver
  | .resolve locale => (r.resolve source locale).state
  | .getString locale key => (r.getString source locale key).state
  | .clear => r.clear

def run (source : Source) (r : Resolver) (requests : List Request) : Resolver :=
  requests.foldl (after source) r

theorem afterKeeps {r : Resolver} (settled : Settled source r) (request : Request) :
    Keeps source r (after source r request) := by
  cases request with
  | resolve locale => exact (resolveSettled settled locale).2
  | getString locale key => exact (getStringSettled settled locale key).2
  | clear => exact ⟨clearSettled r, rfl, rfl⟩

theorem runKeeps {r : Resolver} (settled : Settled source r) (requests : List Request) :
    Keeps source r (run source r requests) := by
  induction requests generalizing r with
  | nil => exact .refl settled
  | cons request rest ih =>
    have first := afterKeeps settled request
    exact first.trans (ih first.settled)

end Phrasebook.Resolver

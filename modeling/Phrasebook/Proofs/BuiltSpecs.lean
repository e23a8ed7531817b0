import Phrasebook.Proofs.Consistency
import Phrasebook.Proofs.TemplateShapes

/-! What an accessor that was built says of its catalogs: one method for each key of the default catalog,
in order, with the parameters of its template, and the locales of the variants that translate it. -/
namespace Phrasebook.Accessor

open Number OrderedMap

theorem settledModeKept {place mode setBy shapes} :
    (resolveMode place (some mode) setBy shapes).1 = mode := by
  induction shapes with
  | nil => rfl
  | cons found rest ih =>
    obtain ⟨key, shape⟩ := found
    simp only [resolveMode]
    split
    · exact ih
    · split
      · exact ih
      · exact ih

theorem resolvedModeHeld {place declared setBy shapes}
    (clean : (resolveMode place declared setBy shapes).2 = []) :
    ∀ found ∈ shapes, found.2.isEmpty = false →
      found.2.mode = (resolveMode place declared setBy shapes).1 := by
  cases declared with
  | some mode =>
    rw [settledModeKept]
    exact settledMode.mp clean
  | none =>
    induction shapes with
    | nil => simp
    | cons found rest ih =>
      obtain ⟨key, shape⟩ := found
      cases empty : shape.isEmpty with
      | true =>
        have same : resolveMode place none setBy ((key, shape) :: rest) =
            resolveMode place none setBy rest := by simp [resolveMode, empty]
        rw [same] at clean ⊢
        exact List.forall_mem_cons.mpr ⟨by simp [empty], ih clean⟩
      | false =>
        -- From the first template with placeholders on its mode is the settled one.
        have same : resolveMode place none setBy ((key, shape) :: rest) =
            resolveMode place (some shape.mode) (some key) rest := by simp [resolveMode, empty]
        rw [same] at clean ⊢
        rw [settledModeKept]
        exact List.forall_mem_cons.mpr ⟨fun _ => rfl, settledMode.mp clean⟩

theorem parameterCount (shape : Shape) : (parametersOf shape).length = shape.arity := by
  have placeholders := congrArg List.length (Shape.parameterPlaceholders shape)
  rw [List.length_map] at placeholders
  rw [placeholders]
  cases shape with
  | noArgs => rfl
  | positional indices => simp
  | named names => simp [Shape.placeholders, Shape.arity]

theorem reservedLower {name : String} (reserved : name ∈ reservedMethods) : Text.lower name = name := by
  simp only [reservedMethods, List.mem_cons, List.not_mem_nil, or_false] at reserved
  rcases reserved with rfl | rfl | rfl <;> decide +kernel

/-- A method as its template in the default catalog asks for it. -/
structure Descriptor.Answers (d : Descriptor) (default : Catalog) (shape : Shape) : Prop where
  held : default.get? d.key = some d.template
  read : Shape.ofTemplate d.template = .ok shape
  /-- The shape lists the fields of the template in the order of their first occurrence. -/
  ordered : ∃ chunks, Chunk.spell chunks = d.template.toList ∧
    shape.placeholders = distinct (Chunk.fields chunks)
  mode : d.mode = shape.mode
  arity : d.parameters.length = shape.arity
  positional : d.mode = .positional →
    d.parameters = (List.range shape.arity).map fun i => ⟨"arg" ++ natText i, .positional i⟩
  named : d.mode = .named → d.parameters.map Parameter.placeholder = shape.names.map .named

/-- An accessor that answers for every key of the default catalog and for nothing else. -/
structure Spec.Mirrors (spec : Spec) (options : Options) (catalogs : CatalogSet) : Prop where
  keys : spec.keys = catalogs.default.keys
  methods : ∀ d ∈ spec.descriptors, d.method = methodName d.key options.delimiter options.naming
  distinctMethods : (spec.descriptors.map fun d => Text.lower d.method).Nodup
  freeMethods : ∀ d ∈ spec.descriptors,
    d.method ∉ reservedMethods ∧ Text.lower d.method ∉ reservedMethods
  declared : ∀ mode, options.mode = some mode → spec.mode = mode
  modes : ∀ d ∈ spec.descriptors, d.mode = .noArgs ∨ d.mode = spec.mode
  templates : ∀ d ∈ spec.descriptors, ∃ shape, d.Answers catalogs.default shape
  translations : ∀ d ∈ spec.descriptors,
    d.translations = (catalogs.variants.filter fun c => d.key ∈ c.keys).map Catalog.locale
  locales : spec.locales = catalogs.variants.map Catalog.locale

theorem shapeAnswers {d : Descriptor} {default : Catalog} {shape : Shape}
    (held : default.get? d.key = some d.template) (read : Shape.ofTemplate d.template = .ok shape)
    (mode : d.mode = shape.mode) (parameters : d.parameters = parametersOf shape) :
    d.Answers default shape where
  held := held
  read := read
  ordered := Shape.orderedChunks read
  mode := mode
  arity := parameters ▸ parameterCount shape
  positional isOne := by
    cases shape with
    | positional indices => exact parameters
    | noArgs => cases mode.symm.trans isOne
    | named names => cases mode.symm.trans isOne
  named isOne := by
    cases shape with
    | named names => exact parameters ▸ Shape.parameterPlaceholders (.named names)
    | noArgs => cases mode.symm.trans isOne
    | positional indices => cases mode.symm.trans isOne

/-- Every accessor that is built mirrors its catalogs: no template is dropped on the way, because what a
pass drops it also tells as an issue. -/
theorem builtMirrors {options : Options} {catalogs : CatalogSet} {spec : Spec}
    (built : (build options catalogs).outcome = .ok spec) : spec.Mirrors options catalogs := by
  obtain ⟨shapes, passed, rfl⟩ := buildOutcome.mp built
  have clean := fun place => (@resolvedMode place options.mode none shapes).mpr passed.mode
  have answers : ∀ d ∈ describe options catalogs shapes, ∃ shape,
      d.Answers catalogs.default shape := by
    intro d mem
    obtain ⟨key, template, shape, held, found, rfl⟩ := describedMember.mp mem
    obtain ⟨text, holds, read⟩ := (shapeLookup passed.shaped).mp found
    obtain rfl : text = template := Option.some.inj (holds.symm.trans held)
    exact ⟨shape, shapeAnswers held read rfl rfl⟩
  constructor
  case keys => exact describedKeys passed.shaped
  case distinctMethods => exact passed.methods
  case locales => rfl
  case methods =>
    intro d mem
    obtain ⟨key, template, shape, -, -, rfl⟩ := describedMember.mp mem
    rfl
  case freeMethods =>
    intro d mem
    have free := passed.free d mem
    exact ⟨fun reserved => free (by rwa [reservedLower reserved]), free⟩
  case declared =>
    intro mode declares
    simp only [declares, settledModeKept]
  case modes =>
    intro d mem
    obtain ⟨shape, follows⟩ := answers d mem
    rw [follows.mode]
    cases empty : shape.isEmpty with
    | true =>
      cases shape with
      | noArgs => exact .inl rfl
      | positional indices => contradiction
      | named names => contradiction
    | false =>
      have listed : (d.key, shape) ∈ shapes :=
        (shapeMember passed.shaped).mpr ⟨d.template, getMember.mp follows.held, follows.read⟩
      exact .inr (resolvedModeHeld (clean _) _ listed empty)
  case templates => exact answers
  case translations =>
    intro d mem
    obtain ⟨key, template, shape, -, -, rfl⟩ := describedMember.mp mem
    refine congrArg _ (List.filter_congr fun c _ => ?_)
    rw [Bool.eq_iff_iff, containsKey, decide_eq_true_iff]
    rfl

def orders : CatalogSet where
  bundle := "orders"
  default :=
    { bundle := "orders"
      messages := .ofList
        [("order.total", "\x7bcount\x7d \x7bclass\x7d, \x7bcount\x7d in all"), ("order.none", "None")] }
  variants :=
    [{ bundle := "orders", locale := "de", messages := .ofList [("order.none", "Keine")] },
      { bundle := "orders", locale := "fr"
        messages := .ofList [("order.none", "Aucune"), ("order.total", "\x7bclass\x7d")] }]

def orderTotal : Descriptor where
  key := "order.total"
  method := "orderTotal"
  mode := .named
  parameters := [⟨"count", .named "count"⟩, ⟨"class_", .named "class"⟩]
  template := "\x7bcount\x7d \x7bclass\x7d, \x7bcount\x7d in all"
  translations := ["fr"]

def orderNone : Descriptor where
  key := "order.none"
  method := "orderNone"
  mode := .noArgs
  parameters := []
  template := "None"
  translations := ["de", "fr"]

def orderMessages : Spec where
  bundle := "orders"
  className := "OrdersMessages"
  mode := .named
  descriptors := [orderTotal, orderNone]
  locales := ["de", "fr"]

theorem ordersMirrored :
    (build {} orders).outcome = .ok orderMessages ∧ orderMessages.Mirrors {} orders := by
  have built : (build {} orders).outcome = .ok orderMessages := by decide +kernel
  exact ⟨built, builtMirrors built⟩

end Phrasebook.Accessor

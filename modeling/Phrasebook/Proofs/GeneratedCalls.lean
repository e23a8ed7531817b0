import Phrasebook.Proofs.Consistency
import Phrasebook.Proofs.Shelves
import Phrasebook.Proofs.Substitution
import Phrasebook.Proofs.TemplateShapes

/-! Calls of generated methods. A build checks every template of a set against the parameters of its
method, so that no template served from the set is one that the method's arguments do not fill. -/
namespace Phrasebook.Accessor

open Catalog.Directory OrderedMap Template

def Descriptor.invoke (d : Descriptor) (template : String) (arguments : List Value) : Report String :=
  if d.mode = .named then
    fillNamed template
      (.ofList ((d.parameters.map fun p => p.placeholder.fieldName).zip arguments))
  else fillPositional template arguments

/-- The parameter for a placeholder is passed an argument that is written so. -/
def Descriptor.Passes (d : Descriptor) (arguments : List Value) (p : Placeholder) (text : String) :
    Prop :=
  ∃ (i : Nat) (parameter : Parameter) (v : Value), d.parameters[i]? = some parameter ∧
    parameter.placeholder = p ∧ arguments[i]? = some v ∧ v.text? = some text

theorem builtCovers {options : Options} {set : CatalogSet} {spec : Spec} {d : Descriptor}
    (built : (build options set).outcome = .ok spec) (described : d ∈ spec.descriptors) :
    d.key ∈ set.default.keys ∧
    (∃ shape : Shape, d.mode = shape.mode ∧ d.parameters = parametersOf shape ∧
      shape.placeholders.Nodup) ∧
    ∀ held ∈ set.default :: set.variants, ∀ template, held.get? d.key = some template →
      ∃ chunks, Chunk.spell chunks = template.toList ∧
        ∀ p ∈ Chunk.fields chunks, p ∈ d.parameters.map Parameter.placeholder := by
  obtain ⟨shapes, passed, rfl⟩ := buildOutcome.mp built
  obtain ⟨key, original, shape, default, found, rfl⟩ := describedMember.mp described
  obtain ⟨text, held, read⟩ := (shapeLookup passed.shaped).mp found
  obtain ⟨own, spelled, distinct, fields⟩ := Shape.shapedChunks read
  refine ⟨defaultKey default, ⟨shape, rfl, rfl, distinct⟩, ?_⟩
  intro catalog mem template holds
  rcases List.mem_cons.mp mem with rfl | variant
  · obtain rfl : text = template := Option.some.inj (held.symm.trans holds)
    exact ⟨own, spelled, fun p inside => Shape.ownParameters ((fields p).mp inside)⟩
  · obtain ⟨same, other, readAgain, readOther, fits⟩ :=
      (builtConsistent passed).compatible catalog variant key text template held holds
    obtain rfl : same = shape := Except.ok.inj (readAgain.symm.trans read)
    obtain ⟨chunks, spelledOther, -, others⟩ := Shape.shapedChunks readOther
    exact ⟨chunks, spelledOther, fun p inside => Shape.coveredVariant fits ((others p).mp inside)⟩

def Descriptor.passed (d : Descriptor) (arguments : List Value) : Arguments :=
  if d.mode = .named then
    .named (.ofList ((d.parameters.map fun p => p.placeholder.fieldName).zip arguments))
  else .positional arguments

theorem invokeFills (d : Descriptor) (template : String) (arguments : List Value) :
    d.invoke template arguments = fill (d.passed arguments) template := by
  unfold Descriptor.invoke Descriptor.passed
  split <;> rfl

theorem passedArguments {d : Descriptor} {shape : Shape} (mode : d.mode = shape.mode)
    (parameters : d.parameters = parametersOf shape) (arguments : List Value) :
    d.passed arguments =
      match shape with
      | .named names => .named (.ofList (names.zip arguments))
      | _ => .positional arguments := by
  cases shape with
  | noArgs => simp [Descriptor.passed, mode, Shape.mode]
  | positional indices => simp [Descriptor.passed, mode, Shape.mode]
  | named names =>
    have placeholders := Shape.parameterPlaceholders (.named names)
    have texts := congrArg (List.map Placeholder.fieldName) placeholders
    have fields : (d.parameters.map fun p => p.placeholder.fieldName) = names := by
      rw [parameters]
      simpa [Shape.placeholders, Placeholder.fieldName, Function.comp_def] using texts
    simp [Descriptor.passed, mode, Shape.mode, fields]

theorem suppliedArgument {d : Descriptor} {shape : Shape} {arguments : List Value}
    (mode : d.mode = shape.mode) (parameters : d.parameters = parametersOf shape)
    (distinct : shape.placeholders.Nodup) (count : arguments.length = d.parameters.length)
    {p : Placeholder} (mem : p ∈ d.parameters.map Parameter.placeholder) :
    ∃ (i : Nat) (parameter : Parameter) (v : Value), d.parameters[i]? = some parameter ∧
      parameter.placeholder = p ∧ arguments[i]? = some v ∧
      (d.passed arguments).supplied? p = some v := by
  obtain ⟨i, keyed⟩ := List.mem_iff_getElem?.mp mem
  obtain ⟨parameter, standing, same⟩ : ∃ parameter, d.parameters[i]? = some parameter ∧
      parameter.placeholder = p := by simpa using keyed
  have inside : i < arguments.length := by
    have := (List.getElem?_eq_some_iff.mp standing).1
    omega
  have valued : arguments[i]? = some arguments[i] := List.getElem?_eq_getElem inside
  refine ⟨i, parameter, arguments[i], standing, same, valued, ?_⟩
  have placeholders := Shape.parameterPlaceholders shape
  have size := congrArg List.length placeholders
  rw [← parameters] at placeholders size
  rw [placeholders] at keyed
  rw [passedArguments mode parameters]
  cases shape with
  | noArgs => simp [Shape.placeholders] at keyed
  | positional indices =>
    have itself : p = .positional i := by
      obtain ⟨below, same⟩ := List.getElem?_eq_some_iff.mp keyed
      simpa using same.symm
    rw [itself]
    exact valued
  | named names =>
    obtain ⟨name, named, rfl⟩ : ∃ name, names[i]? = some name ∧ .named name = p := by
      simpa [Shape.placeholders] using keyed
    have namesDistinct : names.Nodup := List.Nodup.of_map _ distinct
    have member : (name, arguments[i]) ∈ names.zip arguments :=
      List.mem_of_getElem? (List.getElem?_zip_eq_some.mpr ⟨named, valued⟩)
    have sameCount : names.length = arguments.length := by
      simp only [List.length_map, Shape.placeholders] at size
      omega
    exact (ofZipMember namesDistinct sameCount).mpr member

theorem servedArguments {d : Descriptor} {shape : Shape} {arguments : List Value}
    (mode : d.mode = shape.mode) (parameters : d.parameters = parametersOf shape)
    (distinct : shape.placeholders.Nodup) (count : arguments.length = d.parameters.length)
    (small : ∀ p ∈ d.parameters, ∀ i, p.placeholder = .positional i → i ≤ maxSize)
    (written : ∀ v ∈ arguments, ∃ text, v.text? = some text)
    {p : Placeholder} (mem : p ∈ d.parameters.map Parameter.placeholder) :
    (d.passed arguments).Serves p ∧ d.Passes arguments p ((d.passed arguments).textOf p) := by
  obtain ⟨i, parameter, v, standing, rfl, valued, supplied⟩ :=
    suppliedArgument mode parameters distinct count mem
  obtain ⟨text, reads⟩ := written v (List.mem_of_getElem? valued)
  refine ⟨⟨⟨v, text, supplied, reads⟩, ?_⟩, i, parameter, v, standing, rfl, valued, ?_⟩
  · intro index same
    exact small parameter (List.mem_of_getElem? standing) index same
  · simp [Arguments.textOf, supplied, reads]

def answered (shelf : Shelf) (bundle : String) (defaultLocale : Option String)
    (history : List Resolver.Request) (locale : Option String) (key : String) :
    Except Failure String :=
  ((Resolver.run shelf.source (Resolver.new bundle defaultLocale) history).getString shelf.source
    locale key).report.outcome

def variantsAsked (bundle : String) (defaultLocale locale : Option String) : List String :=
  (Locale.fallbackChain (some ((Resolver.new bundle defaultLocale).tagOf locale))).dropLast

theorem answeredKey {shelf : Shelf} {bundle : String} {set : CatalogSet}
    (accepts : shelf.Accepts bundle) (loaded : (shelf.source.loadSet bundle).outcome = .ok set)
    (defaultLocale locale : Option String) (history : List Resolver.Request) {key : String}
    (known : key ∈ set.default.keys) :
    ((∀ tag ∈ variantsAsked bundle defaultLocale locale, shelf.CanAsk bundle tag) →
      ∃ template, answered shelf bundle defaultLocale history locale key = .ok template ∧
        ∃ held ∈ set.default :: set.variants, held.get? key = some template) ∧
    ((∃ tag ∈ variantsAsked bundle defaultLocale locale, ¬ shelf.CanAsk bundle tag) →
      answered shelf bundle defaultLocale history locale key =
        .error (.breach (.file .nameTooLong))) := by
  have kept := @Resolver.runKeeps shelf.source _ (Resolver.newSettled bundle defaultLocale) history
  have answer := (Resolver.getStringSettled kept.settled locale key).1
  rw [kept.tagOf, kept.bundle] at answer
  obtain ⟨served, refused⟩ := Shelf.requestedCatalog accepts loaded
    (Shelf.requestSettled bundle defaultLocale locale)
  constructor
  · intro can
    obtain ⟨catalog, found, made⟩ := served can
    obtain ⟨template, held⟩ := made.known key known
    refine ⟨template, ?_, made.origin key template held⟩
    have bundled : (Resolver.new bundle defaultLocale).bundle = bundle := rfl
    rw [bundled, found] at answer
    simpa [answered, held] using answer
  · intro cannot
    have bundled : (Resolver.new bundle defaultLocale).bundle = bundle := rfl
    rw [bundled, refused cannot] at answer
    exact answer

/-- A generated call is never given a template that its arguments do not fill, whatever was requested
before. The one request that it cannot answer is for a locale whose file name is too long to look
for. -/
theorem generatedCallFills (shelf : Shelf) (bundle : String) (set : CatalogSet) (options : Options)
    (spec : Spec) (d : Descriptor) (arguments : List Value) (defaultLocale locale : Option String)
    (history : List Resolver.Request) (accepts : shelf.Accepts bundle)
    (loaded : (shelf.source.loadSet bundle).outcome = .ok set)
    (built : (build options set).outcome = .ok spec) (described : d ∈ spec.descriptors)
    (small : ∀ p ∈ d.parameters, ∀ i, p.placeholder = .positional i → i ≤ maxSize)
    (count : arguments.length = d.parameters.length)
    (written : ∀ v ∈ arguments, ∃ text, v.text? = some text) :
    (d.parameters.map Parameter.placeholder).Nodup ∧
    ((∀ tag ∈ variantsAsked bundle defaultLocale locale, shelf.CanAsk bundle tag) →
      ∃ (template : String) (chunks : List Chunk) (texts : Placeholder → String),
        answered shelf bundle defaultLocale history locale d.key = .ok template ∧
        (∃ held ∈ set.default :: set.variants, held.get? d.key = some template) ∧
        Chunk.spell chunks = template.toList ∧
        (∀ p ∈ Chunk.fields chunks, d.Passes arguments p (texts p)) ∧
        d.invoke template arguments =
          pure (String.ofList (chunks.flatMap (Chunk.filled texts)))) ∧
    ((∃ tag ∈ variantsAsked bundle defaultLocale locale, ¬ shelf.CanAsk bundle tag) →
      answered shelf bundle defaultLocale history locale d.key =
        .error (.breach (.file .nameTooLong))) := by
  obtain ⟨known, ⟨shape, mode, parameters, distinct⟩, covers⟩ := builtCovers built described
  obtain ⟨served, refused⟩ := answeredKey accepts loaded defaultLocale locale history known
  refine ⟨parameters ▸ Shape.distinctParameters distinct, fun can => ?_, refused⟩
  obtain ⟨template, answer, held, mem, found⟩ := served can
  obtain ⟨chunks, spelled, covered⟩ := covers held mem template found
  have serves := fun p inside => servedArguments mode parameters distinct count small written
    (covered p inside)
  refine ⟨template, chunks, (d.passed arguments).textOf, answer, ⟨held, mem, found⟩, spelled,
    fun p inside => (serves p inside).2, ?_⟩
  rw [invokeFills]
  exact filledTemplate spelled fun p inside => (serves p inside).1

def greetings : CatalogSet where
  bundle := "messages"
  default := greeting "" "Hello" "messages.properties"
  variants := [greeting "fr" "Salut" "messages_fr.properties"]

def greetMethod : Descriptor where
  key := "greet"
  method := "greet"
  mode := .positional
  parameters := [⟨"arg0", .positional 0⟩]
  template := "Hello \x7b0\x7d"
  translations := ["fr"]

def greeter : Spec where
  bundle := "messages"
  className := "Messages"
  mode := .positional
  descriptors := [greetMethod]
  locales := ["fr"]

def greetingFolder : Shelf := .directory ⟨.relative, ["i18n"]⟩ (twoFiles "messages_fr.properties")

theorem greetingsLoaded : (greetingFolder.source.loadSet "messages").outcome = .ok greetings := by
  decide +kernel

theorem greeterBuilt : (build {} greetings).outcome = .ok greeter := by
  decide +kernel

theorem frenchCallFills :
    greetMethod.parameters.length = 1 ∧
    ∃ (template : String) (chunks : List Chunk) (texts : Placeholder → String),
      answered greetingFolder "messages" none [.getString none "greet", .clear] (some "FR") "greet" =
        .ok template ∧
      (∃ held ∈ greetings.default :: greetings.variants, held.get? "greet" = some template) ∧
      Chunk.spell chunks = template.toList ∧
      (∀ p ∈ Chunk.fields chunks, greetMethod.Passes [.text "Ada"] p (texts p)) ∧
      greetMethod.invoke template [.text "Ada"] =
        pure (String.ofList (chunks.flatMap (Chunk.filled texts))) := by
  have small : ∀ p ∈ greetMethod.parameters, ∀ i, p.placeholder = .positional i → i ≤ maxSize := by
    intro p mem i same
    obtain rfl : p = ⟨"arg0", .positional 0⟩ := List.mem_singleton.mp mem
    cases same
    decide
  have written : ∀ v ∈ [Value.text "Ada"], ∃ text, v.text? = some text := by
    intro v mem
    obtain rfl := List.mem_singleton.mp mem
    exact ⟨"Ada", rfl⟩
  have calls := generatedCallFills greetingFolder "messages" greetings {} greeter greetMethod
    [.text "Ada"] none (some "FR") [.getString none "greet", .clear] rfl greetingsLoaded greeterBuilt
    List.mem_cons_self small rfl written
  exact ⟨rfl, calls.2.1 (by decide +kernel)⟩

def longTag : List Char := "en".toList ++ (List.replicate 27 "_abcdefgh".toList).flatten

theorem longTagSettled :
    Locale.normalize (some (String.ofList longTag)) = String.ofList longTag := by
  have chars : Locale.normalizeChars longTag = longTag := by decide +kernel
  rw [Locale.normalize, Option.getD_some, String.toList_ofList, chars]

theorem longTagRefused : ¬ greetingFolder.CanAsk "messages" (String.ofList longTag) := by
  have shape : Locale.isTag (String.ofList longTag) = true := by
    rw [Locale.isTag, String.toList_ofList]
    decide +kernel
  have long : ¬ FileTree.Fits ⟨.relative, ["i18n"]⟩ (longestOf "messages" (String.ofList longTag)) := by
    decide +kernel
  exact fun can => long (can shape)

theorem longTagAsked :
    String.ofList longTag ∈ variantsAsked "messages" none (some (String.ofList longTag)) := by
  have filled : String.ofList longTag ≠ "" := by decide +kernel
  have tag : (Resolver.new "messages" none).tagOf (some (String.ofList longTag)) =
      String.ofList longTag := by
    simp [Resolver.tagOf, longTagSettled, filled]
  rw [variantsAsked, tag]
  exact Locale.chainHead longTagSettled filled

theorem longLocaleBreaches :
    (greetingFolder.source.loadSet "messages").outcome = .ok greetings ∧
    (build {} greetings).outcome = .ok greeter ∧ greetMethod ∈ greeter.descriptors ∧
    answered greetingFolder "messages" none [] (some (String.ofList longTag)) greetMethod.key =
      .error (.breach (.file .nameTooLong)) := by
  have known : greetMethod.key ∈ greetings.default.keys := by decide
  have accepts : greetingFolder.Accepts "messages" := rfl
  exact ⟨greetingsLoaded, greeterBuilt, List.mem_cons_self,
    (answeredKey accepts greetingsLoaded none (some (String.ofList longTag)) [] known).2
      ⟨_, longTagAsked, longTagRefused⟩⟩

end Phrasebook.Accessor

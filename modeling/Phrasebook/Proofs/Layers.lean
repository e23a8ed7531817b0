import Phrasebook.Proofs.Shelves

/-! Layers of a resolved catalog. Messages in memory are laid over each other from the default on, so
that the most specific template of a key wins, and a variant that cannot be used leaves no trace. -/
namespace Phrasebook

open Resolver

namespace Catalog

theorem overlayAssoc (a b c : Catalog) : (a.overlay b).overlay c = a.overlay (b.overlay c) := by
  simp only [overlay, OrderedMap.overlayAssoc]

theorem overlayGathered (a b : Catalog) (layers : List Catalog) :
    layers.foldl overlay (a.overlay b) = a.overlay (layers.foldl overlay b) := by
  induction layers generalizing b with
  | nil => rfl
  | cons layer rest ih => rw [List.foldl_cons, List.foldl_cons, overlayAssoc, ih]

/-- Layers may be gathered before they are laid, any number of them. One without messages shows neither
above nor below another, and no key appears that neither of the two has. -/
theorem layersAssociate (a b c : Catalog) :
    (a.overlay b).overlay c = a.overlay (b.overlay c) ∧
    (a.overlay { b with messages := .empty }).messages = a.messages ∧
    ({ a with messages := .empty }.overlay b).messages = b.messages ∧
    (∀ key, key ∈ (a.overlay b).keys ↔ key ∈ a.keys ∨ key ∈ b.keys) ∧
    ∀ layers : List Catalog, layers.foldl overlay (a.overlay b) = a.overlay (layers.foldl overlay b) :=
  ⟨overlayAssoc a b c, rfl, b.messages.ofEntries, fun _ => OrderedMap.overlayMember,
    overlayGathered a b⟩

end Catalog

namespace Bundles

/-- The messages kept for a tag, unless one of their keys is empty. -/
def layer? (bundles : Bundles) (bundle tag : String) : Option (OrderedMap String String) :=
  (bundles.messages? bundle tag).filter fun messages => !messages.contains ""

def templateAt? (bundles : Bundles) (bundle key tag : String) : Option String :=
  (bundles.layer? bundle tag).bind fun messages => messages.get? key

def keysAt (bundles : Bundles) (bundle tag : String) : List String :=
  ((bundles.layer? bundle tag).map OrderedMap.keys).getD []

def lay (bundles : Bundles) (bundle : String) (under : OrderedMap String String) (tag : String) :
    OrderedMap String String :=
  match bundles.layer? bundle tag with
  | none => under
  | some messages => under.overlay messages

def without (bundles : Bundles) (bundle tag : String) : Bundles :=
  match bundles.get? bundle with
  | none => bundles
  | some catalogs => bundles.insert bundle (catalogs.erase tag)

variable {bundles : Bundles} {bundle : String}

theorem layGet (under : OrderedMap String String) (tag key : String) :
    (bundles.lay bundle under tag).get? key =
      (bundles.templateAt? bundle key tag).or (under.get? key) := by
  unfold lay templateAt?
  cases bundles.layer? bundle tag with
  | none => rfl
  | some messages => exact OrderedMap.overlayGet under messages key

theorem layKeys (under : OrderedMap String String) (tag : String) :
    (bundles.lay bundle under tag).keys = distinct (under.keys ++ bundles.keysAt bundle tag) := by
  unfold lay keysAt
  cases bundles.layer? bundle tag with
  | none =>
    simp [under.distinctKeys]
  | some messages => exact OrderedMap.overlayKeys under messages

theorem laidGet (tags : List String) (under : OrderedMap String String) (key : String) :
    (tags.foldl (bundles.lay bundle) under).get? key =
      (tags.reverse.findSome? (bundles.templateAt? bundle key)).or (under.get? key) := by
  induction tags generalizing under with
  | nil => rfl
  | cons tag rest ih =>
    rw [List.foldl_cons, ih, layGet, List.reverse_cons, List.findSome?_append, Option.or_assoc]
    congr 2
    simp

theorem laidKeys (tags : List String) (under : OrderedMap String String) :
    (tags.foldl (bundles.lay bundle) under).keys =
      distinct (under.keys ++ tags.flatMap (bundles.keysAt bundle)) := by
  induction tags generalizing under with
  | nil =>
    simp [under.distinctKeys]
  | cons tag rest ih =>
    rw [List.foldl_cons, ih, layKeys, distinctPrefix, List.append_assoc, List.flatMap_cons]

/-- A catalog as a source in memory gives it out. -/
def catalogAt (bundle tag : String) (messages : OrderedMap String String) : Catalog :=
  { bundle := bundle, locale := tag, messages := messages }

theorem foundAtTag {tag : String} (settled : Locale.normalize (some tag) = tag) :
    (bundles.source.find bundle tag).outcome =
      match bundles.messages? bundle tag with
      | none => .ok none
      | some messages =>
        if messages.contains "" then
          .error (.issue (.catalogFormat "<memory>" .emptyKey (some bundle)))
        else .ok (some (catalogAt bundle tag messages)) := by
  simp only [source, settled]
  cases bundles.messages? bundle tag with
  | none => rfl
  | some messages =>
    have made : Catalog.make bundle tag messages none =
        if messages.contains "" then
          .error (.issue (.catalogFormat "<memory>" .emptyKey (some bundle)))
        else .ok (catalogAt bundle tag messages) := rfl
    dsimp only
    rw [Report.ofExceptOutcome, made]
    split <;> rfl

theorem variantLaid {tag : String} (settled : Locale.normalize (some tag) = tag) :
    variantOf bundles.source bundle tag =
      .ok ((bundles.layer? bundle tag).map (catalogAt bundle tag)) := by
  have found := @foundAtTag bundles bundle tag settled
  unfold variantOf layer?
  rw [found]
  cases bundles.messages? bundle tag with
  | none => rfl
  | some messages => cases bare : messages.contains "" <;> simp [Option.filter, bare]

theorem defaultLaid {default : Catalog} :
    (bundles.source.load bundle "").outcome = .ok default ↔
      (bundles.layer? bundle "").map (catalogAt bundle "") = some default := by
  have found := @foundAtTag bundles bundle "" (by decide)
  rw [Source.loadOutcome, found]
  unfold layer?
  cases bundles.messages? bundle "" with
  | none => simp
  | some messages => cases bare : messages.contains "" <;> simp [Option.filter, bare]

theorem layeredAt {tags : List String} (settled : ∀ tag ∈ tags, Locale.normalize (some tag) = tag)
    (locale : String) (under : OrderedMap String String) :
    ∃ last, layered bundles.source bundle (catalogAt bundle locale under) tags =
      .ok (catalogAt bundle last (tags.foldl (bundles.lay bundle) under)) := by
  induction tags generalizing locale under with
  | nil => exact ⟨locale, rfl⟩
  | cons tag rest ih =>
    obtain ⟨first, later⟩ := List.forall_mem_cons.mp settled
    have answer := @variantLaid bundles bundle tag first
    unfold layered
    rw [answer, List.foldl_cons]
    unfold lay
    cases bundles.layer? bundle tag with
    | none => exact ih later locale under
    | some messages => exact ih later tag (under.overlay messages)

theorem resolvedAt {tag : String} {messages : OrderedMap String String}
    (settled : Locale.normalize (some (Locale.normalize (some tag))) = Locale.normalize (some tag))
    (default : bundles.layer? bundle "" = some messages) :
    catalogFor bundles.source bundle tag =
      .ok (catalogAt bundle tag ((layersOf tag).foldl (bundles.lay bundle) messages)) := by
  have loaded : (bundles.source.load bundle "").outcome = .ok (catalogAt bundle "" messages) :=
    defaultLaid.mpr (by rw [default, Option.map_some])
  have fixed : ∀ layer ∈ layersOf tag, Locale.normalize (some layer) = layer := by
    intro layer mem
    exact (Locale.chainSettled settled (List.mem_reverse.mp mem)).1
  obtain ⟨last, laid⟩ := @layeredAt bundles bundle (layersOf tag) fixed "" messages
  -- Which tags there are does not matter here.
  unfold catalogFor
  generalize layersOf tag = tags at laid
  rw [loaded]
  dsimp only
  rw [laid]
  rfl

theorem chainGet {tag : String} {messages : OrderedMap String String}
    (default : bundles.layer? bundle "" = some messages) (key : String) :
    ((layersOf tag).foldl (bundles.lay bundle) messages).get? key =
      (Locale.fallbackChain (some tag)).findSome? (bundles.templateAt? bundle key) := by
  have last : bundles.templateAt? bundle key "" = messages.get? key := by
    rw [templateAt?, default, Option.bind_some]
  have whole : Locale.fallbackChain (some tag) =
      (Locale.fallbackChain (some tag)).dropLast ++ [""] := by
    simp [Locale.fallbackChain]
  rw [laidGet, layersOf, List.reverse_reverse, whole, List.findSome?_append, List.dropLast_concat]
  simp [last]

theorem withoutMessages (bundle broken tag : String) :
    (bundles.without bundle broken).messages? bundle tag =
      if tag = broken then none else bundles.messages? bundle tag := by
  unfold without messages?
  cases held : bundles.get? bundle with
  | none => simp [held]
  | some catalogs =>
    simp only [OrderedMap.insertGet, if_true, Option.bind_some]
    exact OrderedMap.eraseGet catalogs broken tag

theorem withoutBroken {broken : String} {messages : OrderedMap String String}
    (held : bundles.messages? bundle broken = some messages) (empty : "" ∈ messages.keys)
    (tag : String) :
    (bundles.without bundle broken).layer? bundle tag = bundles.layer? bundle tag := by
  have bare := OrderedMap.containsKey.mpr empty
  unfold layer?
  rw [withoutMessages]
  split
  · rename_i same
    subst same
    simp [held, bare, Option.filter]
  · rfl

theorem layWithout {broken : String} {messages : OrderedMap String String}
    (held : bundles.messages? bundle broken = some messages) (empty : "" ∈ messages.keys) :
    (bundles.without bundle broken).lay bundle = bundles.lay bundle := by
  funext under tag
  unfold lay
  rw [withoutBroken held empty]

end Bundles

/-- The tag that is requested: that of the locale, or of the default locale when it names none. -/
def requestedTag (defaultLocale locale : Option String) : String :=
  if (Locale.normalize locale).isEmpty then Locale.normalize defaultLocale
  else Locale.normalize locale

theorem requestedTagOf (source : Source) (bundle : String) (defaultLocale locale : Option String)
    (history : List Request) :
    (run source (new bundle defaultLocale) history).tagOf locale =
      requestedTag defaultLocale locale := by
  have kept := @runKeeps source _ (newSettled bundle defaultLocale) history
  exact kept.tagOf locale

theorem resolvesLayers {bundles : Bundles} {bundle : String} {messages : OrderedMap String String}
    (default : bundles.layer? bundle "" = some messages) (defaultLocale locale : Option String)
    (history : List Request) :
    ((run bundles.source (new bundle defaultLocale) history).resolve bundles.source
      locale).report.outcome =
        .ok (Bundles.catalogAt bundle (requestedTag defaultLocale locale)
          ((layersOf (requestedTag defaultLocale locale)).foldl (bundles.lay bundle) messages)) := by
  have settled := Shelf.requestSettled bundle defaultLocale locale
  have tag : (new bundle defaultLocale).tagOf locale = requestedTag defaultLocale locale := rfl
  rw [tag] at settled
  have kept := @runKeeps bundles.source _ (newSettled bundle defaultLocale) history
  have outcome := (resolveSettled kept.settled locale).1
  rw [kept.bundle, requestedTagOf] at outcome
  exact outcome.trans (Bundles.resolvedAt settled default)

/-- Each key has its most specific template, and none of the default keys is lost. -/
theorem mostSpecificWins (bundles : Bundles) (bundle : String) (defaultLocale locale : Option String)
    (history : List Request) (default : Catalog)
    (loads : (bundles.source.load bundle "").outcome = .ok default) :
    ∃ catalog,
      ((run bundles.source (new bundle defaultLocale) history).resolve bundles.source
        locale).report.outcome = .ok catalog ∧
      catalog.locale = requestedTag defaultLocale locale ∧
      (∀ key, catalog.get? key =
        (Locale.fallbackChain (some (requestedTag defaultLocale locale))).findSome?
          (bundles.templateAt? bundle key)) ∧
      catalog.keys = default.keys ++
        (distinct ((layersOf (requestedTag defaultLocale locale)).flatMap
          (bundles.keysAt bundle))).filter (· ∉ default.keys) ∧
      ∀ broken messages, bundles.messages? bundle broken = some messages → "" ∈ messages.keys →
        ((run (bundles.without bundle broken).source (new bundle defaultLocale) history).resolve
          (bundles.without bundle broken).source locale).report.outcome = .ok catalog := by
  obtain ⟨messages, layer, same⟩ := Option.map_eq_some_iff.mp (Bundles.defaultLaid.mp loads)
  subst same
  have resolved := resolvesLayers layer defaultLocale locale history
  have template := @Bundles.chainGet bundles bundle (requestedTag defaultLocale locale) messages layer
  have keys := @Bundles.laidKeys bundles bundle (layersOf (requestedTag defaultLocale locale)) messages
  rw [distinctAppend, messages.distinctKeys] at keys
  have unbroken : ∀ broken other, bundles.messages? bundle broken = some other → "" ∈ other.keys →
      ((run (bundles.without bundle broken).source (new bundle defaultLocale) history).resolve
        (bundles.without bundle broken).source locale).report.outcome =
          .ok (Bundles.catalogAt bundle (requestedTag defaultLocale locale)
            ((layersOf (requestedTag defaultLocale locale)).foldl (bundles.lay bundle) messages)) := by
    intro broken other held empty
    have default := (Bundles.withoutBroken held empty "").trans layer
    rw [← Bundles.layWithout held empty]
    exact resolvesLayers default defaultLocale locale history
  -- From here on it only matters which messages are laid, not how.
  generalize requestedTag defaultLocale locale = tag at resolved template keys unbroken ⊢
  generalize (layersOf tag).foldl (bundles.lay bundle) messages = laid
    at resolved template keys unbroken
  exact ⟨Bundles.catalogAt bundle tag laid, resolved, rfl, template, keys, unbroken⟩

def farewells : OrderedMap String String := .ofList [("bye", "Goodbye"), ("greet", "Hello")]

/-- The middle layer has a message without a key. -/
def frenchLayers : Bundles :=
  .ofList [("messages", .ofList [("", farewells),
    ("fr", .ofList [("tip", "Astuce"), ("greet", "Salut")]),
    ("fr_Latn", .ofList [("bye", "Adieu"), ("", "")]),
    ("fr_Latn_CA", .ofList [("note", "Avis"), ("tip", "Truc")])])]

theorem brokenLayerSkipped :
    ∃ catalog,
      ((run frenchLayers.source (new "messages" none) [.getString none "tip"]).resolve
        frenchLayers.source (some "FR-latn-ca")).report.outcome = .ok catalog ∧
      catalog.locale = "fr_Latn_CA" ∧ catalog.keys = ["bye", "greet", "tip", "note"] ∧
      catalog.get? "bye" = some "Goodbye" ∧ catalog.get? "greet" = some "Salut" ∧
      catalog.get? "tip" = some "Truc" ∧ catalog.get? "hint" = none ∧
      ((run (frenchLayers.without "messages" "fr_Latn").source (new "messages" none)
        [.getString none "tip"]).resolve (frenchLayers.without "messages" "fr_Latn").source
        (some "FR-latn-ca")).report.outcome = .ok catalog := by
  have loads : (frenchLayers.source.load "messages" "").outcome =
      .ok (Bundles.catalogAt "messages" "" farewells) := by decide +kernel
  have requested : requestedTag none (some "FR-latn-ca") = "fr_Latn_CA" := by decide +kernel
  obtain ⟨catalog, resolved, locale, template, keys, unbroken⟩ :=
    mostSpecificWins frenchLayers "messages" none (some "FR-latn-ca") [.getString none "tip"] _ loads
  rw [requested] at locale keys
  simp only [requested] at template
  have skipped := unbroken "fr_Latn" (.ofList [("bye", "Adieu"), ("", "")]) (by decide +kernel)
    (by decide)
  refine ⟨catalog, resolved, locale, keys.trans ?_, (template _).trans ?_, (template _).trans ?_,
    (template _).trans ?_, (template _).trans ?_, skipped⟩
  all_goals decide +kernel

end Phrasebook

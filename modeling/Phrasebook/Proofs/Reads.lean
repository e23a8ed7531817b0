import Phrasebook.Proofs.Layers
import Phrasebook.Proofs.Transcripts

/-! What a resolver asks its source for. Whatever is asked of it, each variant is read at most once between
two clearings, and what is left to read of a chain is read from the least specific layer on. -/
namespace Phrasebook.Resolver

/-- The locales that a call asks the source for, in order. -/
def reads (source : Source) (r : Resolver) : Call → List String
  | .request (.resolve locale) => (r.resolve source locale).asked
  | .request (.getString locale key) => (r.getString source locale key).asked
  | .request .clear => []
  | .cachedLocales => []

def readings (source : Source) (r : Resolver) : List Call → List (Call × List String)
  | [] => []
  | call :: rest => (call, reads source r call) :: readings source (afterCall source r call) rest

def reached (source : Source) (fresh : Resolver) (past : List Call) : Resolver :=
  past.foldl (afterCall source) fresh

/-- What was read since the last clearing. -/
def readSince (source : Source) (fresh : Resolver) (past : List Call) : List String :=
  ((readings source fresh past).rtakeWhile (·.1 ≠ .request .clear)).flatMap Prod.snd

def hasDefault (source : Source) (bundle : String) : Bool := (source.load bundle "").outcome.isOk

/-- Whether the default catalog was read with success since the last clearing. -/
def defaultLoaded (source : Source) (fresh : Resolver) (past : List Call) : Bool :=
  hasDefault source fresh.bundle && decide ("" ∈ readSince source fresh past)

/-- What a call has to read: nothing for a tag that is cached, else the default catalog unless it is there
and, if there is one, the variants of the chain that were not asked for, the most specific one last. -/
def dueReads (source : Source) (fresh : Resolver) (past : List Call) (call : Call) : List String :=
  match call.locale? with
  | none => []
  | some locale =>
    if fresh.tagOf locale ∈ (reached source fresh past).cachedLocales then []
    else
      (if defaultLoaded source fresh past then [] else [""]) ++
        if hasDefault source fresh.bundle then
          (layersOf (fresh.tagOf locale)).filter (· ∉ readSince source fresh past)
        else []

variable {source : Source}

theorem loadDefaultReads {r : Resolver} (settled : Settled source r) :
    (loadDefault source r).asked = (if r.default.isSome then [] else [""]) ∧
      (loadDefault source r).state.variants = r.variants ∧
      (loadDefault source r).state.default.isSome = hasDefault source r.bundle := by
  unfold loadDefault
  split
  · rename_i catalog known
    simp [known, hasDefault, settled.default catalog known, Except.isOk, Except.toBool]
  · rename_i unknown
    dsimp only
    split
    · rename_i catalog loaded
      simp [unknown, hasDefault, loaded, Except.isOk, Except.toBool]
    · rename_i failure failed
      simp [unknown, hasDefault, failed, Except.isOk, Except.toBool]

/-- A step that reads some variants for the first time and leaves the default catalog alone. -/
structure Adds (before after : Resolver) (asked : List String) : Prop where
  variants : after.variants.keys = before.variants.keys ++ asked
  default : after.default = before.default

theorem loadVariantReads {r : Resolver} {tag : String} {variant : Option Catalog}
    (answer : variantOf source r.bundle tag = .ok variant) :
    (loadVariant source r tag).asked = (if tag ∈ r.variants.keys then [] else [tag]) ∧
      Adds r (loadVariant source r tag).state (loadVariant source r tag).asked := by
  unfold loadVariant
  split
  · rename_i found known
    have mem : tag ∈ r.variants.keys := OrderedMap.keyMember.mpr ⟨found, known⟩
    exact ⟨by simp [mem], by simp, rfl⟩
  · rename_i unknown
    have fresh : tag ∉ r.variants.keys := OrderedMap.getNone.mp unknown
    dsimp only
    split
    · exact ⟨by simp [fresh], by simp [OrderedMap.insertKeys, fresh], rfl⟩
    · exact ⟨by simp [fresh], by simp [OrderedMap.insertKeys, fresh], rfl⟩
    · rename_i failure other found
      -- Only a failure that is no answer of the source is not remembered.
      exact absurd answer (by simp [variantOf, found])

theorem layerStep {r : Resolver} {tag : String} {variant : Option Catalog}
    (found : (loadVariant source r tag).report.outcome = .ok variant) (base : Catalog)
    (applied rest : List String) :
    ∃ below done, (layer source r base applied (tag :: rest)).asked = (loadVariant source r tag).asked ++
        (layer source (loadVariant source r tag).state below done rest).asked ∧
      (layer source r base applied (tag :: rest)).state =
        (layer source (loadVariant source r tag).state below done rest).state := by
  rw [layer]
  dsimp only
  rw [found]
  exact ⟨_, _, rfl, rfl⟩

theorem layerReads {r : Resolver} (settled : Settled source r) {tags : List String}
    (answers : ∀ tag, ∃ variant, variantOf source r.bundle tag = .ok variant) (once : tags.Nodup)
    (base : Catalog) (applied : List String) :
    (layer source r base applied tags).asked = tags.filter (· ∉ r.variants.keys) ∧
      Adds r (layer source r base applied tags).state (layer source r base applied tags).asked := by
  induction tags generalizing r base applied with
  | nil => exact ⟨rfl, by simp [layer], rfl⟩
  | cons tag rest ih =>
    obtain ⟨fresh, once⟩ := List.nodup_cons.mp once
    obtain ⟨variant, answer⟩ := answers tag
    obtain ⟨asked, adds⟩ := loadVariantReads answer
    obtain ⟨outcome, kept⟩ := loadVariantSettled settled tag
    obtain ⟨below, done, reads, state⟩ := layerStep (outcome.trans answer) base applied rest
    obtain ⟨later, more⟩ := ih kept.settled (by rwa [kept.bundle]) once below done
    rw [state, reads]
    refine ⟨?_, by rw [more.variants, adds.variants, List.append_assoc],
      more.default.trans adds.default⟩
    -- What the first tag adds is not among the others.
    have others : rest.filter (· ∉ (loadVariant source r tag).state.variants.keys) =
        rest.filter (· ∉ r.variants.keys) := by
      refine List.filter_congr fun other mem => ?_
      have apart : other ≠ tag := fun same => fresh (same ▸ mem)
      rw [adds.variants, asked]
      split <;> simp [apart]
    rw [later, others, asked]
    by_cases known : tag ∈ r.variants.keys <;> simp [known]

/-- A step that reads the default catalog unless it is there, and then some variants. -/
structure Fills (source : Source) (before after : Resolver) (asked variants : List String) : Prop where
  asked : asked = (if before.default.isSome then [] else [""]) ++ variants
  variants : after.variants.keys = before.variants.keys ++ variants
  default : after.default.isSome = hasDefault source before.bundle

/-- What a resolver that knows some variants has left to read of a chain. -/
def unread (source : Source) (r : Resolver) (tag : String) : List String :=
  if hasDefault source r.bundle then (layersOf tag).filter (· ∉ r.variants.keys) else []

theorem populateReads {r : Resolver} (settled : Settled source r)
    (answers : ∀ tag, ∃ variant, variantOf source r.bundle tag = .ok variant) (tag : String) :
    Fills source r (populate source r tag).state (populate source r tag).asked
      (unread source r tag) := by
  obtain ⟨asked, variants, default⟩ := loadDefaultReads settled
  obtain ⟨outcome, kept⟩ := loadDefaultSettled settled
  have once : (layersOf tag).Nodup := List.nodup_reverse.mpr (Locale.chainDistinct (some tag))
  unfold populate unread
  unfold layersOf at once ⊢
  dsimp only
  -- Which tags there are does not matter here.
  generalize (Locale.fallbackChain (some tag)).dropLast.reverse = tags at once ⊢
  cases loaded : (loadDefault source r).report.outcome with
  | error failure =>
    have without : hasDefault source r.bundle = false := by
      simp [hasDefault, ← outcome, loaded, Except.isOk, Except.toBool]
    simp only [without, Bool.false_eq_true, if_false]
    exact ⟨by rw [asked, List.append_nil], by rw [variants, List.append_nil], default⟩
  | ok catalog =>
    have standing : hasDefault source r.bundle = true := by
      simp [hasDefault, ← outcome, loaded, Except.isOk, Except.toBool]
    obtain ⟨layers, adds⟩ := layerReads kept.settled (by rwa [kept.bundle]) once catalog []
    simp only [standing, if_true]
    rw [variants] at layers
    have fills : Fills source r (layer source (loadDefault source r).state catalog [] tags).state
        ((loadDefault source r).asked ++ (layer source (loadDefault source r).state catalog [] tags).asked)
        (tags.filter (· ∉ r.variants.keys)) :=
      ⟨by rw [asked, layers], by rw [adds.variants, variants, layers],
        by rw [adds.default, default]⟩
    split <;> exact fills

theorem resolveCached {r : Resolver} {locale : Option String}
    (cached : r.tagOf locale ∈ r.cachedLocales) :
    (resolve source r locale).asked = [] ∧ (resolve source r locale).state = r := by
  obtain ⟨catalog, known⟩ := OrderedMap.keyMember.mp cached
  simp [resolve, known]

theorem resolveReads {r : Resolver} (settled : Settled source r)
    (answers : ∀ tag, ∃ variant, variantOf source r.bundle tag = .ok variant)
    {locale : Option String} (uncached : r.tagOf locale ∉ r.cachedLocales) :
    Fills source r (resolve source r locale).state (resolve source r locale).asked
      (unread source r (r.tagOf locale)) := by
  have fills := populateReads settled answers (r.tagOf locale)
  unfold resolve
  dsimp only
  rw [OrderedMap.getNone.mpr uncached]
  dsimp only
  split
  · exact ⟨fills.asked, fills.variants, fills.default⟩
  · exact fills

theorem getStringReads (r : Resolver) (locale : Option String) (key : String) :
    (getString source r locale key).asked = (resolve source r locale).asked := by
  unfold getString
  dsimp only
  split <;> rfl

theorem requestReads {call : Call} {locale : Option String} (asks : call.locale? = some locale)
    (r : Resolver) :
    reads source r call = (resolve source r locale).asked ∧
      afterCall source r call = (resolve source r locale).state := by
  cases call with
  | cachedLocales => contradiction
  | request request =>
    cases request with
    | clear => contradiction
    | resolve other =>
      obtain rfl := Option.some.inj asks
      exact ⟨rfl, rfl⟩
    | getString other key =>
      obtain rfl := Option.some.inj asks
      exact ⟨getStringReads r other key, getStringState r other key⟩

theorem silentReads {call : Call} (silent : call.locale? = none) (r : Resolver) :
    reads source r call = [] := by
  cases call with
  | cachedLocales => rfl
  | request request =>
    cases request with
    | clear => rfl
    | resolve locale => contradiction
    | getString locale key => contradiction

theorem reachedSnoc (fresh : Resolver) (past : List Call) (call : Call) :
    reached source fresh (past ++ [call]) = afterCall source (reached source fresh past) call :=
  List.foldl_concat ..

theorem readingsSnoc (fresh : Resolver) (past : List Call) (call : Call) :
    readings source fresh (past ++ [call]) =
      readings source fresh past ++ [(call, reads source (reached source fresh past) call)] := by
  induction past generalizing fresh with
  | nil => rfl
  | cons first rest ih => exact congrArg _ (ih (afterCall source fresh first))

theorem readSinceClear (fresh : Resolver) (past : List Call) :
    readSince source fresh (past ++ [.request .clear]) = [] := by
  rw [readSince, readingsSnoc, List.rtakeWhile_concat_neg _ _ _ (by simp)]
  rfl

theorem readSinceSnoc (fresh : Resolver) (past : List Call) {call : Call}
    (going : call ≠ .request .clear) :
    readSince source fresh (past ++ [call]) =
      readSince source fresh past ++ reads source (reached source fresh past) call := by
  rw [readSince, readingsSnoc, List.rtakeWhile_concat_pos _ _ _ (by simpa using going),
    List.flatMap_append, List.flatMap_singleton, readSince]

/-- What a resolver holds after some calls, told from what was read. -/
structure Remembers (source : Source) (fresh : Resolver) (past : List Call) (r : Resolver) : Prop where
  kept : Keeps source fresh r
  default : r.default.isSome = defaultLoaded source fresh past
  variants : r.variants.keys = (readSince source fresh past).filter (· ≠ "")

theorem unreadSince {fresh r : Resolver} {past : List Call} {tag : String}
    (remembers : Remembers source fresh past r) (filled : "" ∉ layersOf tag) :
    unread source r tag =
      if hasDefault source fresh.bundle then (layersOf tag).filter (· ∉ readSince source fresh past)
      else [] := by
  have left : (layersOf tag).filter (· ∉ r.variants.keys) =
      (layersOf tag).filter (· ∉ readSince source fresh past) := by
    refine List.filter_congr fun other mem => ?_
    have named : other ≠ "" := fun empty => filled (empty ▸ mem)
    simp [remembers.variants, named]
  rw [unread, remembers.kept.bundle, left]

theorem unreadFilled {r : Resolver} {tag : String} (filled : "" ∉ layersOf tag) :
    (unread source r tag).filter (· ≠ "") = unread source r tag := by
  refine List.filter_eq_self.mpr fun other mem => ?_
  have listed : other ∈ layersOf tag := by
    unfold unread at mem
    split at mem
    · exact (List.mem_filter.mp mem).1
    · contradiction
  have named : other ≠ "" := fun empty => filled (empty ▸ listed)
  simpa using named

theorem requestRemembers {fresh : Resolver} {past : List Call} {call : Call} {locale : Option String}
    (remembers : Remembers source fresh past (reached source fresh past))
    (answers : ∀ tag, ∃ variant, variantOf source fresh.bundle tag = .ok variant)
    (filled : "" ∉ layersOf (fresh.tagOf locale)) (asks : call.locale? = some locale) :
    Remembers source fresh (past ++ [call]) (reached source fresh (past ++ [call])) := by
  have going : call ≠ .request .clear := by
    rintro rfl
    contradiction
  have settled := remembers.kept.settled
  obtain ⟨asked, state⟩ := requestReads asks (reached source fresh past)
  have kept := remembers.kept.trans (resolveSettled settled locale).2
  rw [reachedSnoc, state]
  by_cases cached : (reached source fresh past).tagOf locale ∈ (reached source fresh past).cachedLocales
  · obtain ⟨none, same⟩ := @resolveCached source _ locale cached
    have nothing : readSince source fresh (past ++ [call]) = readSince source fresh past := by
      rw [readSinceSnoc fresh past going, asked, none, List.append_nil]
    refine ⟨kept, ?_, ?_⟩
    · rw [same, remembers.default, defaultLoaded, defaultLoaded, nothing]
    · rw [same, remembers.variants, nothing]
  · have fills := resolveReads settled (by rwa [remembers.kept.bundle]) cached
    rw [remembers.kept.tagOf] at fills
    have more : readSince source fresh (past ++ [call]) = readSince source fresh past ++
        (resolve source (reached source fresh past) locale).asked := by
      rw [readSinceSnoc fresh past going, asked]
    refine ⟨kept, ?_, ?_⟩
    · rw [fills.default, remembers.kept.bundle, defaultLoaded, more, fills.asked, remembers.default,
        defaultLoaded]
      by_cases seen : "" ∈ readSince source fresh past <;>
        cases hasDefault source fresh.bundle <;> simp [seen]
    · rw [fills.variants, more, fills.asked, remembers.variants, List.filter_append,
        List.filter_append, unreadFilled filled]
      split <;> simp

theorem callRemembers {fresh : Resolver} {past : List Call}
    (remembers : Remembers source fresh past (reached source fresh past))
    (answers : ∀ tag, ∃ variant, variantOf source fresh.bundle tag = .ok variant)
    (filled : ∀ locale, "" ∉ layersOf (fresh.tagOf locale)) (call : Call) :
    Remembers source fresh (past ++ [call]) (reached source fresh (past ++ [call])) := by
  cases call with
  | request request =>
    cases request with
    | resolve locale => exact requestRemembers remembers answers (filled locale) rfl
    | getString locale key => exact requestRemembers remembers answers (filled locale) rfl
    | clear =>
      rw [reachedSnoc]
      refine ⟨remembers.kept.trans ⟨clearSettled _, rfl, rfl⟩, ?_, ?_⟩
      · simp [defaultLoaded, readSinceClear, afterCall, after, Resolver.clear]
      · rw [readSinceClear]
        rfl
  | cachedLocales =>
    have nothing : readSince source fresh (past ++ [.cachedLocales]) = readSince source fresh past := by
      rw [readSinceSnoc fresh past (by simp), silentReads rfl, List.append_nil]
    rw [reachedSnoc]
    refine ⟨remembers.kept, ?_, ?_⟩
    · rw [defaultLoaded, nothing]
      exact remembers.default
    · rw [nothing]
      exact remembers.variants

theorem chainFilled (bundle : String) (defaultLocale locale : Option String) :
    "" ∉ layersOf ((new bundle defaultLocale).tagOf locale) := by
  intro mem
  have settled := Shelf.requestSettled bundle defaultLocale locale
  exact (Locale.chainSettled settled (List.mem_reverse.mp mem)).2 rfl

theorem runRemembers (bundle : String) (defaultLocale : Option String)
    (answers : ∀ tag, ∃ variant, variantOf source bundle tag = .ok variant) (past : List Call) :
    Remembers source (new bundle defaultLocale) past (reached source (new bundle defaultLocale) past) := by
  induction past using List.reverseRecOn with
  | nil =>
    refine ⟨.refl (newSettled bundle defaultLocale), ?_, rfl⟩
    simp [reached, new, defaultLoaded, readSince, readings]
  | append_singleton past call ih =>
    exact callRemembers ih answers (chainFilled bundle defaultLocale) call

theorem memoryAnswers (bundles : Bundles) (bundle tag : String) :
    ∃ variant, variantOf bundles.source bundle tag = .ok variant := by
  unfold variantOf
  simp only [Bundles.source]
  cases bundles.messages? bundle (Locale.normalize (some tag)) with
  | none => exact ⟨none, rfl⟩
  | some messages =>
    dsimp only
    rw [Report.ofExceptOutcome, Catalog.make]
    cases messages.keys.contains "" with
    | true => exact ⟨none, rfl⟩
    | false => exact ⟨_, rfl⟩

/-! ### Nothing else is read -/

/-- Whether another source gives the answers that are read. -/
def Agrees (source other : Source) (bundle : String) (asked : List String) : Prop :=
  ∀ locale ∈ asked, other.find bundle locale = source.find bundle locale

section

variable {other : Source}

theorem loadDefaultAgrees {r : Resolver} (searched : other.searched = source.searched)
    (agrees : Agrees source other r.bundle (loadDefault source r).asked) :
    loadDefault other r = loadDefault source r := by
  cases known : r.default with
  | some catalog => simp only [loadDefault, known]
  | none =>
    have mem : "" ∈ (loadDefault source r).asked := by
      simp only [loadDefault, known]
      split <;> exact List.mem_singleton.mpr rfl
    have loads : other.load r.bundle "" = source.load r.bundle "" := by
      simp only [Source.load, agrees "" mem, searched]
    simp only [loadDefault, known, loads]

theorem loadVariantAgrees {r : Resolver} {tag : String}
    (agrees : Agrees source other r.bundle (loadVariant source r tag).asked) :
    loadVariant other r tag = loadVariant source r tag := by
  cases known : r.variants.get? tag with
  | some variant => simp only [loadVariant, known]
  | none =>
    have mem : tag ∈ (loadVariant source r tag).asked := by
      simp only [loadVariant, known]
      split <;> exact List.mem_singleton.mpr rfl
    simp only [loadVariant, known, agrees tag mem]

theorem layerAgrees {r : Resolver} (settled : Settled source r) {base : Catalog}
    {applied tags : List String}
    (agrees : Agrees source other r.bundle (layer source r base applied tags).asked) :
    layer other r base applied tags = layer source r base applied tags := by
  induction tags generalizing r base applied with
  | nil => rfl
  | cons tag rest ih =>
    have kept := (loadVariantSettled settled tag).2
    unfold layer at agrees ⊢
    dsimp only at agrees ⊢
    cases found : (loadVariant source r tag).report.outcome with
    | error failure =>
      rw [found] at agrees
      rw [loadVariantAgrees agrees, found]
    | ok variant =>
      rw [found] at agrees
      obtain ⟨first, later⟩ := List.forall_mem_append.mp agrees
      rw [← kept.bundle] at later
      rw [loadVariantAgrees first, found]
      dsimp only
      rw [ih kept.settled later]

theorem populateAgrees {r : Resolver} (settled : Settled source r)
    (searched : other.searched = source.searched) {tag : String}
    (agrees : Agrees source other r.bundle (populate source r tag).asked) :
    populate other r tag = populate source r tag := by
  have kept := (loadDefaultSettled settled).2
  unfold populate at agrees ⊢
  dsimp only at agrees ⊢
  -- Which tags there are does not matter here.
  generalize (Locale.fallbackChain (some tag)).dropLast.reverse = tags at agrees ⊢
  cases loaded : (loadDefault source r).report.outcome with
  | error failure =>
    rw [loaded] at agrees
    rw [loadDefaultAgrees searched agrees, loaded]
  | ok default =>
    rw [loaded] at agrees
    have both : Agrees source other r.bundle ((loadDefault source r).asked ++
        (layer source (loadDefault source r).state default [] tags).asked) := by
      dsimp only at agrees
      split at agrees <;> exact agrees
    obtain ⟨first, later⟩ := List.forall_mem_append.mp both
    rw [← kept.bundle] at later
    rw [loadDefaultAgrees searched first, loaded]
    dsimp only
    rw [layerAgrees kept.settled later]

theorem resolveAgrees {r : Resolver} (settled : Settled source r)
    (searched : other.searched = source.searched) {locale : Option String}
    (agrees : Agrees source other r.bundle (resolve source r locale).asked) :
    resolve other r locale = resolve source r locale := by
  unfold resolve at agrees ⊢
  dsimp only at agrees ⊢
  cases known : r.resolved.get? (r.tagOf locale) with
  | some catalog => rfl
  | none =>
    rw [known] at agrees
    have whole : Agrees source other r.bundle (populate source r (r.tagOf locale)).asked := by
      dsimp only at agrees
      split at agrees <;> exact agrees
    dsimp only
    rw [populateAgrees settled searched whole]

theorem callAgrees {r : Resolver} (settled : Settled source r)
    (searched : other.searched = source.searched) {call : Call}
    (agrees : Agrees source other r.bundle (reads source r call)) :
    answer other r call = answer source r call ∧ afterCall other r call = afterCall source r call := by
  cases call with
  | cachedLocales => exact ⟨rfl, rfl⟩
  | request request =>
    cases request with
    | clear => exact ⟨rfl, rfl⟩
    | resolve locale =>
      have same := resolveAgrees settled searched agrees
      exact ⟨by simp only [answer, same], by simp only [afterCall, after, same]⟩
    | getString locale key =>
      have resolved := resolveAgrees settled searched (by rwa [reads, getStringReads] at agrees)
      have same : getString other r locale key = getString source r locale key := by
        simp only [getString, resolved]
      exact ⟨by simp only [answer, same], by simp only [afterCall, after, same]⟩

end

/-- The source with other answers wherever it was not asked. -/
def elsewhere (source : Source) (asked : List String)
    (answers : String → String → Report (Option Catalog)) : Source :=
  { source with
    find := fun bundle locale =>
      if locale ∈ asked then source.find bundle locale else answers bundle locale }

/-- A call to which it does not matter what the source answers elsewhere than it reads. -/
def Confined (source : Source) (r : Resolver) (call : Call) : Prop :=
  ∀ answers,
    answer (elsewhere source (reads source r call) answers) r call = answer source r call ∧
    afterCall (elsewhere source (reads source r call) answers) r call = afterCall source r call

theorem elsewhereAgrees (bundle : String) (asked : List String)
    (answers : String → String → Report (Option Catalog)) :
    Agrees source (elsewhere source asked answers) bundle asked :=
  fun _ mem => if_pos mem

/-- A call reads what it has to and nothing else, and no variant is read twice without a clearing between. -/
theorem readsOnceInOrder (bundles : Bundles) (bundle : String) (defaultLocale : Option String)
    (past : List Call) :
    (∀ call, reads bundles.source (reached bundles.source (new bundle defaultLocale) past) call =
      dueReads bundles.source (new bundle defaultLocale) past call) ∧
    ((readSince bundles.source (new bundle defaultLocale) past).filter (· ≠ "")).Nodup ∧
    ∀ call, Confined bundles.source (reached bundles.source (new bundle defaultLocale) past) call := by
  have remembers := runRemembers bundle defaultLocale (memoryAnswers bundles bundle) past
  have settled := remembers.kept.settled
  refine ⟨fun call => ?_, ?_, fun call answers => ?_⟩
  · cases asks : call.locale? with
    | none => simp only [silentReads asks, dueReads, asks]
    | some locale =>
      simp only [(requestReads asks _).1, dueReads, asks]
      rw [← remembers.kept.tagOf]
      split
      · rename_i cached
        exact (resolveCached cached).1
      · rename_i uncached
        have fills := resolveReads settled
          (by rw [remembers.kept.bundle]; exact memoryAnswers bundles bundle) uncached
        have left := unreadSince remembers (chainFilled bundle defaultLocale locale)
        rw [← remembers.kept.tagOf] at left
        rw [fills.asked, remembers.default, left]
  · rw [← remembers.variants]
    exact OrderedMap.distinct _
  · refine callAgrees settled ?_ (elsewhereAgrees _ _ answers)
    rfl

end Phrasebook.Resolver

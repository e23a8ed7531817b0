import Mathlib.Data.List.DropRight
import Phrasebook.Proofs.Resolution

/-! Resolution as it is seen from outside. Whatever is asked of a resolver and in whatever order, its
answers are those of one that keeps no catalog and only remembers what it was asked. -/
namespace Phrasebook.Resolver

inductive Call where
  | request (request : Request)
  | cachedLocales
  deriving DecidableEq, Repr

inductive Answer where
  | catalog (outcome : Except Failure Catalog)
  | template (outcome : Except Failure String)
  | locales (tags : List String)
  | cleared

def answer (source : Source) (r : Resolver) : Call → Answer
  | .request (.resolve locale) => .catalog (r.resolve source locale).report.outcome
  | .request (.getString locale key) => .template (r.getString source locale key).report.outcome
  | .request .clear => .cleared
  | .cachedLocales => .locales r.cachedLocales

def afterCall (source : Source) (r : Resolver) : Call → Resolver
  | .request request => after source r request
  | .cachedLocales => r

def transcript (source : Source) (r : Resolver) : List Call → List Answer
  | [] => []
  | call :: rest => answer source r call :: transcript source (afterCall source r call) rest

def Call.locale? : Call → Option (Option String)
  | .request (.resolve locale) => some locale
  | .request (.getString locale _) => some locale
  | _ => none

def resolvedTag? (source : Source) (fresh : Resolver) (locale : Option String) : Option String :=
  match (fresh.resolve source locale).report.outcome with
  | .ok _ => some (fresh.tagOf locale)
  | .error _ => none

/-- The tags resolved by the calls since the last clearing, in the order of their first success. -/
def resolvedTags (source : Source) (fresh : Resolver) (past : List Call) : List String :=
  distinct ((past.rtakeWhile (· ≠ .request .clear)).filterMap fun call =>
    call.locale?.bind (resolvedTag? source fresh))

/-- The answer of a resolver that resolves everything anew. -/
def plainAnswer (source : Source) (fresh : Resolver) (past : List Call) : Call → Answer
  | .cachedLocales => .locales (resolvedTags source fresh past)
  | call => answer source fresh call

variable {source : Source}

theorem loadDefaultResolved (r : Resolver) :
    (loadDefault source r).state.resolved = r.resolved := by
  unfold loadDefault
  split
  · rfl
  · dsimp only
    split <;> rfl

theorem loadVariantResolved (r : Resolver) (tag : String) :
    (loadVariant source r tag).state.resolved = r.resolved := by
  unfold loadVariant
  split
  · rfl
  · dsimp only
    split <;> rfl

theorem layerResolved (r : Resolver) (base : Catalog) (applied tags : List String) :
    (layer source r base applied tags).state.resolved = r.resolved := by
  induction tags generalizing r base applied with
  | nil => rfl
  | cons tag rest ih =>
    have first := @loadVariantResolved source r tag
    unfold layer
    dsimp only
    split
    · exact first
    · rename_i variant found
      cases variant with
      | none => exact (ih _ _ _).trans first
      | some catalog => exact (ih _ _ _).trans first

theorem populateResolved (r : Resolver) (tag : String) :
    (populate source r tag).state.resolved = r.resolved := by
  have base := @loadDefaultResolved source r
  unfold populate
  dsimp only
  -- Which tags there are does not matter here.
  generalize (Locale.fallbackChain (some tag)).dropLast.reverse = tags
  split
  · exact base
  · rename_i default loaded
    have layers := @layerResolved source (loadDefault source r).state default [] tags
    split
    · exact layers.trans base
    · exact layers.trans base

theorem resolveKeys (r : Resolver) (locale : Option String) :
    (resolve source r locale).state.cachedLocales =
      match (resolve source r locale).report.outcome with
      | .ok _ =>
        if r.tagOf locale ∈ r.cachedLocales then r.cachedLocales
        else r.cachedLocales ++ [r.tagOf locale]
      | .error _ => r.cachedLocales := by
  have kept := @populateResolved source r (r.tagOf locale)
  unfold resolve cachedLocales
  dsimp only
  split
  · rename_i catalog known
    have mem : r.tagOf locale ∈ r.resolved.keys := OrderedMap.keyMember.mpr ⟨catalog, known⟩
    simp [mem]
  · split
    · rename_i catalog found
      simp only [found, OrderedMap.insertKeys, kept]
    · rename_i failure failed
      simp only [failed, kept]

theorem getStringState (r : Resolver) (locale : Option String) (key : String) :
    (getString source r locale key).state = (resolve source r locale).state := by
  unfold getString
  dsimp only
  split <;> rfl

/-- A resolver after some calls: it serves what the fresh one serves, and lists the tags it has
resolved. -/
structure Reached (source : Source) (fresh : Resolver) (past : List Call) (r : Resolver) : Prop where
  kept : Keeps source fresh r
  listed : r.cachedLocales = resolvedTags source fresh past

theorem freshReached (bundle : String) (defaultLocale : Option String) :
    Reached source (new bundle defaultLocale) [] (new bundle defaultLocale) :=
  ⟨.refl (newSettled bundle defaultLocale), rfl⟩

theorem resolvedTagsSnoc (fresh : Resolver) (past : List Call) {call : Call}
    (going : call ≠ .request .clear) :
    resolvedTags source fresh (past ++ [call]) =
      match call.locale?.bind (resolvedTag? source fresh) with
      | none => resolvedTags source fresh past
      | some tag =>
        if tag ∈ resolvedTags source fresh past then resolvedTags source fresh past
        else resolvedTags source fresh past ++ [tag] := by
  unfold resolvedTags
  rw [List.rtakeWhile_concat_pos _ _ _ (by simpa using going), List.filterMap_append]
  cases found : call.locale?.bind (resolvedTag? source fresh) with
  | none => simp [found]
  | some tag => simp [found, distinctSnoc, memDistinct]

theorem resolveReached {fresh r : Resolver} {past : List Call} (reached : Reached source fresh past r)
    (settled : Settled source fresh) (locale : Option String) {call : Call}
    (asks : call.locale? = some locale) (going : call ≠ .request .clear) :
    Reached source fresh (past ++ [call]) (resolve source r locale).state := by
  have stays := (resolveSettled reached.kept.settled locale).2
  refine ⟨reached.kept.trans stays, ?_⟩
  rw [resolveKeys, resolvedTagsSnoc fresh past going, asks, reached.kept.resolves settled,
    reached.kept.tagOf, reached.listed]
  simp only [Option.bind_some, resolvedTag?]
  cases (resolve source fresh locale).report.outcome with
  | ok catalog => rfl
  | error failure => rfl

theorem callReached {fresh r : Resolver} {past : List Call} (reached : Reached source fresh past r)
    (settled : Settled source fresh) (call : Call) :
    Reached source fresh (past ++ [call]) (afterCall source r call) := by
  cases call with
  | cachedLocales =>
    refine ⟨reached.kept, ?_⟩
    rw [resolvedTagsSnoc fresh past (by simp)]
    exact reached.listed
  | request request =>
    cases request with
    | resolve locale => exact resolveReached reached settled locale rfl (by simp)
    | getString locale key =>
      have visited := @resolveReached source fresh r past reached settled locale
        (.request (.getString locale key)) rfl (by simp)
      rwa [← getStringState r locale key] at visited
    | clear =>
      refine ⟨reached.kept.trans ⟨clearSettled r, rfl, rfl⟩, ?_⟩
      rw [resolvedTags, List.rtakeWhile_concat_neg _ _ _ (by simp)]
      rfl

theorem answerReached {fresh r : Resolver} {past : List Call} (reached : Reached source fresh past r)
    (settled : Settled source fresh) (call : Call) :
    answer source r call = plainAnswer source fresh past call := by
  cases call with
  | cachedLocales => exact congrArg Answer.locales reached.listed
  | request request =>
    cases request with
    | clear => rfl
    | resolve locale => exact congrArg Answer.catalog (reached.kept.resolves settled locale)
    | getString locale key =>
      exact congrArg Answer.template (reached.kept.getsStrings settled locale key)

theorem transcriptReached {fresh r : Resolver} {past : List Call} (reached : Reached source fresh past r)
    (settled : Settled source fresh) (calls : List Call) :
    transcript source r calls =
      calls.mapIdx fun i call => plainAnswer source fresh (past ++ calls.take i) call := by
  -- By induction on the calls; each one made becomes part of the past.
  induction calls generalizing r past with
  | nil => rfl
  | cons call rest ih =>
    have later := ih (callReached reached settled call)
    rw [transcript, answerReached reached settled call, later, List.mapIdx_cons]
    simp

theorem plainListing {fresh : Resolver} {past : List Call} {call : Call} {tags : List String}
    (lists : plainAnswer source fresh past call = .locales tags) :
    tags = resolvedTags source fresh past := by
  cases call with
  | cachedLocales => exact (Answer.locales.inj lists).symm
  | request request => cases request <;> contradiction

/-- No sequence of calls can tell a resolver from one that keeps no catalogs. -/
theorem cachingInvisible (source : Source) (bundle : String) (defaultLocale : Option String)
    (calls : List Call) :
    (transcript source (new bundle defaultLocale) calls =
      calls.mapIdx fun i call =>
        plainAnswer source (new bundle defaultLocale) (calls.take i) call) ∧
    ∀ tags, .locales tags ∈ transcript source (new bundle defaultLocale) calls → tags.Nodup := by
  have reached := @freshReached source bundle defaultLocale
  have same := transcriptReached reached (newSettled bundle defaultLocale) calls
  simp only [List.nil_append] at same
  refine ⟨same, ?_⟩
  intro tags mem
  rw [same] at mem
  obtain ⟨i, inside, lists⟩ := List.mem_mapIdx.mp mem
  rw [plainListing lists]
  exact distinctNodup _

end Phrasebook.Resolver

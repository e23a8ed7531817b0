import Mathlib.Data.List.Induction
import Mathlib.Data.Option.Defs
import Phrasebook.Proofs.Discovery
import Phrasebook.Proofs.Layers
import Phrasebook.Registry

/-! The shared resolver of a bundle and a directory. Until the registry is reset it answers everyone as
it answers its first asker, by whose spelling of the directory and whose default locale it was made. -/
namespace Phrasebook.Registry

open Resolver

structure Asker where
  bundle : String
  directory : String
  defaultLocale : Option String := none
  deriving DecidableEq, Repr

namespace Asker

def path (asker : Asker) : Path := .ofString asker.directory

def source (asker : Asker) (tree : FileTree) : Source :=
  (Catalog.Directory.usual asker.path).source tree

def resolver (asker : Asker) : Resolver := .new asker.bundle asker.defaultLocale

def key (asker : Asker) (tree : FileTree) : ResolverKey :=
  (asker.bundle, asker.path.resolve tree.base)

def AsksFor (tree : FileTree) (key : ResolverKey) (asker : Asker) : Prop :=
  asker.path.holdsNull = false ∧ asker.key tree = key

instance (tree : FileTree) (key : ResolverKey) (asker : Asker) :
    Decidable (asker.AsksFor tree key) :=
  inferInstanceAs (Decidable (_ ∧ _))

/-- What a resolver answers that is made for this asker and has not been asked before. -/
def alone (asker : Asker) (tree : FileTree) (locale : Option String) : Except Failure Catalog :=
  (asker.resolver.resolve (asker.source tree) locale).report.outcome

end Asker

inductive Visit where
  | enter (asker : Asker)
  | ask (asker : Asker) (request : Request)
  | resolve (bundle directory : String) (locale : Option String)
  | getString (bundle directory : String) (locale : Option String) (key : String)
  | reset
  deriving DecidableEq, Repr

def Visit.asker? : Visit → Option Asker
  | .enter asker | .ask asker _ => some asker
  | .resolve bundle directory _ | .getString bundle directory _ _ => some { bundle, directory }
  | .reset => none

def serve {α : Type} (registry : Registry) (tree : FileTree) (asker : Asker)
    (step : Source → Resolver → Step α) : Registry × Report α :=
  registry.run tree asker.bundle asker.directory asker.defaultLocale step

def after (tree : FileTree) (registry : Registry) : Visit → Registry
  | .enter asker => (registry.enter tree asker.bundle asker.directory asker.defaultLocale).1
  | .ask asker request =>
    (registry.serve tree asker fun source r => ⟨r.after source request, [], pure ()⟩).1
  | .resolve bundle directory locale => (registry.resolve tree bundle directory locale).1
  | .getString bundle directory locale key => (registry.getString tree bundle directory locale key).1
  | .reset => .empty

def following (tree : FileTree) (past : List Visit) : Registry := past.foldl (after tree) .empty

def sinceReset (past : List Visit) : List Visit := (past.reverse.takeWhile (· ≠ .reset)).reverse

def firstAsker? (tree : FileTree) (past : List Visit) (key : ResolverKey) : Option Asker :=
  ((sinceReset past).filterMap Visit.asker?).find? fun asker => asker.AsksFor tree key

/-- The asker that the resolver was made for which answers this one. -/
def Asker.first (asker : Asker) (tree : FileTree) (past : List Visit) : Asker :=
  (firstAsker? tree past (asker.key tree)).getD asker

structure Serves (tree : FileTree) (first : Asker) (shared : SharedResolver) : Prop where
  directory : shared.directory = .usual first.path
  keeps : Keeps (first.source tree) first.resolver shared.resolver

/-- A registry that holds one resolver for every key that was asked for, made for its first asker. -/
def Holds (tree : FileTree) (past : List Visit) (registry : Registry) : Prop :=
  ∀ key, Option.Rel (Serves tree) (firstAsker? tree past key) (OrderedMap.get? registry key)

section

variable {tree : FileTree} {past : List Visit} {registry : Registry} {asker : Asker}

theorem askedKey : keyOf tree asker.bundle asker.directory =
    if asker.path.holdsNull then .error .nullCharacter else .ok (asker.key tree) := by
  unfold keyOf FileTree.resolve
  change Except.map _ (if asker.path.holdsNull then _ else _) = _
  split <;> rfl

theorem firstAfterReset (key : ResolverKey) : firstAsker? tree (past ++ [.reset]) key = none := by
  simp [firstAsker?, sinceReset]

theorem firstAfterVisit {visit : Visit} (asked : visit.asker? = some asker) (key : ResolverKey) :
    firstAsker? tree (past ++ [visit]) key =
      (firstAsker? tree past key).or (if asker.AsksFor tree key then some asker else none) := by
  have goesOn : visit ≠ .reset := by
    rintro rfl
    simp [Visit.asker?] at asked
  have longer : sinceReset (past ++ [visit]) = sinceReset past ++ [visit] := by
    simp [sinceReset, goesOn]
  have last : [visit].filterMap Visit.asker? = [asker] := by
    simp [asked]
  simp only [firstAsker?, longer, List.filterMap_append, List.find?_append, last, List.find?_singleton,
    decide_eq_true_eq]

theorem firstAsks {key : ResolverKey} {first : Asker}
    (found : firstAsker? tree past key = some first) : first.AsksFor tree key := by
  simpa using List.find?_some found

theorem firstBundle : (asker.first tree past).bundle = asker.bundle := by
  unfold Asker.first
  cases found : firstAsker? tree past (asker.key tree) with
  | none => rfl
  | some first => exact congrArg Prod.fst (firstAsks found).2

theorem getServes (holds : Holds tree past registry) (asker : Asker) :
    Serves tree (asker.first tree past)
      (registry.get (asker.key tree) asker.directory asker.defaultLocale) := by
  have known := holds (asker.key tree)
  unfold get Asker.first
  generalize firstAsker? tree past (asker.key tree) = first at known ⊢
  generalize OrderedMap.get? registry (asker.key tree) = held at known ⊢
  cases known with
  | some serves => exact serves
  | none => exact ⟨rfl, .refl (newSettled asker.bundle asker.defaultLocale)⟩

theorem serveKnown {α : Type} {step : Source → Resolver → Step α} (holds : Holds tree past registry)
    (clean : asker.path.holdsNull = false) :
    ∃ r, Keeps ((asker.first tree past).source tree) (asker.first tree past).resolver r ∧
      registry.serve tree asker step =
        (registry.insert (asker.key tree)
            ⟨.usual (asker.first tree past).path,
              (step ((asker.first tree past).source tree) r).state⟩,
          (step ((asker.first tree past).source tree) r).report) := by
  have serves := getServes holds asker
  refine ⟨_, serves.keeps, ?_⟩
  simp only [serve, run, askedKey, clean, Bool.false_eq_true, if_false, serves.directory]
  rfl

theorem serveNull {α : Type} {step : Source → Resolver → Step α}
    (null : asker.path.holdsNull = true) :
    registry.serve tree asker step = (registry, .ofFiles (.error .nullCharacter)) := by
  simp only [serve, run, askedKey, null, if_true]

theorem servedHolds {α : Type} {step : Source → Resolver → Step α} {visit : Visit}
    (holds : Holds tree past registry) (asker : Asker) (asked : visit.asker? = some asker)
    (keeps : ∀ source r, Settled source r → Keeps source r (step source r).state) :
    Holds tree (past ++ [visit]) (registry.serve tree asker step).1 := by
  intro key
  rw [firstAfterVisit asked]
  cases null : asker.path.holdsNull with
  | true =>
    have other : ¬ asker.AsksFor tree key := fun asks => by simp [asks.1] at null
    rw [serveNull null, if_neg other, Option.or_none]
    exact holds key
  | false =>
    obtain ⟨r, kept, served⟩ := @serveKnown tree past registry asker α step holds null
    rw [served]
    simp only [OrderedMap.insertGet]
    by_cases same : asker.key tree = key
    · subst same
      have found : (firstAsker? tree past (asker.key tree)).or (some asker) =
          some (asker.first tree past) := by
        unfold Asker.first
        cases firstAsker? tree past (asker.key tree) <;> rfl
      rw [if_pos rfl, if_pos ⟨null, rfl⟩, found]
      exact .some ⟨rfl, kept.trans (keeps _ r kept.settled)⟩
    · rw [if_neg same, if_neg fun asks => same asks.2, Option.or_none]
      exact holds key

theorem afterHolds (holds : Holds tree past registry) (visit : Visit) :
    Holds tree (past ++ [visit]) (after tree registry visit) := by
  cases visit with
  | enter asker => exact servedHolds holds asker rfl fun _ _ => .refl
  | ask asker request => exact servedHolds holds asker rfl fun _ _ settled => afterKeeps settled request
  | resolve bundle directory locale =>
    exact servedHolds holds { bundle, directory } rfl
      fun _ _ settled => (resolveSettled settled locale).2
  | getString bundle directory locale key =>
    exact servedHolds holds { bundle, directory } rfl
      fun _ _ settled => (getStringSettled settled locale key).2
  | reset =>
    intro key
    rw [firstAfterReset]
    exact .none

theorem followingHolds (tree : FileTree) (past : List Visit) :
    Holds tree past (following tree past) := by
  induction past using List.reverseRecOn with
  | nil => exact fun _ => .none
  | append_singleton past visit ih =>
    rw [following, List.foldl_concat]
    exact afterHolds ih visit

end

/-- What an asker gets of the shared resolver after others have been there. -/
def Asker.shared (asker : Asker) (tree : FileTree) (past : List Visit) (locale : Option String) :
    Except Failure Catalog :=
  ((following tree past).serve tree asker fun source r => r.resolve source locale).2.outcome

/-- Everyone is answered as the first asker is on its own. Who asked first plays no part if it spelled
the directory alike and the same tag is meant; a directory that no file system can name has no shared
resolver at all. -/
theorem firstAskerAnswers (tree : FileTree) (past : List Visit) (asker : Asker)
    (locale : Option String) :
    (asker.path.holdsNull = true →
      asker.shared tree past locale = .error (.breach (.file .nullCharacter))) ∧
    (asker.path.holdsNull = false →
      asker.shared tree past locale = (asker.first tree past).alone tree locale ∧
      ((asker.first tree past).path = asker.path →
        requestedTag (asker.first tree past).defaultLocale locale =
          requestedTag asker.defaultLocale locale →
        asker.shared tree past locale = asker.alone tree locale)) := by
  refine ⟨fun null => ?_, fun clean => ?_⟩
  · rw [Asker.shared, serveNull null]
    rfl
  have answers : asker.shared tree past locale = (asker.first tree past).alone tree locale := by
    obtain ⟨r, kept, served⟩ := serveKnown (followingHolds tree past) clean
    rw [Asker.shared, served]
    exact kept.resolves (newSettled _ _) locale
  refine ⟨answers, fun path tag => answers.trans ?_⟩
  simp only [Asker.alone, Asker.source, Asker.resolver, path, firstBundle,
    (resolveSettled (newSettled _ _) locale).1]
  exact congrArg (catalogFor _ asker.bundle) tag

open Catalog.Directory (twoFiles greeting)

def frenchReader : Asker := { bundle := "messages", directory := "i18n", defaultLocale := some "fr" }

def secondVisits : List Visit :=
  [.resolve "messages" "gone/../i18n" none, .reset,
    .enter { bundle := "messages", directory := "./i18n", defaultLocale := some "FR" },
    .getString "messages" "i18n" none "greet"]

theorem frenchReaderServed :
    frenchReader.path.holdsNull = false ∧
    frenchReader.shared (twoFiles "messages_fr.properties") secondVisits none =
      .ok (greeting "fr" "Salut" "messages_fr.properties") ∧
    { frenchReader with directory := "i18n\x00" }.path.holdsNull = true ∧
    { frenchReader with directory := "i18n\x00" }.shared (twoFiles "messages_fr.properties")
      secondVisits none = .error (.breach (.file .nullCharacter)) := by
  have same := ((firstAskerAnswers (twoFiles "messages_fr.properties") secondVisits frenchReader
    none).2 (by decide)).2 (by decide +kernel) (by decide +kernel)
  refine ⟨by decide, same.trans (by decide +kernel), by decide, ?_⟩
  exact (firstAskerAnswers (twoFiles "messages_fr.properties") secondVisits
    { frenchReader with directory := "i18n\x00" } none).1 (by decide)

/-- An asker without a default locale leaves the next one without its own, and one that goes through a
directory that is not there leaves the next one without catalogs. -/
theorem secondAskerBound :
    frenchReader.alone (twoFiles "messages_fr.properties") none =
      .ok (greeting "fr" "Salut" "messages_fr.properties") ∧
    frenchReader.shared (twoFiles "messages_fr.properties")
      [.enter { bundle := "messages", directory := "i18n" }] none =
        .ok (greeting "" "Hello" "messages.properties") ∧
    frenchReader.shared (twoFiles "messages_fr.properties")
      [.getString "messages" "gone/../i18n" (some "fr") "greet"] none =
        .error (.issue (.catalogMissing "messages" ""
          ["gone/../i18n/messages.properties", "gone/../i18n/messages.json",
            "gone/../i18n/messages.yaml", "gone/../i18n/messages.yml"])) := by
  refine ⟨?_, ?_, ?_⟩ <;> decide +kernel

end Phrasebook.Registry

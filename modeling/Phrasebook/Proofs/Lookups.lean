import Phrasebook.Proofs.CatalogTexts
import Phrasebook.Proofs.SharedResolvers

/-! Look-ups of templates. A look-up is answered or breaks off, and it breaks off at the file of the default
catalog or of a layer: the name is too long to look for, or the text of the file breaks off. -/
namespace Phrasebook

open Report

namespace Catalog.Directory

/-- Why the catalog of a tag cannot be answered for. -/
inductive TagBreaks (tree : FileTree) (path : Path) (bundle tag : String) : Prop
  | name (long : (usual path).pathFor tree bundle (Locale.normalize (some tag)) = .error .nameTooLong)
  | text {file content text}
      (found : (usual path).pathFor tree bundle (Locale.normalize (some tag)) = .ok (some file))
      (stands : tree.stat file = .ok (.file content)) (decoded : contentText content = .ok text)
      (breaks : Breaks text (Text.lower file.suffix))

section

variable {tree : FileTree} {path : Path} {bundle tag : String}

theorem pathFault {fault : FileFault}
    (failed : (usual path).pathFor tree bundle tag = .error fault) : fault = .nameTooLong := by
  simp only [pathFor] at failed
  split at failed
  · simp at failed
  · exact FileTree.firstFault failed

theorem pathStands {file : Path} (found : (usual path).pathFor tree bundle tag = .ok (some file)) :
    ∃ content, tree.stat file = .ok (.file content) := by
  simp only [pathFor] at found
  split at found
  · simp at found
  · exact FileTree.fileStands (FileTree.firstFound found).2

theorem findFailure {failure : Failure}
    (failed : ((usual path).find tree bundle tag).outcome = .error failure) :
    (∃ fault, (usual path).pathFor tree bundle (Locale.normalize (some tag)) = .error fault ∧
      failure = .breach (.file fault)) ∨
    ∃ file, (usual path).pathFor tree bundle (Locale.normalize (some tag)) = .ok (some file) ∧
      (messagesOfFile tree file (some bundle) = .error failure ∨ ∃ issue, failure = .issue issue) := by
  simp only [find, bindOutcomeError, ofFilesError, ofFilesOk] at failed
  rcases failed with fault | ⟨asked, found, rest⟩
  · exact .inl fault
  cases asked with
  | none => simp at rest
  | some file =>
    simp only [bindOutcomeError, ofExceptOutcome] at rest
    rcases rest with read | ⟨messages, -, same | ⟨-, -, made | ⟨catalog, -, same⟩⟩⟩
    · exact .inr ⟨file, found, .inl read⟩
    · simp at same
    · refine .inr ⟨file, found, .inr ?_⟩
      unfold Catalog.make at made
      split at made
      · exact ⟨_, (Except.error.inj made).symm⟩
      · simp at made
    · simp at same

theorem findBreaks : Breaches ((usual path).find tree bundle tag).outcome ↔
    TagBreaks tree path bundle tag := by
  constructor
  · rintro ⟨breach, failed⟩
    rcases findFailure failed with ⟨fault, found, -⟩ | ⟨file, found, read | ⟨issue, same⟩⟩
    · obtain rfl := pathFault found
      exact .name found
    · obtain ⟨content, stands⟩ := pathStands found
      obtain ⟨text, decoded, breaks⟩ := (fileBreaks stands (some bundle)).mp ⟨breach, read⟩
      exact .text found stands decoded breaks
    · simp at same
  · intro breaks
    simp only [Breaches, find, bindOutcomeError, ofFilesError, ofFilesOk]
    cases breaks with
    | name long => exact ⟨_, .inl ⟨_, long, rfl⟩⟩
    | text found stands decoded breaks =>
      obtain ⟨breach, read⟩ := (fileBreaks stands (some bundle)).mpr ⟨_, decoded, breaks⟩
      refine ⟨breach, .inr ⟨_, found, ?_⟩⟩
      simp only [bindOutcomeError, ofExceptOutcome]
      exact .inl read

theorem findSettles {failure : Failure}
    (failed : ((usual path).find tree bundle tag).outcome = .error failure) :
    (∃ issue, failure = .issue issue) ∨ ∃ breach, failure = .breach breach := by
  rcases findFailure failed with ⟨fault, -, rfl⟩ | ⟨file, found, read | issue⟩
  · exact .inr ⟨_, rfl⟩
  · obtain ⟨content, stands⟩ := pathStands found
    rcases fileSettles stands (some bundle) with ⟨messages, other⟩ | ⟨reason, other⟩ | ⟨breach, other⟩
    · simp [other] at read
    · exact .inl ⟨_, (Except.error.inj (other.symm.trans read)).symm⟩
    · exact .inr ⟨breach, (Except.error.inj (other.symm.trans read)).symm⟩
  · exact .inl issue

end

end Catalog.Directory

namespace Resolver

open Catalog.Directory

theorem layeredFailure {source : Source} {bundle : String} {base : Catalog} {tags : List String}
    {failure : Failure} (failed : layered source bundle base tags = .error failure) :
    ∃ tag ∈ tags, variantOf source bundle tag = .error failure := by
  induction tags generalizing base with
  | nil => simp [layered] at failed
  | cons tag rest ih =>
    unfold layered at failed
    split at failed
    · rename_i other first
      cases failed
      exact ⟨tag, List.mem_cons_self, first⟩
    all_goals
      obtain ⟨other, mem, later⟩ := ih failed
      exact ⟨other, List.mem_cons_of_mem _ mem, later⟩

theorem layeredFails {source : Source} {bundle tag : String} {tags : List String} {failure : Failure}
    (mem : tag ∈ tags) (failed : variantOf source bundle tag = .error failure) (base : Catalog) :
    ∃ other, layered source bundle base tags = .error other := by
  induction tags generalizing base with
  | nil => simp at mem
  | cons first rest ih =>
    rcases List.mem_cons.mp mem with rfl | inside
    · exact ⟨failure, by simp only [layered, failed]⟩
    · unfold layered
      split
      · exact ⟨_, rfl⟩
      · exact ih inside base
      · exact ih inside _

theorem loadBreach {source : Source} {bundle : String} {breach : Breach} :
    (source.load bundle "").outcome = .error (.breach breach) ↔
      (source.find bundle "").outcome = .error (.breach breach) := by
  simp only [Source.load, bindOutcomeError]
  refine or_iff_left ?_
  rintro ⟨found, -, rest⟩
  cases found <;> simp at rest

section

variable {tree : FileTree} {path : Path} {bundle tag : String}

theorem variantFailure {failure : Failure}
    (failed : variantOf ((usual path).source tree) bundle tag = .error failure) :
    TagBreaks tree path bundle tag ∧ ∃ breach, failure = .breach breach := by
  unfold variantOf at failed
  split at failed
  · simp at failed
  · simp at failed
  · rename_i other readable found
    obtain rfl := Except.error.inj failed
    rcases findSettles found with ⟨issue, rfl⟩ | ⟨breach, rfl⟩
    · obtain ⟨file, reason, rfl⟩ := findIssue found
      exact absurd rfl (readable file reason (some bundle))
    · exact ⟨findBreaks.mp ⟨breach, found⟩, breach, rfl⟩

theorem variantBreaks (breaks : TagBreaks tree path bundle tag) :
    ∃ breach, variantOf ((usual path).source tree) bundle tag = .error (.breach breach) := by
  obtain ⟨breach, failed⟩ := findBreaks.mpr breaks
  have found : (((usual path).source tree).find bundle tag).outcome = .error (.breach breach) := failed
  exact ⟨breach, by simp [variantOf, found]⟩

/-- The layers over a default catalog of which none breaks off: its keys are all there, and each template
is one of the default or of a variant that was found. -/
theorem layeredWhole {tags : List String} {default : Catalog}
    (whole : ∀ tag ∈ tags, ¬ TagBreaks tree path bundle tag) :
    ∃ catalog, layered ((usual path).source tree) bundle default tags = .ok catalog ∧
      (∀ key ∈ default.keys, ∃ template, catalog.get? key = some template) ∧
      ∀ key template, catalog.get? key = some template → default.get? key = some template ∨
        ∃ tag ∈ tags, ∃ variant, variantOf ((usual path).source tree) bundle tag = .ok (some variant) ∧
          variant.get? key = some template := by
  let set : CatalogSet :=
    { bundle := bundle
      default := default
      variants :=
        tags.filterMap fun tag => (variantOf ((usual path).source tree) bundle tag).toOption.join }
  have supplied : ∀ tag ∈ tags, variantOf ((usual path).source tree) bundle tag = .ok none ∨
      ∃ variant ∈ set.variants,
        variantOf ((usual path).source tree) bundle tag = .ok (some variant) := by
    intro tag mem
    cases answer : variantOf ((usual path).source tree) bundle tag with
    | error failure => exact absurd (variantFailure answer).1 (whole tag mem)
    | ok found =>
      cases found with
      | none => exact .inl rfl
      | some variant =>
        have served : ((variantOf ((usual path).source tree) bundle tag).toOption.join) =
            some variant := by rw [answer]; rfl
        exact .inr ⟨variant, List.mem_filterMap.mpr ⟨tag, mem, served⟩, rfl⟩
  obtain ⟨catalog, laid, made⟩ := Shelf.layersMade supplied (Shelf.defaultMade set)
  refine ⟨catalog, laid, made.known, fun key template found => ?_⟩
  obtain ⟨held, mem, holds⟩ := made.origin key template found
  rcases List.mem_cons.mp mem with rfl | inside
  · exact .inl holds
  · obtain ⟨tag, asked, served⟩ := List.mem_filterMap.mp inside
    refine .inr ⟨tag, asked, held, ?_, holds⟩
    cases answer : variantOf ((usual path).source tree) bundle tag with
    | error failure => simp [answer, Except.toOption] at served
    | ok found =>
      rw [answer] at served
      exact congrArg _ served

theorem catalogBreaks :
    Breaches (catalogFor ((usual path).source tree) bundle tag) ↔
      TagBreaks tree path bundle "" ∨
      (∃ default, (((usual path).source tree).load bundle "").outcome = .ok default) ∧
        ∃ layer ∈ layersOf tag, TagBreaks tree path bundle layer := by
  constructor
  · rintro ⟨breach, failed⟩
    unfold catalogFor at failed
    split at failed
    · rename_i failure loaded
      obtain rfl := Except.error.inj failed
      exact .inl (findBreaks.mp ⟨breach, loadBreach.mp loaded⟩)
    · rename_i default loaded
      refine .inr ⟨⟨default, loaded⟩, ?_⟩
      cases laid : layered ((usual path).source tree) bundle default (layersOf tag) with
      | ok catalog => simp [laid, Except.map] at failed
      | error failure =>
        obtain ⟨layer, mem, refused⟩ := layeredFailure laid
        exact ⟨layer, mem, (variantFailure refused).1⟩
  · rintro (breaks | ⟨⟨default, loaded⟩, layer, mem, breaks⟩)
    · obtain ⟨breach, failed⟩ := findBreaks.mpr breaks
      have refused : (((usual path).source tree).load bundle "").outcome = .error (.breach breach) :=
        loadBreach.mpr failed
      exact ⟨breach, by simp only [catalogFor, refused]⟩
    · obtain ⟨breach, refused⟩ := variantBreaks breaks
      obtain ⟨failure, laid⟩ := layeredFails mem refused default
      obtain ⟨other, -, failed⟩ := layeredFailure laid
      obtain ⟨-, breach, rfl⟩ := variantFailure failed
      exact ⟨breach, by simp only [catalogFor, loaded, laid, Except.map]⟩

theorem catalogWhole {default : Catalog}
    (loaded : (((usual path).source tree).load bundle "").outcome = .ok default)
    (whole : ∀ layer ∈ layersOf tag, ¬ TagBreaks tree path bundle layer) {key : String}
    (known : key ∈ default.keys) :
    ∃ catalog template, catalogFor ((usual path).source tree) bundle tag = .ok catalog ∧
      catalog.get? key = some template ∧
      (default.get? key = some template ∨ ∃ layer ∈ layersOf tag, ∃ variant,
        (((usual path).source tree).find bundle layer).outcome = .ok (some variant) ∧
          variant.get? key = some template) := by
  obtain ⟨catalog, laid, keeps, origin⟩ := @layeredWhole _ _ _ _ default whole
  obtain ⟨template, found⟩ := keeps key known
  refine ⟨{ catalog with locale := tag }, template, ?_, found, ?_⟩
  · simp only [catalogFor, loaded, laid, Except.map]
  · rcases origin key template found with own | ⟨layer, mem, variant, served, holds⟩
    · exact .inl own
    · refine .inr ⟨layer, mem, variant, ?_, holds⟩
      unfold variantOf at served
      split at served
      · rename_i answer outcome
        cases served
        exact outcome
      · simp at served
      · simp at served

end

end Resolver

namespace Registry

open Resolver Catalog.Directory

def answerOf (key : String) : Except Failure Catalog → Except Failure String
  | .ok catalog => .ok ((catalog.get? key).getD (missingKeyMarker key))
  | .error (.breach breach) => .error (.breach breach)
  | .error _ => .ok (missingKeyMarker key)

theorem answerBreaks {key : String} {resolved : Except Failure Catalog} :
    Breaches (answerOf key resolved) ↔ Breaches resolved := by
  cases resolved with
  | ok catalog => simp [answerOf]
  | error failure => cases failure <;> simp [answerOf, Breaches]

theorem answered (key : String) (resolved : Except Failure Catalog) :
    Answered (answerOf key resolved) := by
  unfold answerOf
  split
  · exact .inl ⟨_, rfl⟩
  · exact .inr ⟨_, rfl⟩
  · exact .inl ⟨_, rfl⟩

variable {tree : FileTree} {past : List Visit} {bundle directory : String}

theorem answeredFirst (clean : ({ bundle, directory } : Asker).path.holdsNull = false)
    (locale : Option String) (key : String) :
    ((following tree past).getString tree bundle directory locale key).2.outcome =
      answerOf key (catalogFor ((Asker.first { bundle, directory } tree past).source tree) bundle
        (requestedTag (Asker.first { bundle, directory } tree past).defaultLocale locale)) := by
  have same : (Asker.first { bundle, directory } tree past).resolver.bundle = bundle := firstBundle
  obtain ⟨r, kept, served⟩ := @serveKnown tree past _ { bundle, directory } String
    (fun source r => r.getString source locale key) (followingHolds tree past) clean
  have answer := (getStringSettled kept.settled locale key).1
  rw [kept.bundle, kept.tagOf, same] at answer
  exact (congrArg (fun done => done.2.outcome) served).trans answer

/-- What comes of a look-up. The file of the default catalog and those of the layers over it decide whether
it is answered at all; if none of them breaks off, a key of the default is answered with one of its
templates. -/
theorem lookupAnswered (tree : FileTree) (past : List Visit) (bundle directory : String)
    (locale : Option String) (key : String) :
    let asker : Asker := { bundle, directory }
    let first := asker.first tree past
    let layers := layersOf (requestedTag first.defaultLocale locale)
    let outcome := ((following tree past).getString tree bundle directory locale key).2.outcome
    (asker.path.holdsNull = true → outcome = .error (.breach (.file .nullCharacter))) ∧
    (asker.path.holdsNull = false →
      Answered outcome ∧
      (Breaches outcome ↔
        TagBreaks tree first.path bundle "" ∨
        (∃ default, ((first.source tree).load bundle "").outcome = .ok default) ∧
          ∃ layer ∈ layers, TagBreaks tree first.path bundle layer) ∧
      ∀ default, ((first.source tree).load bundle "").outcome = .ok default → key ∈ default.keys →
        (∀ layer ∈ layers, ¬ TagBreaks tree first.path bundle layer) →
        ∃ template, outcome = .ok template ∧
          (default.get? key = some template ∨ ∃ layer ∈ layers, ∃ variant,
            ((first.source tree).find bundle layer).outcome = .ok (some variant) ∧
              variant.get? key = some template)) := by
  intro asker first layers outcome
  refine ⟨fun null => ?_, fun clean => ?_⟩
  · have refused := @serveNull tree (following tree past) asker String
      (fun source r => r.getString source locale key) null
    exact congrArg (fun done => done.2.outcome) refused
  have answer : outcome = answerOf key (catalogFor (first.source tree) bundle
    (requestedTag first.defaultLocale locale)) := answeredFirst clean locale key
  rw [answer]
  refine ⟨answered key _, answerBreaks.trans catalogBreaks, fun default loaded known whole => ?_⟩
  obtain ⟨catalog, template, resolved, found, origin⟩ := catalogWhole loaded whole known
  refine ⟨template, (congrArg (answerOf key) resolved).trans ?_, origin⟩
  rw [answerOf, found, Option.getD_some]

/-- A list where a map should be, and a date that is on no calendar. -/
def brokenVariants : FileTree where
  base := []
  entries := .ofList
    [(["i18n"], .directory),
      (["i18n", "messages.properties"], .file "greet=Hello \x7b0\x7d".toUTF8),
      (["i18n", "messages_de.json"], .file "[1]".toUTF8),
      (["i18n", "messages_fr.yaml"], .file "since: 2024-13-45\n".toUTF8)]

theorem helloLoaded :
    ((Asker.source { bundle := "messages", directory := "i18n" } brokenVariants).load
      "messages" "").outcome = .ok (greeting "" "Hello" "messages.properties") := by
  decide +kernel

theorem germanLayer : layersOf (requestedTag none (some "de")) = ["de"] ∧
    ((usual ⟨.relative, ["i18n"]⟩).find brokenVariants "messages" "de").outcome =
      .error (.issue (.catalogFormat "i18n/messages_de.json" .notMapping (some "messages"))) := by
  constructor <;> decide +kernel

theorem germanAnswered :
    (Asker.path { bundle := "messages", directory := "i18n" }).holdsNull = false ∧
    (∀ layer ∈ layersOf (requestedTag none (some "de")),
      ¬ TagBreaks brokenVariants ⟨.relative, ["i18n"]⟩ "messages" layer) ∧
    ∃ template,
      ((following brokenVariants []).getString brokenVariants "messages" "i18n" (some "de")
        "greet").2.outcome = .ok template ∧
      ((greeting "" "Hello" "messages.properties").get? "greet" = some template ∨
        ∃ layer ∈ layersOf (requestedTag none (some "de")), ∃ variant,
          ((usual ⟨.relative, ["i18n"]⟩).find brokenVariants "messages" layer).outcome =
              .ok (some variant) ∧ variant.get? "greet" = some template) := by
  obtain ⟨layers, refused⟩ := germanLayer
  have whole : ∀ layer ∈ layersOf (requestedTag none (some "de")),
      ¬ TagBreaks brokenVariants ⟨.relative, ["i18n"]⟩ "messages" layer := by
    rw [layers]
    intro layer mem breaks
    obtain rfl := List.mem_singleton.mp mem
    obtain ⟨breach, other⟩ := findBreaks.mpr breaks
    simp [refused] at other
  exact ⟨by decide, whole,
    ((lookupAnswered brokenVariants [] "messages" "i18n" (some "de") "greet").2 (by decide)).2.2 _
      helloLoaded (by decide) whole⟩

/-- The default catalog has the key, and still one variant that breaks off leaves the look-up without an
answer. -/
theorem frenchUnanswered :
    ((following brokenVariants []).getString brokenVariants "messages" "i18n" none
      "greet").2.outcome = .ok "Hello \x7b0\x7d" ∧
    ((following brokenVariants []).getString brokenVariants "messages" "i18n" (some "fr")
      "greet").2.outcome = .error (.breach .value) := by
  constructor <;> decide +kernel

end Registry

end Phrasebook

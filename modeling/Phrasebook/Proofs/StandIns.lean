import Mathlib.Data.List.Sort
import Mathlib.Data.String.Basic
import Phrasebook.Proofs.GeneratedCalls
import Phrasebook.Proofs.Spellings
import Phrasebook.Proofs.Undisturbed

/-! Messages in memory in place of the files of a directory. A source that keeps what the files hold answers
like the directory, up to the file that a catalog names as its source, except where the name of a file is
too long to be looked for. -/
namespace Phrasebook

open Report

namespace Locale

open Text

def IsAscii (text : String) : Prop := ∀ c ∈ text.toList, c.toNat < 128

instance (text : String) : Decidable (IsAscii text) := by
  unfold IsAscii
  exact List.decidableBAll (fun c => c.toNat < 128) text.toList

theorem asciiLetters {part : List Char} (ascii : ∀ c ∈ part, c.toNat < 128) :
    part.all isLetter = part.all isAsciiLetter := by
  rw [Bool.eq_iff_iff, List.all_eq_true, List.all_eq_true]
  exact forall₂_congr fun c mem => by rw [asciiIsLetter (ascii c mem)]

theorem asciiStays {part : List Char} (ascii : ∀ c ∈ part, c.toNat < 128) : ¬ Outgrows part := by
  intro outgrows
  obtain ⟨two, letters⟩ := outgrows.1
  rw [asciiLetters ascii] at letters
  have shape : isSubtag part = true := by simp [isSubtag, two, letters]
  exact (subtagStands part).mp (subtagSettles shape).2 outgrows

theorem asciiSettled {tag : String} (ascii : IsAscii tag) :
    normalize (some (normalize (some tag))) = normalize (some tag) :=
  (normalizedStands (some tag)).mpr fun _ mem =>
    asciiStays fun c inside => ascii c (pieceWithin (fieldMember.mp (List.mem_of_mem_tail mem)).1 inside)

end Locale

/-! ### Sources that are alike -/

def Catalog.unsourced (c : Catalog) : Catalog := { c with source := none }

def CatalogSet.unsourced (s : CatalogSet) : CatalogSet :=
  { s with default := s.default.unsourced, variants := s.variants.map Catalog.unsourced }

/-- Values that look the same in a view, or issues of one number; or the first outcome breaks off at a name
that is too long, where there can be one. -/
inductive Alike {α β : Type} (view : α → β) (long : Prop) :
    Except Failure α → Except Failure α → Prop
  | value {a b : α} (same : view a = view b) : Alike view long (.ok a) (.ok b)
  | issue {a b : Issue} (same : a.code = b.code) :
      Alike view long (.error (.issue a)) (.error (.issue b))
  | broken (isLong : long) {outcome : Except Failure α} :
      Alike view long (.error (.breach (.file .nameTooLong))) outcome

theorem Alike.mono {α β : Type} {view : α → β} {long longer : Prop} {outcome other : Except Failure α}
    (alike : Alike view long outcome other) (weaker : long → longer) :
    Alike view longer outcome other := by
  cases alike with
  | value same => exact .value same
  | issue same => exact .issue same
  | broken isLong => exact .broken (weaker isLong)

theorem bindAlike {α β γ δ : Type} {view : α → β} {further : γ → δ} {long : Prop}
    {first other : Report α} {next after : α → Report γ}
    (head : Alike view long first.outcome other.outcome)
    (tail : ∀ a b, view a = view b → Alike further long (next a).outcome (after b).outcome) :
    Alike further long (first >>= next).outcome (other >>= after).outcome := by
  rw [bindOutcome, bindOutcome]
  generalize first.outcome = outcome at head
  generalize other.outcome = counterpart at head
  cases head with
  | value same => exact tail _ _ same
  | issue same => exact .issue same
  | broken isLong => exact .broken isLong

namespace Source

variable {source other : Source} {bundle : String} {long : Prop}

def FindsAlike (long : Prop) (source other : Source) (bundle locale : String) : Prop :=
  Alike (Option.map Catalog.unsourced) long (source.find bundle locale).outcome
    (other.find bundle locale).outcome

theorem loadAlike {locale : String} (found : FindsAlike long source other bundle locale) :
    Alike Catalog.unsourced long (source.load bundle locale).outcome (other.load bundle locale).outcome := by
  refine bindAlike found fun a b same => ?_
  cases a with
  | none =>
    obtain rfl := Option.map_eq_none_iff.mp same.symm
    exact .issue rfl
  | some left =>
    obtain ⟨right, rfl, seen⟩ := Option.map_eq_some_iff.mp same.symm
    exact .value seen.symm

theorem findAllAlike {locales : List String}
    (each : ∀ locale ∈ locales, FindsAlike long source other bundle locale) :
    Alike (List.map Catalog.unsourced) long (source.findAll bundle locales).outcome
      (other.findAll bundle locales).outcome := by
  induction locales with
  | nil => exact .value rfl
  | cons locale rest ih =>
    obtain ⟨head, later⟩ := List.forall_mem_cons.mp each
    refine bindAlike head fun a b same => bindAlike (ih later) fun as bs others => .value ?_
    have first : a.toList.map Catalog.unsourced = b.toList.map Catalog.unsourced := by
      rw [← Option.toList_map, same, Option.toList_map]
    rw [List.map_append, List.map_append, first, others]

theorem loadSetAlike {locales : List String} (default : FindsAlike long source other bundle "")
    (listed : (source.locales bundle).outcome = .ok locales)
    (alsoListed : (other.locales bundle).outcome = .ok locales)
    (each : ∀ locale ∈ locales, FindsAlike long source other bundle locale) :
    Alike CatalogSet.unsourced long (source.loadSet bundle).outcome (other.loadSet bundle).outcome := by
  refine bindAlike (loadAlike default) fun a b first => ?_
  have opened {held : Source} (known : (held.locales bundle).outcome = .ok locales)
      (next : List String → Report CatalogSet) :
      (held.locales bundle >>= next).outcome = (next locales).outcome := by
    rw [bindOutcome, known]
    rfl
  rw [opened listed, opened alsoListed]
  refine bindAlike (findAllAlike each) fun variants others later => .value ?_
  simp only [CatalogSet.unsourced, first, later]

end Source

/-! ### Messages in memory -/

namespace Bundles

def texts (messages : OrderedMap String String) : List (Value × Value) :=
  messages.entries.map fun entry => (.text entry.1, .text entry.2)

/-- The messages of a bundle by locale, as they are handed over to be kept in memory. -/
def nested (bundle : String) (catalogs : OrderedMap String (OrderedMap String String)) :
    OrderedMap String (OrderedMap (Option String) (List (Value × Value))) :=
  .ofList [(bundle, .ofList (catalogs.entries.map fun entry => (some entry.1, texts entry.2)))]

theorem textsFlat (messages : OrderedMap String String) :
    Catalog.flatten (texts messages) = .ok messages := by
  have each (flat : OrderedMap String String) (entries : List (String × String)) :
      Catalog.flattenEntries "" flat (entries.map fun entry => (.text entry.1, .text entry.2)) =
        .ok (flat.insertAll entries) := by
    induction entries generalizing flat with
    | nil => rfl
    | cons entry rest ih => exact ih (flat.insert entry.1 entry.2)
  exact (each .empty messages.entries).trans (congrArg _ messages.ofEntries)

theorem catalogsKept {catalogs : OrderedMap String (OrderedMap String String)}
    (settled : ∀ locale ∈ catalogs.keys, localeOf (some locale) = locale) :
    catalogsOf (.ofList (catalogs.entries.map fun entry => (some entry.1, texts entry.2))) =
      .ok catalogs := by
  have distinct : ((catalogs.entries.map fun entry => (some entry.1, texts entry.2)).map
      Prod.fst).Nodup := by
    have names := catalogs.distinct.map (f := some) fun _ _ => Option.some.inj
    simpa only [List.map_map, Function.comp_def] using names
  have each (done : OrderedMap String (OrderedMap String String))
      (entries : List (String × OrderedMap String String))
      (fixed : ∀ entry ∈ entries, localeOf (some entry.1) = entry.1) :
      (entries.map fun entry => (some entry.1, texts entry.2)).foldlM
        (fun done entry => do
          let messages ← Catalog.flatten entry.2
          .ok (done.insert (localeOf entry.1) messages)) done =
        (.ok (done.insertAll entries) : Except Breach _) := by
    induction entries generalizing done with
    | nil => rfl
    | cons entry rest ih =>
      obtain ⟨first, later⟩ := List.forall_mem_cons.mp fixed
      rw [List.map_cons, List.foldlM_cons]
      simp only [textsFlat, first]
      exact ih (done.insert entry.1 entry.2) later
  rw [catalogsOf, OrderedMap.ofList, OrderedMap.insertAllFresh .empty _ distinct]
  refine (each .empty catalogs.entries fun entry mem => ?_).trans (congrArg _ catalogs.ofEntries)
  exact settled entry.1 (List.mem_map.mpr ⟨entry, mem, rfl⟩)

theorem nestedKept (bundle : String) {catalogs : OrderedMap String (OrderedMap String String)}
    (settled : ∀ locale ∈ catalogs.keys, localeOf (some locale) = locale) :
    ofNested (nested bundle catalogs) = .ok (.ofList [(bundle, catalogs)]) := by
  have one : (nested bundle catalogs).entries = [(bundle,
      .ofList (catalogs.entries.map fun entry => (some entry.1, texts entry.2)))] := rfl
  rw [ofNested, one, List.foldlM_cons]
  simp only [catalogsKept settled]
  rfl

theorem keptMessages (bundle locale : String) (catalogs : OrderedMap String (OrderedMap String String)) :
    messages? (.ofList [(bundle, catalogs)]) bundle locale = catalogs.get? locale := by
  have held : (OrderedMap.ofList [(bundle, catalogs)]).get? bundle = some catalogs := by
    simp [OrderedMap.ofList, OrderedMap.insertAll, OrderedMap.insertGet]
  rw [messages?, held, Option.bind_some]

end Bundles

namespace Catalog.Directory

open FileTree

variable {tree : FileTree} {path : Path} {place : List String} {bundle requested : String}

instance (locale : String) : Decidable (IsAskable locale) := by
  unfold IsAskable
  infer_instance

/-- The file of a locale among those of a directory. -/
def heldName (tree : FileTree) (place : List String) (bundle locale : String) : Option String :=
  (fileNamesOf bundle locale).find? fun name => decide (name ∈ tree.fileNames place)

/-- A directory whose files for a bundle can be read and have names that normalizing does not change. -/
structure Tidy (tree : FileTree) (path : Path) (place : List String) (bundle : String) : Prop where
  tagged : ∀ name ∈ tree.fileNames place, ∀ tag, (usual path).tagIn? bundle name = some tag →
    name ∈ fileNamesOf bundle tag ∧ Locale.isTag tag = true ∧ Locale.normalize (some tag) = tag
  readable : ∀ locale, IsAskable locale → ∀ name ∈ fileNamesOf bundle locale,
    name ∈ tree.fileNames place →
      ∃ messages, messagesOfFile tree (path.child name) (some bundle) = .ok messages

/-- Catalogs in memory that hold, for each locale, what its file in a directory holds. -/
def Copies (tree : FileTree) (path : Path) (place : List String) (bundle : String)
    (catalogs : OrderedMap String (OrderedMap String String)) : Prop :=
  ∀ locale messages, catalogs.get? locale = some messages ↔ IsAskable locale ∧
    ∃ name, heldName tree place bundle locale = some name ∧
      messagesOfFile tree (path.child name) (some bundle) = .ok messages

/-- Whether a request can be looked for: where it has files at all, their names must not be too long. -/
def CanLook (path : Path) (bundle requested : String) : Prop :=
  IsAskable (Locale.normalize (some requested)) →
    Fits path (longestOf bundle (Locale.normalize (some requested)))

theorem heldListed {locale name : String} (held : heldName tree place bundle locale = some name) :
    name ∈ fileNamesOf bundle locale ∧ name ∈ tree.fileNames place :=
  ⟨List.mem_of_find?_eq_some held, by simpa using List.find?_some held⟩

theorem findHeld {file : Path} {messages : OrderedMap String String}
    (asked : (usual path).pathFor tree bundle (Locale.normalize (some requested)) = .ok (some file))
    (read : messagesOfFile tree file (some bundle) = .ok messages) :
    ((usual path).find tree bundle requested).outcome =
      (Catalog.make bundle (Locale.normalize (some requested)) messages (some file)).map some := by
  have files := ofFilesOk.mpr asked
  rw [find, bindOutcome, files]
  change (ofExcept (messagesOfFile tree file (some bundle)) >>= fun messages => _).outcome = _
  rw [read]
  change (record _ >>= fun _ => ofExcept (Catalog.make bundle _ messages (some file)) >>= fun catalog =>
    pure (some catalog)).outcome = _
  cases Catalog.make bundle (Locale.normalize (some requested)) messages (some file) <;> rfl

theorem makeAlike (bundle locale : String) (messages : OrderedMap String String)
    (source other : Option Path) (long : Prop) :
    Alike (Option.map unsourced) long ((Catalog.make bundle locale messages source).map some)
      ((Catalog.make bundle locale messages other).map some) := by
  unfold Catalog.make
  split
  · exact .issue rfl
  · exact .value rfl

variable {catalogs : OrderedMap String (OrderedMap String String)}

theorem copyUnasked (copies : Copies tree path place bundle catalogs) {locale : String}
    (other : ¬ IsAskable locale) : catalogs.get? locale = none := by
  refine Option.eq_none_iff_forall_not_mem.mpr fun messages held => ?_
  exact other ((copies locale messages).mp held).1

theorem copySettled (tidy : Tidy tree path place bundle) (valid : Target.isBundleName bundle = true)
    (copies : Copies tree path place bundle catalogs) {locale : String} (mem : locale ∈ catalogs.keys) :
    Bundles.localeOf (some locale) = locale := by
  obtain ⟨messages, held⟩ := OrderedMap.keyMember.mp mem
  obtain ⟨askable, name, found, -⟩ := (copies locale messages).mp held
  rcases askable with rfl | shape
  · rfl
  · obtain ⟨named, listed⟩ := heldListed found
    obtain ⟨-, -, settled⟩ := tidy.tagged name listed locale (tagRead valid shape named)
    have other : locale ≠ "default" := by
      rintro rfl
      exact absurd shape (by decide)
    simp [Bundles.localeOf, other, settled]

theorem keptFind : ((Bundles.source (.ofList [(bundle, catalogs)])).find bundle requested).outcome =
    (catalogs.get? (Locale.normalize (some requested))).elim (.ok none) fun messages =>
      (Catalog.make bundle (Locale.normalize (some requested)) messages none).map some := by
  simp only [Bundles.source, Bundles.keptMessages]
  cases catalogs.get? (Locale.normalize (some requested)) <;> rfl

theorem askedAgain (valid : Target.isBundleName bundle = true) (opens : tree.Opens path place)
    (settled : Locale.normalize (some (Locale.normalize (some requested))) =
      Locale.normalize (some requested)) :
    (usual path).pathFor tree bundle (Locale.normalize (some requested)) =
      if IsAskable (Locale.normalize (some requested)) then
        if Fits path (longestOf bundle (Locale.normalize (some requested))) then
          .ok ((heldName tree place bundle (Locale.normalize (some requested))).map path.child)
        else .error .nameTooLong
      else .ok none := by
  split
  · rename_i askable
    have asked := @askedPath tree path place bundle (Locale.normalize (some requested)) valid opens
      (by rwa [settled])
    rwa [settled] at asked
  · rename_i other
    exact unaskedPath (by rwa [settled])

theorem missingAlike (asked : (usual path).pathFor tree bundle (Locale.normalize (some requested)) = .ok none)
    (missing : catalogs.get? (Locale.normalize (some requested)) = none) (long : Prop) :
    Source.FindsAlike long ((usual path).source tree) (Bundles.source (.ofList [(bundle, catalogs)]))
      bundle requested := by
  have unfound : (((usual path).source tree).find bundle requested).outcome = .ok none :=
    findOutcome.mpr (.inl ⟨asked, rfl⟩)
  rw [Source.FindsAlike, keptFind, missing, unfound]
  exact .value rfl

theorem heldAlike {file : Path} {messages : OrderedMap String String}
    (asked : (usual path).pathFor tree bundle (Locale.normalize (some requested)) = .ok (some file))
    (read : messagesOfFile tree file (some bundle) = .ok messages)
    (held : catalogs.get? (Locale.normalize (some requested)) = some messages) (long : Prop) :
    Source.FindsAlike long ((usual path).source tree) (Bundles.source (.ofList [(bundle, catalogs)]))
      bundle requested := by
  rw [Source.FindsAlike, keptFind, held]
  change Alike _ _ ((usual path).find tree bundle requested).outcome _
  rw [findHeld asked read]
  exact makeAlike bundle _ messages (some file) none long

theorem longFind (valid : Target.isBundleName bundle = true) (opens : tree.Opens path place)
    (settled : Locale.normalize (some (Locale.normalize (some requested))) =
      Locale.normalize (some requested)) (cannot : ¬ CanLook path bundle requested) :
    (((usual path).source tree).find bundle requested).outcome = .error (.breach (.file .nameTooLong)) := by
  obtain ⟨askable, long⟩ := Classical.not_imp.mp cannot
  have asked := @askedAgain tree path place bundle requested valid opens settled
  rw [if_pos askable, if_neg long] at asked
  exact bindOutcomeError.mpr (.inl (ofFilesError.mpr ⟨_, asked, rfl⟩))

theorem findsCopy (valid : Target.isBundleName bundle = true) (opens : tree.Opens path place)
    (tidy : Tidy tree path place bundle) (copies : Copies tree path place bundle catalogs)
    (settled : Locale.normalize (some (Locale.normalize (some requested))) =
      Locale.normalize (some requested)) :
    Source.FindsAlike (¬ CanLook path bundle requested) ((usual path).source tree)
      (Bundles.source (.ofList [(bundle, catalogs)])) bundle requested := by
  have asked := @askedAgain tree path place bundle requested valid opens settled
  by_cases askable : IsAskable (Locale.normalize (some requested))
  · by_cases fits : Fits path (longestOf bundle (Locale.normalize (some requested)))
    · rw [if_pos askable, if_pos fits] at asked
      cases held : heldName tree place bundle (Locale.normalize (some requested)) with
      | none =>
        rw [held] at asked
        refine missingAlike asked (Option.eq_none_iff_forall_not_mem.mpr fun messages found => ?_) _
        obtain ⟨-, name, other, -⟩ := (copies _ messages).mp found
        cases held.symm.trans other
      | some name =>
        rw [held] at asked
        obtain ⟨named, listed⟩ := heldListed held
        obtain ⟨messages, read⟩ := tidy.readable _ askable name named listed
        exact heldAlike asked read ((copies _ messages).mpr ⟨askable, name, held, read⟩) _
    · have cannot : ¬ CanLook path bundle requested := fun can => fits (can askable)
      rw [Source.FindsAlike, longFind valid opens settled cannot]
      exact .broken cannot
  · rw [if_neg askable] at asked
    exact missingAlike asked (copyUnasked copies askable) _

/-! ### Locales -/

theorem eraseDupsNodup {α : Type} [BEq α] [LawfulBEq α] (items : List α) : items.eraseDups.Nodup := by
  cases items with
  | nil => exact .nil
  | cons first rest =>
    rw [List.eraseDups_cons, List.nodup_cons]
    refine ⟨?_, eraseDupsNodup _⟩
    simp [List.mem_eraseDups]
termination_by items.length
decreasing_by
  have kept := List.length_filter_le (fun item => !item == first) rest
  rw [List.length_cons]
  omega

theorem sortedAlike {items others : List String} (once : items.Nodup) (also : others.Nodup)
    (same : ∀ item, item ∈ items ↔ item ∈ others) : items.mergeSort = others.mergeSort := by
  have perm := (List.perm_ext_iff_of_nodup once also).mpr same
  have sorted : items.mergeSort.Perm others.mergeSort :=
    (List.mergeSort_perm items _).trans (perm.trans (List.mergeSort_perm others _).symm)
  exact sorted.eq_of_sortedLE List.sortedLE_mergeSort List.sortedLE_mergeSort

theorem listedCopy (valid : Target.isBundleName bundle = true) (opens : tree.Opens path place)
    (tidy : Tidy tree path place bundle) (copies : Copies tree path place bundle catalogs)
    {locales : List String} (ok : ((usual path).locales tree bundle).outcome = .ok locales)
    (locale : String) : locale ∈ locales ↔ locale ∈ catalogs.keys ∧ locale ≠ "" := by
  rw [listedLocale ok, OrderedMap.keyMember]
  constructor
  · rintro ⟨there, name, tag, others, listed, told, shape, rfl⟩
    obtain rfl : there = place := Except.ok.inj (others.found.symm.trans opens.found)
    obtain ⟨named, -, settled⟩ := tidy.tagged name listed tag told
    rw [settled]
    have some : (heldName tree there bundle tag).isSome := by
      rw [heldName, List.find?_isSome]
      exact ⟨name, named, by simpa using listed⟩
    obtain ⟨first, held⟩ := Option.isSome_iff_exists.mp some
    obtain ⟨among, present⟩ := heldListed held
    obtain ⟨messages, read⟩ := tidy.readable tag (.inr shape) first among present
    refine ⟨⟨messages, (copies tag messages).mpr ⟨.inr shape, first, held, read⟩⟩, ?_⟩
    rintro rfl
    exact absurd shape (by decide)
  · rintro ⟨⟨messages, held⟩, filled⟩
    obtain ⟨askable, name, found, -⟩ := (copies locale messages).mp held
    have shape := askable.resolve_left filled
    obtain ⟨named, listed⟩ := heldListed found
    have told := @tagRead path bundle valid locale name shape named
    exact ⟨place, name, locale, opens, listed, told, shape, (tidy.tagged name listed locale told).2.2.symm⟩

theorem localesCopy (valid : Target.isBundleName bundle = true) (opens : tree.Opens path place)
    (tidy : Tidy tree path place bundle) (copies : Copies tree path place bundle catalogs) :
    ((usual path).locales tree bundle).outcome =
      ((Bundles.source (.ofList [(bundle, catalogs)])).locales bundle).outcome := by
  have opened := @openedLocales tree path place bundle opens
  have listed := listedCopy valid opens tidy copies opened
  have kept : ((Bundles.source (.ofList [(bundle, catalogs)])).locales bundle).outcome =
      .ok ((catalogs.keys.filter (!·.isEmpty)).mergeSort) := by
    simp [Bundles.source, OrderedMap.ofList, OrderedMap.insertAll, OrderedMap.insertGet]
  rw [kept, opened, Except.ok.injEq]
  refine sortedAlike (eraseDupsNodup _) (catalogs.distinct.filter _) fun locale => ?_
  rw [← List.mem_mergeSort, listed]
  simp

theorem keptWhole :
    ¬ Breaches ((Bundles.source (.ofList [(bundle, catalogs)])).find bundle requested).outcome := by
  rw [keptFind]
  cases catalogs.get? (Locale.normalize (some requested)) with
  | none => simp
  | some messages =>
    rw [Option.elim_some, Catalog.make]
    split <;> simp [Breaches, Except.map]

theorem loadWhole {source : Source} (whole : ¬ Breaches (source.find bundle requested).outcome) :
    ¬ Breaches (source.load bundle requested).outcome := by
  rw [Source.load, bindBreaches, not_or]
  refine ⟨whole, ?_⟩
  rintro ⟨answer, -, broken⟩
  cases answer <;> simp [Breaches] at broken

/-- Messages in memory that copy the files of a directory stand in for it: what is found, loaded and listed
is the same up to the files that catalogs come from, and so is every refusal. Only where the name of a file
would be too long does the directory break off, with no counterpart in memory. -/
theorem copyStandsIn (tree : FileTree) (path : Path) (place : List String) (bundle requested : String)
    (catalogs : OrderedMap String (OrderedMap String String)) (valid : Target.isBundleName bundle = true)
    (opens : tree.Opens path place) (tidy : Tidy tree path place bundle)
    (copies : Copies tree path place bundle catalogs) (ascii : Locale.IsAscii requested) :
    ∃ memory locales, Bundles.ofNested (Bundles.nested bundle catalogs) = .ok memory ∧
      Alike (Option.map unsourced) (¬ CanLook path bundle requested)
        ((usual path).find tree bundle requested).outcome (memory.source.find bundle requested).outcome ∧
      Alike unsourced (¬ CanLook path bundle requested)
        (((usual path).source tree).load bundle requested).outcome
        (memory.source.load bundle requested).outcome ∧
      (¬ CanLook path bundle requested →
        (((usual path).source tree).load bundle requested).outcome =
          .error (.breach (.file .nameTooLong)) ∧
        ((usual path).find tree bundle requested).outcome = .error (.breach (.file .nameTooLong)) ∧
        ¬ Breaches (memory.source.find bundle requested).outcome ∧
        ¬ Breaches (memory.source.load bundle requested).outcome) ∧
      ((usual path).locales tree bundle).outcome = .ok locales ∧
      (memory.source.locales bundle).outcome = .ok locales ∧
      Alike CatalogSet.unsourced (∃ locale ∈ "" :: locales, ¬ CanLook path bundle locale)
        (((usual path).source tree).loadSet bundle).outcome (memory.source.loadSet bundle).outcome := by
  have settled := Locale.asciiSettled ascii
  have found := findsCopy valid opens tidy copies settled
  have listed := @openedLocales tree path place bundle opens
  have kept := (localesCopy valid opens tidy copies).symm.trans listed
  refine ⟨_, _, Bundles.nestedKept bundle fun locale => copySettled tidy valid copies, found,
    Source.loadAlike found, fun cannot => ?_, listed, kept, Source.loadSetAlike ?_ listed kept ?_⟩
  · have broken := longFind valid opens settled cannot
    exact ⟨bindOutcomeError.mpr (.inl broken), broken, keptWhole, loadWhole keptWhole⟩
  · have default := findsCopy valid opens tidy copies (@Locale.asciiSettled "" (by decide))
    exact default.mono fun cannot => ⟨"", List.mem_cons_self, cannot⟩
  · intro locale mem
    have again := (discoveredSettled listed mem).2.1
    refine (findsCopy valid opens tidy copies (by rw [again, again])).mono fun cannot => ?_
    exact ⟨locale, List.mem_cons_of_mem _ mem, cannot⟩

def greetingCopies : OrderedMap String (OrderedMap String String) :=
  .ofList [("", .ofList [("greet", "Hello \x7b0\x7d")]), ("fr", .ofList [("greet", "Salut \x7b0\x7d")])]

theorem greetingNames : ∀ name ∈ (twoFiles "messages_fr.properties").fileNames ["i18n"],
    (usual ⟨.relative, ["i18n"]⟩).tagIn? "messages" name = none ∨
      name = "messages_fr.properties" ∧
        (usual ⟨.relative, ["i18n"]⟩).tagIn? "messages" name = some "fr" := by
  decide +kernel

def greetingFiles : List (String × String) :=
  [("", "messages.properties"), ("fr", "messages_fr.properties")]

theorem greetingsAsked {locale name : String} (askable : IsAskable locale)
    (named : name ∈ fileNamesOf "messages" locale)
    (listed : name ∈ (twoFiles "messages_fr.properties").fileNames ["i18n"]) :
    (locale, name) ∈ greetingFiles := by
  rcases askable with rfl | shape
  · have only : ∀ name ∈ fileNamesOf "messages" "",
        name ∈ (twoFiles "messages_fr.properties").fileNames ["i18n"] → ("", name) ∈ greetingFiles := by
      decide +kernel
    exact only name named listed
  · have told := @tagRead ⟨.relative, ["i18n"]⟩ "messages" (by decide) locale name shape named
    rcases greetingNames name listed with untagged | ⟨rfl, french⟩
    · cases untagged.symm.trans told
    · cases french.symm.trans told
      decide

theorem greetingsRead : ∀ entry ∈ greetingFiles, IsAskable entry.1 ∧
    heldName (twoFiles "messages_fr.properties") ["i18n"] "messages" entry.1 = some entry.2 ∧
    ∃ messages, greetingCopies.get? entry.1 = some messages ∧
      messagesOfFile (twoFiles "messages_fr.properties") ⟨.relative, ["i18n", entry.2]⟩ (some "messages") =
        .ok messages := by
  refine List.forall_mem_cons.mpr ⟨⟨.inl rfl, by decide +kernel, _, rfl, by decide +kernel⟩, ?_⟩
  exact List.forall_mem_singleton.mpr ⟨.inr (by decide), by decide +kernel, _, rfl, by decide +kernel⟩

theorem greetingsTidy :
    Tidy (twoFiles "messages_fr.properties") ⟨.relative, ["i18n"]⟩ ["i18n"] "messages" := by
  constructor
  · intro name mem tag told
    rcases greetingNames name mem with untagged | ⟨rfl, french⟩
    · cases untagged.symm.trans told
    · cases french.symm.trans told
      exact ⟨by decide, by decide, by decide +kernel⟩
  · intro locale askable name named listed
    obtain ⟨-, -, messages, -, read⟩ := greetingsRead _ (greetingsAsked askable named listed)
    exact ⟨messages, read⟩

theorem greetingsCopied :
    Copies (twoFiles "messages_fr.properties") ⟨.relative, ["i18n"]⟩ ["i18n"] "messages" greetingCopies := by
  intro locale messages
  constructor
  · intro kept
    have key : locale ∈ greetingCopies.keys := OrderedMap.keyMember.mpr ⟨messages, kept⟩
    obtain ⟨⟨_, name⟩, file, rfl⟩ := List.mem_map.mp (show locale ∈ greetingFiles.map Prod.fst from key)
    obtain ⟨askable, held, others, also, read⟩ := greetingsRead _ file
    cases kept.symm.trans also
    exact ⟨askable, name, held, read⟩
  · rintro ⟨askable, name, held, read⟩
    obtain ⟨named, listed⟩ := heldListed held
    obtain ⟨-, -, others, kept, also⟩ := greetingsRead _ (greetingsAsked askable named listed)
    cases read.symm.trans also
    exact kept

theorem greetingsStandIn :
    Target.isBundleName "messages" = true ∧
    (twoFiles "messages_fr.properties").Opens ⟨.relative, ["i18n"]⟩ ["i18n"] ∧
    Tidy (twoFiles "messages_fr.properties") ⟨.relative, ["i18n"]⟩ ["i18n"] "messages" ∧
    Copies (twoFiles "messages_fr.properties") ⟨.relative, ["i18n"]⟩ ["i18n"] "messages" greetingCopies ∧
    Locale.IsAscii "FR" ∧ ∃ memory,
      Bundles.ofNested (Bundles.nested "messages" greetingCopies) = .ok memory ∧
      Alike (Option.map unsourced) False
        ((usual ⟨.relative, ["i18n"]⟩).find (twoFiles "messages_fr.properties") "messages" "FR").outcome
        (memory.source.find "messages" "FR").outcome := by
  have valid : Target.isBundleName "messages" = true := by decide
  have opens : (twoFiles "messages_fr.properties").Opens ⟨.relative, ["i18n"]⟩ ["i18n"] := ⟨rfl, rfl⟩
  have ascii : Locale.IsAscii "FR" := by decide
  have can : CanLook ⟨.relative, ["i18n"]⟩ "messages" "FR" := by
    unfold CanLook
    decide +kernel
  obtain ⟨memory, locales, kept, found, -⟩ :=
    copyStandsIn (twoFiles "messages_fr.properties") ⟨.relative, ["i18n"]⟩ ["i18n"] "messages" "FR"
      greetingCopies valid opens greetingsTidy greetingsCopied ascii
  exact ⟨valid, opens, greetingsTidy, greetingsCopied, ascii, memory, kept,
    found.mono fun cannot => cannot can⟩

/-- A locale whose file would have too long a name is missing in memory and breaks off in a directory. -/
theorem longLocaleStandsOut : ∃ memory,
    Bundles.ofNested (Bundles.nested "messages" greetingCopies) = .ok memory ∧
    Locale.IsAscii (String.ofList Accessor.longTag) ∧
    (memory.source.find "messages" (String.ofList Accessor.longTag)).outcome = .ok none ∧
    ((usual ⟨.relative, ["i18n"]⟩).find (twoFiles "messages_fr.properties") "messages"
      (String.ofList Accessor.longTag)).outcome = .error (.breach (.file .nameTooLong)) := by
  have valid : Target.isBundleName "messages" = true := by decide
  have opens : (twoFiles "messages_fr.properties").Opens ⟨.relative, ["i18n"]⟩ ["i18n"] := ⟨rfl, rfl⟩
  have settled := Accessor.longTagSettled
  have ascii : Locale.IsAscii (String.ofList Accessor.longTag) := by
    have each : Accessor.longTag.all (fun c => decide (c.toNat < 128)) = true := by decide +kernel
    simpa [Locale.IsAscii] using each
  have missing : greetingCopies.get? (String.ofList Accessor.longTag) = none := by decide +kernel
  have cannot : ¬ CanLook ⟨.relative, ["i18n"]⟩ "messages" (String.ofList Accessor.longTag) := by
    rw [CanLook, settled]
    exact fun can => Accessor.longTagRefused fun shape => can (.inr shape)
  refine ⟨_, Bundles.nestedKept "messages" fun locale => copySettled greetingsTidy valid greetingsCopied,
    ascii, ?_, longFind valid opens (by rw [settled, settled]) cannot⟩
  rw [keptFind, settled, missing]
  rfl

end Catalog.Directory

end Phrasebook

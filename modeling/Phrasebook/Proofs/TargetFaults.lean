import Phrasebook.Proofs.Outcome
import Phrasebook.Proofs.ValueParts
import Phrasebook.Target

/-! Entries of a target that are of the wrong kind. Most of what can be wrong with entries is told as a fault
of the declaration; the rest breaks off, for each field in a way of its own. -/
namespace Phrasebook.Target

open Report

def Complete (entries : List (Value × Value)) : Prop :=
  ∀ name ∈ requiredNames, (Value.lookup entries (.text name)).isNone = false

def unknown (entries : List (Value × Value)) : List Value :=
  (entries.map Prod.fst).filter fun key => !isField key

/-- The ways in which entries break off. -/
inductive Trips (entries : List (Value × Value)) : Prop
  | missing (incomplete : ¬ Complete entries) (long : (Value.map entries).HoldsLong)
  | keys (complete : Complete entries) (several : 1 < (unknown entries).length)
      {a b} (first : a ∈ unknown entries) (second : b ∈ unknown entries) (unordered : a.compare? b = none)
  | path (complete : Complete entries) {name} (isPath : name ∈ ["source_dir", "output"])
      (noText : (field entries name .null).isText = false)
  | word (complete : Complete entries) {name usual}
      (isWord : (name, usual) ∈ [("mode", "auto"), ("naming", "camel")])
      (long : (field entries name (.text usual)).HoldsLong)
  | bundle (complete : Complete entries) (given : (field entries "bundle" .null).isGiven = true)
      (noText : (field entries "bundle" .null).isText = false)
  | className (complete : Complete entries)
      {name mode naming} (named : field entries "bundle" .null = .text name)
      (valid : isBundleName name = true)
      (moded : (field entries "mode" (.text "auto")).text? = some mode)
      (knownMode : Text.lower mode ∈ DeclarationReason.modeNames)
      (spelled : (field entries "naming" (.text "camel")).text? = some naming)
      (knownNaming : Text.lower naming ∈ DeclarationReason.namingNames)
      (given : (field entries "class_name" (.text "")).isGiven = true)
      (noText : (field entries "class_name" (.text "")).isText = false)

section

variable {entries : List (Value × Value)} {file : Option String} {directory : Option Path}

theorem writtenBreaches {text? : Option String} : Breaches (written text?) ↔ text? = none := by
  cases text? <;> simp [written, Breaches]

theorem writtenDeclared (text? : Option String) : Declared file (written text?) := by
  cases text? with
  | none => exact .breach _
  | some text => exact .value text

theorem wordBreaches {v : Value} : Breaches (wordOf v) ↔ v.HoldsLong := by
  rw [← Value.textNone, wordOf, exceptBindBreaches, writtenBreaches]
  exact or_iff_left fun ⟨_, _, _, last⟩ => by simp at last

theorem wordOk {v : Value} {word : String} :
    wordOf v = .ok word ↔ ∃ text, v.text? = some text ∧ word = Text.lower text := by
  cases text : v.text? <;> simp [wordOf, text, written, bind, Except.bind, eq_comm]

theorem pathBreaches {v : Value} : Breaches (pathFrom directory v) ↔ v.isText = false := by
  rw [pathFrom, exceptBindBreaches]
  have path : Breaches (pathOf v) ↔ v.isText = false := by
    cases v <;> simp [pathOf, Breaches, Value.isText]
  rw [path]
  exact or_iff_left fun ⟨_, _, _, last⟩ => by simp at last

theorem bareShort {v : Value} (bare : v.isGiven = false) : ¬ v.HoldsLong := by
  cases v with
  | int i =>
    obtain rfl : i = 0 := by simpa [Value.isGiven] using bare
    rw [Value.intLong]
    decide +kernel
  | list items =>
    obtain rfl : items = [] := by simpa [Value.isGiven] using bare
    simp [Value.listLong]
  | set members =>
    obtain rfl : members = [] := by simpa [Value.isGiven] using bare
    simp [Value.setLong]
  | map entries =>
    obtain rfl : entries = [] := by simpa [Value.isGiven] using bare
    simp [Value.mapLong]
  | pair | date | dateTime | time | loop => simp [Value.isGiven] at bare
  | null | bool | float | text | bytes => exact Value.leafLong trivial (by simp)

theorem textValue {v : Value} (text : v.isText = true) : ∃ s, v = .text s := by
  cases v with
  | text s => exact ⟨s, rfl⟩
  | _ => simp [Value.isText] at text

/-- Nothing at all is told as an invalid name; what is given and no text breaks off. -/
theorem bundleCases (file : Option String) (v : Value) :
    (∃ name, v = .text name ∧ isBundleName name = true ∧ bundleOf file v = .ok name) ∨
    (∃ reason, bundleOf file v = .error (.declaration reason file) ∧
      (v.isGiven = true → v.isText = true)) ∨
    v.isGiven = true ∧ v.isText = false ∧ bundleOf file v = .error (.breach .type) := by
  unfold bundleOf
  split
  · rename_i name
    split
    · exact .inl ⟨name, rfl, by assumption, rfl⟩
    · exact .inr (.inl ⟨_, rfl, fun _ => rfl⟩)
  · rename_i noText
    have other : v.isText = false := by
      cases kind : v.isText with
      | false => rfl
      | true =>
        obtain ⟨name, rfl⟩ := textValue kind
        exact absurd rfl (noText name)
    cases given : v.isGiven with
    | true => exact .inr (.inr ⟨rfl, other, by simp⟩)
    | false =>
      obtain ⟨literal, text⟩ :=
        Option.ne_none_iff_exists'.mp (mt (Value.literalNone v).mp (bareShort given))
      exact .inr (.inl ⟨.bundleName literal, by simp [text, written, refuse, bind, Except.bind],
        by simp⟩)

theorem bundleBreaches {v : Value} :
    Breaches (bundleOf file v) ↔ v.isGiven = true ∧ v.isText = false := by
  rcases bundleCases file v with ⟨name, rfl, -, ok⟩ | ⟨reason, told, kind⟩ | ⟨given, noText, outcome⟩
  · simp [ok, Breaches, Value.isText]
  · simpa [told, Breaches] using kind
  · simp [outcome, Breaches, given, noText]

theorem bundleOk {v : Value} {bundle : String} :
    bundleOf file v = .ok bundle ↔ v = .text bundle ∧ isBundleName bundle = true := by
  constructor
  · intro ok
    rcases bundleCases file v with ⟨name, rfl, valid, same⟩ | ⟨reason, told, -⟩ | ⟨-, -, outcome⟩
    · cases ok.symm.trans same
      exact ⟨rfl, valid⟩
    · simp [ok] at told
    · simp [ok] at outcome
  · rintro ⟨rfl, valid⟩
    simp only [bundleOf, valid, if_true]

theorem bundleDeclared (file : Option String) (v : Value) : Declared file (bundleOf file v) := by
  rcases bundleCases file v with ⟨name, -, -, ok⟩ | ⟨reason, told, -⟩ | ⟨-, -, outcome⟩
  · rw [ok]
    exact .value name
  · rw [told]
    exact .fault reason
  · rw [outcome]
    exact .breach _

section

variable {p : Prop} [Decidable p] {reason : DeclarationReason}

theorem guardOk {passed : Unit} :
    (if p then .ok () else refuse file reason : Except Failure Unit) = .ok passed ↔ p := by
  split <;> simp_all [refuse]

theorem guardWhole : ¬ Breaches (if p then .ok () else refuse file reason : Except Failure Unit) := by
  split <;> simp [refuse, Breaches]

theorem guardDeclared :
    Declared file (if p then .ok () else refuse file reason : Except Failure Unit) := by
  split
  · exact .value ()
  · exact .fault reason

end

theorem classNameBreaches {bundle : String} {v : Value} : Breaches (checkClassName file bundle v) ↔
    v.isGiven = true ∧ v.isText = false := by
  unfold checkClassName
  cases given : v.isGiven with
  | false => simp [Breaches]
  | true =>
    cases kind : v.isText with
    | true =>
      obtain ⟨name, rfl⟩ := textValue kind
      simpa using guardWhole
    | false =>
      cases v with
      | text name => simp [Value.isText] at kind
      | _ => simp [Breaches]

theorem classNameDeclared (bundle : String) (v : Value) :
    Declared file (checkClassName file bundle v) := by
  unfold checkClassName
  split
  · exact .value ()
  · split
    · exact guardDeclared
    · exact .breach _

theorem checkBreaches {t : Target} : Breaches (check file t) ↔
    isBundleName t.bundle = true ∧ t.mode ∈ DeclarationReason.modeNames ∧
      t.naming ∈ DeclarationReason.namingNames ∧ t.className.isGiven = true ∧
      t.className.isText = false := by
  have named : ¬ Breaches (bundleOf file (.text t.bundle)) := by
    simp [bundleBreaches, Value.isText]
  simp only [check, exceptBindBreaches, named, bundleOk, checkMode, checkNaming, checkDelimiter,
    checkOutput, guardOk, guardWhole, classNameBreaches, List.contains_iff_mem]
  simp

theorem checkDeclared (t : Target) : Declared file (check file t) :=
  exceptBindDeclared (bundleDeclared file _) fun _ _ =>
    exceptBindDeclared guardDeclared fun _ _ =>
      exceptBindDeclared guardDeclared fun _ _ =>
        exceptBindDeclared (classNameDeclared _ _) fun _ _ =>
          exceptBindDeclared guardDeclared fun _ _ => guardDeclared

theorem sortedNone {keys : List Value} : Value.sorted? keys = none ↔
    1 < keys.length ∧ ∃ a ∈ keys, ∃ b ∈ keys, a.compare? b = none := by
  unfold Value.sorted?
  by_cases few : keys.length ≤ 1
  · simp [few, Nat.not_lt.mpr few]
  · simp [few, Nat.lt_of_not_le few, Option.isSome_iff_ne_none]

theorem keysBreaches {keys : List Value} : Breaches (unknownKeys keys).outcome ↔
    1 < keys.length ∧ ∃ a ∈ keys, ∃ b ∈ keys, a.compare? b = none := by
  rw [← sortedNone]
  unfold unknownKeys
  split
  · rename_i none
    obtain rfl : keys = [] := by simpa using none
    simp [Breaches, Value.sorted?]
  · split <;> simp_all [Breaches]

theorem keysLogged {keys : List Value} (whole : ¬ Breaches (unknownKeys keys).outcome) :
    (unknownKeys keys).outcome = .ok () := by
  unfold unknownKeys at whole ⊢
  split
  · rfl
  · split
    · simp_all [Breaches]
    · rfl

theorem pathOk {v : Value} : (∃ path, pathFrom directory v = .ok path) ↔ ¬ v.isText = false := by
  cases v <;> simp [pathFrom, pathOf, Value.isText, bind, Except.bind]

theorem wordRead {v : Value} : (∃ word, wordOf v = .ok word) ↔ ¬ v.HoldsLong := by
  rw [← Value.textNone]
  simp only [wordOk]
  cases v.text? <;> simp

theorem fieldsBreaches : Breaches (ofFields directory entries) ↔
    (∃ name ∈ ["source_dir", "output"], (field entries name .null).isText = false) ∨
      ∃ word ∈ [("mode", "auto"), ("naming", "camel")],
        (field entries word.1 (.text word.2)).HoldsLong := by
  simp only [ofFields, exceptBindBreaches, pathBreaches, wordBreaches, okWhole, and_false, exists_false,
    or_false, exists_and_right, pathOk, wordRead, List.exists_mem_cons_iff, List.not_mem_nil, false_and]
  tauto

theorem fieldsRead (whole : ¬ Breaches (ofFields directory entries)) :
    ∃ make, ofFields directory entries = .ok make := by
  simp only [fieldsBreaches, List.exists_mem_cons_iff, List.not_mem_nil, false_and, exists_false, or_false,
    not_or] at whole
  obtain ⟨⟨sourceKind, outputKind⟩, modeShort, namingShort⟩ := whole
  obtain ⟨sourceDir, sourceOk⟩ := (@pathOk directory _).mpr sourceKind
  obtain ⟨output, outputOk⟩ := (@pathOk directory _).mpr outputKind
  obtain ⟨mode, modeOk⟩ := wordRead.mpr modeShort
  obtain ⟨naming, namingOk⟩ := wordRead.mpr namingShort
  simp only [ofFields, sourceOk, outputOk, modeOk, namingOk, bind, Except.bind]
  exact ⟨_, rfl⟩

theorem fieldsDeclared (file : Option String) : Declared file (ofFields directory entries) := by
  have path : ∀ v, Declared file (pathFrom directory v) := by
    intro v
    refine exceptBindDeclared ?_ fun _ _ => .value _
    cases v with
    | text text => exact .value _
    | _ => exact .breach _
  have word : ∀ v, Declared file (wordOf v) := fun v =>
    exceptBindDeclared (writtenDeclared v.text?) fun _ _ => .value _
  exact exceptBindDeclared (path _) fun _ _ =>
    exceptBindDeclared (path _) fun _ _ =>
      exceptBindDeclared (word _) fun _ _ => exceptBindDeclared (word _) fun _ _ => .value _

theorem fieldsOk {make : String → Target} (ok : ofFields directory entries = .ok make) (bundle : String) :
    (make bundle).bundle = bundle ∧ (make bundle).className = field entries "class_name" (.text "") ∧
      (∃ mode, (field entries "mode" (.text "auto")).text? = some mode ∧
        (make bundle).mode = Text.lower mode) ∧
      ∃ naming, (field entries "naming" (.text "camel")).text? = some naming ∧
        (make bundle).naming = Text.lower naming := by
  simp only [ofFields, exceptBindOk, wordOk] at ok
  obtain ⟨sourceDir, -, output, -, mode, ⟨modeText, moded, same⟩, naming, ⟨namingText, spelled, alike⟩,
    last⟩ := ok
  cases last
  exact ⟨rfl, rfl, ⟨modeText, moded, same⟩, namingText, spelled, alike⟩

theorem entriesDeclared (directory : Option Path) (file : Option String)
    (entries : List (Value × Value)) : Declared file (ofEntries directory file entries).outcome := by
  unfold ofEntries
  extract_lets missing
  split
  · exact bindDeclared (writtenDeclared _) fun _ _ => .fault _
  · refine bindDeclared ?_ fun _ _ => ?_
    · unfold unknownKeys
      split
      · exact .value ()
      · split
        · exact .breach _
        · exact .value ()
    · exact bindDeclared (fieldsDeclared file) fun _ _ =>
        bindDeclared (bundleDeclared file _) fun _ _ =>
          bindDeclared (checkDeclared _) fun _ _ => .value _

theorem noneMissing : (requiredNames.filter fun name =>
    (Value.lookup entries (.text name)).isNone).isEmpty = true ↔ Complete entries := by
  simp only [List.isEmpty_iff, List.filter_eq_nil_iff, Bool.not_eq_true, Complete]

theorem incompleteBreaches (incomplete : ¬ Complete entries) :
    Breaches (ofEntries directory file entries).outcome ↔ (Value.map entries).HoldsLong := by
  rw [← noneMissing, Bool.not_eq_true] at incomplete
  simp only [ofEntries, incomplete, Bool.not_false, if_true, bindBreaches, ofExceptOutcome,
    writtenBreaches, Value.literalNone, failOutcome]
  simp [Breaches]

theorem completeBreaches (complete : Complete entries) :
    Breaches (ofEntries directory file entries).outcome ↔ Trips entries := by
  simp only [ofEntries, noneMissing.mpr complete, Bool.not_true, Bool.false_eq_true, if_false,
    bindBreaches, ofExceptOutcome, pureOutcome, okWhole, and_false, exists_false, or_false]
  constructor
  · rintro (keys | ⟨-, -, fields | ⟨make, fields, bundle | ⟨name, named, check⟩⟩⟩)
    · obtain ⟨several, a, first, b, second, unordered⟩ := keysBreaches.mp keys
      exact .keys complete several first second unordered
    · rcases fieldsBreaches.mp fields with ⟨name, isPath, noText⟩ | ⟨⟨name, usual⟩, isWord, long⟩
      · exact .path complete isPath noText
      · exact .word complete isWord long
    · obtain ⟨given, noText⟩ := bundleBreaches.mp bundle
      exact .bundle complete given noText
    · obtain ⟨bundle, valid⟩ := bundleOk.mp named
      obtain ⟨-, className, ⟨mode, moded, modeWord⟩, naming, spelled, namingWord⟩ :=
        fieldsOk fields name
      obtain ⟨-, knownMode, knownNaming, given, noText⟩ := checkBreaches.mp check
      rw [modeWord] at knownMode
      rw [namingWord] at knownNaming
      rw [className] at given noText
      exact .className complete bundle valid moded knownMode spelled knownNaming given noText
  · intro trips
    -- Up to the name of the bundle nothing is told that does not break off.
    by_cases keys : Breaches (unknownKeys (unknown entries)).outcome
    · exact .inl keys
    refine .inr ⟨(), keysLogged keys, ?_⟩
    by_cases fields : Breaches (ofFields directory entries)
    · exact .inl fields
    obtain ⟨make, made⟩ := fieldsRead fields
    refine .inr ⟨make, made, ?_⟩
    cases trips with
    | missing incomplete => exact absurd complete incomplete
    | keys _ several first second unordered =>
      exact absurd (keysBreaches.mpr ⟨several, _, first, _, second, unordered⟩) keys
    | path _ isPath noText => exact absurd (fieldsBreaches.mpr (.inl ⟨_, isPath, noText⟩)) fields
    | word _ isWord long => exact absurd (fieldsBreaches.mpr (.inr ⟨_, isWord, long⟩)) fields
    | bundle _ given noText => exact .inl (bundleBreaches.mpr ⟨given, noText⟩)
    | @className _ name mode naming named valid moded knownMode spelled knownNaming given noText =>
      obtain ⟨bundle, className, ⟨mode, read, modeWord⟩, naming, told, namingWord⟩ := fieldsOk made name
      cases moded.symm.trans read
      cases spelled.symm.trans told
      refine .inr ⟨name, bundleOk.mpr ⟨named, valid⟩, checkBreaches.mpr ?_⟩
      rw [bundle, modeWord, namingWord, className]
      exact ⟨valid, knownMode, knownNaming, given, noText⟩

theorem entriesBreach :
    Breaches (ofEntries directory file entries).outcome ↔ Trips entries := by
  by_cases complete : Complete entries
  · exact completeBreaches complete
  · rw [incompleteBreaches complete]
    constructor
    · exact .missing complete
    · intro trips
      cases trips with
      | missing _ long => exact long
      | keys other | path other | word other | bundle other | className other =>
        exact absurd other complete

end

end Phrasebook.Target

import Phrasebook.Declaration
import Phrasebook.Proofs.CatalogTexts
import Phrasebook.Proofs.TargetFaults

/-! Declarations that are not told to be faulty. A declaration is loaded or has a fault that is told, unless
the bytes, a scalar, or a value of the wrong kind breaks the loading off. -/
namespace Phrasebook.Declaration

open Catalog (IsYaml)
open Report

/-- Values that can be asked whether they hold the name of the tool. -/
def CanHold : Value → Prop
  | .map _ | .list _ | .text _ => True
  | _ => False

/-- The ways in which the text of a declaration breaks off. -/
inductive Breaks (path : Path) (text : String) : Prop
  | yaml (yaml : IsYaml (Text.lower path.suffix)) {breach} (read : Document.readYaml text = .error (.breach breach))
  | json (json : Text.lower path.suffix = ".json") {breach}
      (read : Document.readJson text = .error (.breach breach))
  | toml (toml : Text.lower path.suffix = ".toml") {breach}
      (read : Document.readToml text = .error (.breach breach))
  | tool (toml : Text.lower path.suffix = ".toml") (project : path.name = projectFile) {entries tool}
      (read : Document.readToml text = .ok (.map entries))
      (held : Value.lookup entries (.text "tool") = some tool) (noTable : ∀ table, tool ≠ .map table)

/-- An item of the list of targets that breaks off, given the entries that all items share. -/
inductive ItemTrips (defaults : List (Value × Value)) : Value → Prop
  | other {v} (noMap : ∀ entries, v ≠ .map entries) (long : v.HoldsLong) : ItemTrips defaults v
  | entries {entries} (trips : Target.Trips (Value.putAll defaults entries)) :
      ItemTrips defaults (.map entries)

def itemTarget (path directory : Path) (defaults : List (Value × Value)) (item : Value) :
    Report Target := do
  let entries ← Report.ofExcept (targetEntries path defaults item)
  Target.ofEntries (some directory) (some path.text) entries

/-- A list of items of which one breaks off after others that are targets. -/
inductive ItemsTrip (path directory : Path) (defaults : List (Value × Value)) : List Value → Prop
  | head {item rest} (trips : ItemTrips defaults item) : ItemsTrip path directory defaults (item :: rest)
  | later {item rest target} (made : (itemTarget path directory defaults item).outcome = .ok target)
      (trips : ItemsTrip path directory defaults rest) : ItemsTrip path directory defaults (item :: rest)

def directoryOf (tree : FileTree) (path : Path) : Path :=
  Path.absolute (path.parent.resolve tree.base)

def defaultsOf (entries : List (Value × Value)) : List (Value × Value) :=
  entries.filter fun entry => !entry.1.sameKey (.text "bundles")

/-- The ways in which the loading of a declaration breaks off. -/
inductive Trips (tree : FileTree) (path : Path) : Prop
  | name (long : tree.isFile path = .error .nameTooLong)
  | decoding (isFile : tree.isFile path = .ok true) {fault}
      (read : tree.readText path = .error (.decoding fault))
  | document (isFile : tree.isFile path = .ok true) {text} (read : tree.readText path = .ok text)
      (breaks : Breaks path text)
  | items (isFile : tree.isFile path = .ok true) {text entries items}
      (read : tree.readText path = .ok text) (top : readValue path text = .ok (.map entries))
      (listed : Value.lookup entries (.text "bundles") = some (.list items))
      (trips : ItemsTrip path (directoryOf tree path) (defaultsOf entries) items)

/-- Where a declaration is looked for: the directory that is named, or else the one that relative paths are
read from. -/
def startOf (tree : FileTree) : Option String → Path
  | some text => if text.isEmpty then Path.absolute tree.base else Path.ofString text
  | none => Path.absolute tree.base

def candidates (start : Path) : List Path := fileNames.map fun name => start.join (Path.ofString name)

def projectOf (start : Path) : Path := start.join (Path.ofString projectFile)

/-- The ways in which the search for a declaration breaks off. -/
inductive SearchTrips (tree : FileTree) (start : Path) : Prop
  | name (long : tree.firstFile (candidates start) = .error .nameTooLong)
  | projectName (unfound : tree.firstFile (candidates start) = .ok none)
      (long : tree.isFile (projectOf start) = .error .nameTooLong)
  | decoding (unfound : tree.firstFile (candidates start) = .ok none)
      (isFile : tree.isFile (projectOf start) = .ok true) {fault}
      (read : tree.readText (projectOf start) = .error (.decoding fault))
  | number (unfound : tree.firstFile (candidates start) = .ok none)
      (isFile : tree.isFile (projectOf start) = .ok true) {text breach}
      (read : tree.readText (projectOf start) = .ok text)
      (broken : Document.readToml text = .error (.breach breach))
  | tool (unfound : tree.firstFile (candidates start) = .ok none)
      (isFile : tree.isFile (projectOf start) = .ok true) {text entries tool}
      (read : tree.readText (projectOf start) = .ok text)
      (top : Document.readToml text = .ok (.map entries))
      (held : Value.lookup entries (.text "tool") = some tool) (closed : ¬ CanHold tool)

section

variable {tree : FileTree} {path directory : Path} {defaults entries : List (Value × Value)}
  {text : String}

theorem tomlMap {v : Value} (read : Document.readToml text = .ok v) : ∃ entries, v = .map entries := by
  unfold Document.readToml at read
  split at read
  · rename_i parsed
    cases read
    unfold Toml.parse at parsed
    obtain ⟨draft, -, last⟩ := exceptBindOk.mp parsed
    exact ⟨_, (Except.ok.inj last).symm⟩
  · simp at read
  · simp at read

theorem documentFault {α : Type} {read : Except Document.Fault α} :
    Breaches (read.mapError (documentFailure path)) ↔ ∃ breach, read = .error (.breach breach) := by
  cases read with
  | ok v => simp [Breaches, Except.mapError]
  | error fault => cases fault <;> simp [Breaches, Except.mapError, documentFailure]

theorem documentDeclared {α : Type} (read : Except Document.Fault α) :
    Declared (some path.text) (read.mapError (documentFailure path)) := by
  cases read with
  | ok v => exact .value v
  | error fault =>
    cases fault with
    | breach breach => exact .breach breach
    | json | yaml | toml => exact .fault _

theorem yamlMapped {breach : Breach} : Document.readYamlOrEmpty text = .error (.breach breach) ↔
    Document.readYaml text = .error (.breach breach) := by
  unfold Document.readYamlOrEmpty
  cases Document.readYaml text <;> simp [Except.map]

theorem tableBreaches {name : String} {v : Value} :
    Breaches (tableIn name v) ↔ ∀ entries, v ≠ .map entries := by
  cases v <;> simp [tableIn, Breaches]

theorem heldBreaches {α : Type} {next : Value → Except Failure α} (absent : ¬ Breaches (next (.map []))) :
    Breaches (tableIn "tool" (.map entries) >>= next) ↔
      ∃ tool, Value.lookup entries (.text "tool") = some tool ∧ Breaches (next tool) := by
  have table : tableIn "tool" (.map entries) =
      .ok ((Value.lookup entries (.text "tool")).getD (.map [])) := rfl
  rw [exceptBindBreaches, table]
  cases Value.lookup entries (.text "tool") <;> simp [absent]

theorem projectBreaches : Breaches (inProject (.map entries)) ↔
    ∃ tool, Value.lookup entries (.text "tool") = some tool ∧ ∀ table, tool ≠ .map table := by
  rw [inProject, heldBreaches (by simp [tableBreaches])]
  simp only [tableBreaches]

theorem tomlBreaches : Breaches (readToml path text) ↔
    (∃ breach, Document.readToml text = .error (.breach breach)) ∨
    path.name = projectFile ∧ ∃ entries tool, Document.readToml text = .ok (.map entries) ∧
      Value.lookup entries (.text "tool") = some tool ∧ ∀ table, tool ≠ .map table := by
  simp only [readToml, exceptBindBreaches, documentFault, mapErrorOk]
  by_cases project : path.name = projectFile
  · simp only [project, if_true, true_and]
    refine or_congr_right ⟨?_, ?_⟩
    · rintro ⟨v, read, breaks⟩
      obtain ⟨entries, rfl⟩ := tomlMap read
      obtain ⟨tool, held, noTable⟩ := projectBreaches.mp breaks
      exact ⟨entries, tool, read, held, noTable⟩
    · rintro ⟨entries, tool, read, held, noTable⟩
      exact ⟨_, read, projectBreaches.mpr ⟨tool, held, noTable⟩⟩
  · simp [project]

theorem valueYaml (yaml : IsYaml (Text.lower path.suffix)) : readValue path text =
    (Document.readYamlOrEmpty text).mapError (documentFailure path) := by
  rcases yaml with suffix | suffix <;> simp [readValue, suffix]

theorem valueJson (json : Text.lower path.suffix = ".json") : readValue path text =
    (Document.readJson text).mapError (documentFailure path) := by
  simp [readValue, json]

theorem valueToml (toml : Text.lower path.suffix = ".toml") :
    readValue path text = readToml path text := by
  simp [readValue, toml]

theorem valueOther (noYaml : ¬ IsYaml (Text.lower path.suffix)) (noJson : Text.lower path.suffix ≠ ".json")
    (noToml : Text.lower path.suffix ≠ ".toml") :
    readValue path text = refuse path (.unsupported (Text.lower path.suffix)) := by
  obtain ⟨long, short⟩ := not_or.mp noYaml
  simp [readValue, long, short, noJson, noToml]

theorem valueBreaches : Breaches (readValue path text) ↔ Breaks path text := by
  constructor
  · intro breaches
    by_cases yaml : IsYaml (Text.lower path.suffix)
    · rw [valueYaml yaml, documentFault] at breaches
      obtain ⟨breach, read⟩ := breaches
      exact .yaml yaml (yamlMapped.mp read)
    by_cases json : Text.lower path.suffix = ".json"
    · rw [valueJson json, documentFault] at breaches
      obtain ⟨breach, read⟩ := breaches
      exact .json json read
    by_cases toml : Text.lower path.suffix = ".toml"
    · rw [valueToml toml, tomlBreaches] at breaches
      rcases breaches with ⟨breach, read⟩ | ⟨project, entries, tool, read, held, noTable⟩
      · exact .toml toml read
      · exact .tool toml project read held noTable
    · simp [valueOther yaml json toml, refuse, Breaches] at breaches
  · intro breaks
    cases breaks with
    | yaml yaml read =>
      rw [valueYaml yaml, documentFault]
      exact ⟨_, yamlMapped.mpr read⟩
    | json json read =>
      rw [valueJson json, documentFault]
      exact ⟨_, read⟩
    | toml toml read =>
      rw [valueToml toml, tomlBreaches]
      exact .inl ⟨_, read⟩
    | tool toml project read held noTable =>
      rw [valueToml toml, tomlBreaches]
      exact .inr ⟨project, _, _, read, held, noTable⟩

theorem tableDeclared (file : Option String) (name : String) (v : Value) :
    Declared file (tableIn name v) := by
  cases v with
  | map entries => exact .value _
  | _ => exact .breach _

theorem valueDeclared (path : Path) (text : String) : Declared (some path.text) (readValue path text) := by
  unfold readValue readToml
  dsimp only
  split
  · exact documentDeclared _
  · split
    · exact documentDeclared _
    · split
      · refine exceptBindDeclared (documentDeclared _) fun v _ => ?_
        split
        · exact exceptBindDeclared (tableDeclared _ _ _) fun _ _ => tableDeclared _ _ _
        · exact .value v
      · exact .fault _

/-! ### Items -/

theorem otherEntries {item : Value} (noMap : ∀ entries, item ≠ .map entries) :
    targetEntries path defaults item =
      Target.written item.literal? >>= fun literal => refuse path (.entryNotMapping literal) := by
  cases item with
  | map entries => exact absurd rfl (noMap entries)
  | _ => rfl

theorem itemEntriesBreaches {item : Value} :
    Breaches (targetEntries path defaults item) ↔
      (∀ entries, item ≠ .map entries) ∧ item.HoldsLong := by
  by_cases isMap : ∃ entries, item = .map entries
  · obtain ⟨entries, rfl⟩ := isMap
    simp [targetEntries]
  · have noMap := not_exists.mp isMap
    rw [otherEntries noMap, exceptBindBreaches, Target.writtenBreaches, Value.literalNone]
    simp [refuse, Breaches, noMap]

theorem itemEntriesDeclared (path : Path) (defaults : List (Value × Value)) (item : Value) :
    Declared (some path.text) (targetEntries path defaults item) := by
  by_cases isMap : ∃ entries, item = .map entries
  · obtain ⟨entries, rfl⟩ := isMap
    exact .value _
  · rw [otherEntries (not_exists.mp isMap)]
    exact exceptBindDeclared (Target.writtenDeclared _) fun _ _ => .fault _

theorem itemBreaches {item : Value} :
    Breaches (itemTarget path directory defaults item).outcome ↔ ItemTrips defaults item := by
  simp only [itemTarget, bindBreaches, ofExceptOutcome, itemEntriesBreaches, Target.entriesBreach]
  constructor
  · rintro (⟨noMap, long⟩ | ⟨entries, own, trips⟩)
    · exact .other noMap long
    · by_cases isMap : ∃ entries, item = .map entries
      · obtain ⟨more, rfl⟩ := isMap
        cases own
        exact .entries trips
      · obtain ⟨literal, -, refused⟩ := exceptBindOk.mp ((otherEntries (not_exists.mp isMap)).symm.trans own)
        simp [refuse] at refused
  · intro trips
    cases trips with
    | other noMap long => exact .inl ⟨noMap, long⟩
    | entries trips => exact .inr ⟨_, rfl, trips⟩

theorem itemsBreaches {items : List Value} :
    Breaches (targets path directory defaults items).outcome ↔
      ItemsTrip path directory defaults items := by
  induction items with
  | nil =>
    simp only [targets, pureOutcome, okWhole, false_iff]
    rintro ⟨⟩
  | cons item rest ih =>
    have head : Breaches (targets path directory defaults (item :: rest)).outcome ↔
        Breaches (itemTarget path directory defaults item).outcome ∨
          ∃ target, (itemTarget path directory defaults item).outcome = .ok target ∧
            Breaches (targets path directory defaults rest).outcome := by
      simp only [targets, itemTarget, bindBreaches, bindOutcomeOk, pureOutcome, okWhole, and_false,
        exists_false, or_false]
      grind
    rw [head, itemBreaches, ih]
    constructor
    · rintro (trips | ⟨target, made, trips⟩)
      · exact .head trips
      · exact .later made trips
    · intro trips
      cases trips with
      | head trips => exact .inl trips
      | later made trips => exact .inr ⟨_, made, trips⟩

theorem itemsDeclared (path directory : Path) (defaults : List (Value × Value)) (items : List Value) :
    Declared (some path.text) (targets path directory defaults items).outcome := by
  induction items with
  | nil => exact .value _
  | cons item rest ih =>
    exact bindDeclared (itemEntriesDeclared path defaults item) fun entries _ =>
      bindDeclared (Target.entriesDeclared _ _ entries) fun _ _ => bindDeclared ih fun _ _ => .value _

/-! ### Files -/

theorem entriesBreaches :
    Breaches (ofEntries tree path entries).outcome ↔ ∃ items,
      Value.lookup entries (.text "bundles") = some (.list items) ∧
        ItemsTrip path (directoryOf tree path) (defaultsOf entries) items := by
  unfold ofEntries
  split
  · rename_i first rest listed
    simp only [listed, Option.some.injEq, Value.list.injEq, exists_eq_left', ← itemsBreaches,
      bindBreaches]
    refine or_iff_left ?_
    rintro ⟨made, -, breaches⟩
    split at breaches <;> simp [Breaches, bindOutcome, Except.bind] at breaches
  · rename_i unlisted
    simp only [failOutcome, Breaches, Except.error.injEq, reduceCtorEq, exists_false, false_iff]
    rintro ⟨items, listed, trips⟩
    cases trips <;> exact unlisted _ _ listed

theorem entriesDeclared (tree : FileTree) (path : Path) (entries : List (Value × Value)) :
    Declared (some path.text) (ofEntries tree path entries).outcome := by
  unfold ofEntries
  split
  · refine bindDeclared (itemsDeclared path _ _ _) fun made _ => ?_
    split
    · exact .fault _
    · exact .value made
  · exact .fault _

theorem textRead (isFile : tree.isFile path = .ok true) :
    (∃ text, tree.readText path = .ok text) ∨ ∃ fault, tree.readText path = .error (.decoding fault) := by
  obtain ⟨content, stands⟩ := FileTree.fileStands isFile
  unfold FileTree.readText FileTree.readBytes
  rw [stands]
  dsimp only
  cases Text.Utf8.decode content with
  | ok text => exact .inl ⟨_, rfl⟩
  | error fault => exact .inr ⟨_, rfl⟩

def topEntries (path : Path) : Value → Except Failure (List (Value × Value))
  | .map entries => .ok entries
  | _ => refuse path .notMapping

theorem topWhole {v : Value} : ¬ Breaches (topEntries path v) := by
  cases v <;> simp [topEntries, Breaches, refuse]

theorem topOk {v : Value} : topEntries path v = .ok entries ↔ v = .map entries := by
  cases v <;> simp [topEntries, refuse]

theorem topDeclared (path : Path) (v : Value) : Declared (some path.text) (topEntries path v) := by
  cases v with
  | map entries => exact .value entries
  | _ => exact .fault _

theorem readSteps (tree : FileTree) (path : Path) :
    read tree path = (tree.readText path).mapError (readFailure path) >>= fun text =>
      readValue path text >>= topEntries path := by
  unfold read
  refine congrArg (bind _) (funext fun text => congrArg (bind _) (funext fun v => ?_))
  cases v <;> rfl

theorem readStanding (isFile : tree.isFile path = .ok true) :
    (∃ fault, tree.readText path = .error (.decoding fault) ∧ read tree path = .error (.breach .decoding)) ∨
    ∃ text, tree.readText path = .ok text ∧
      read tree path = readValue path text >>= topEntries path := by
  rw [readSteps]
  -- What is read from the text must not be unfolded here.
  generalize same : (fun text => readValue path text >>= topEntries path) = next
  rcases textRead isFile with ⟨text, decoded⟩ | ⟨fault, undecoded⟩
  · rw [decoded]
    exact .inr ⟨text, rfl, (congrFun same text).symm⟩
  · rw [undecoded]
    exact .inl ⟨fault, rfl, rfl⟩

theorem readBreaches (isFile : tree.isFile path = .ok true) : Breaches (read tree path) ↔
    (∃ fault, tree.readText path = .error (.decoding fault)) ∨
      ∃ text, tree.readText path = .ok text ∧ Breaks path text := by
  rcases readStanding isFile with ⟨fault, undecoded, broken⟩ | ⟨text, decoded, top⟩
  · simp [undecoded, broken, Breaches]
  · simp only [top, decoded, exceptBindBreaches, valueBreaches, topWhole, and_false, exists_false, or_false,
      reduceCtorEq, false_or, Except.ok.injEq, exists_eq_left']

theorem readOk (isFile : tree.isFile path = .ok true) : read tree path = .ok entries ↔
    ∃ text, tree.readText path = .ok text ∧ readValue path text = .ok (.map entries) := by
  rcases readStanding isFile with ⟨fault, undecoded, broken⟩ | ⟨text, decoded, top⟩
  · simp [undecoded, broken]
  · simp only [top, decoded, exceptBindOk, topOk, Except.ok.injEq, exists_eq_left', exists_eq_right]

theorem readDeclared (isFile : tree.isFile path = .ok true) :
    Declared (some path.text) (read tree path) := by
  rcases readStanding isFile with ⟨fault, -, broken⟩ | ⟨text, -, top⟩
  · rw [broken]
    exact .breach _
  · rw [top]
    exact exceptBindDeclared (valueDeclared path text) fun v _ => topDeclared path v

theorem fileBreaches : Breaches (ofFiles (tree.isFile path)).outcome ↔
    tree.isFile path = .error .nameTooLong := by
  simp only [Breaches, ofFilesError]
  constructor
  · rintro ⟨breach, fault, failed, -⟩
    obtain rfl := FileTree.isFileFault failed
    exact failed
  · exact fun long => ⟨_, _, long, rfl⟩

theorem standingLoad (isFile : tree.isFile path = .ok true) :
    (load tree path).outcome = (Report.ofExcept (read tree path) >>= ofEntries tree path).outcome := by
  rw [load, bindOutcome (ofFiles _), isFile]
  rfl

theorem absentLoad (absent : tree.isFile path ≠ .ok true) :
    Breaches (load tree path).outcome ↔ tree.isFile path = .error .nameTooLong := by
  rw [load, bindBreaches, fileBreaches]
  refine or_iff_left ?_
  rintro ⟨isFile, tested, rest⟩
  cases isFile with
  | true => exact absent (ofFilesOk.mp tested)
  | false => simp [Breaches] at rest

theorem loadBreaches : Breaches (load tree path).outcome ↔ Trips tree path := by
  by_cases standing : tree.isFile path = .ok true
  · rw [standingLoad standing, bindBreaches, ofExceptOutcome, readBreaches standing]
    constructor
    · rintro ((⟨fault, undecoded⟩ | ⟨text, decoded, breaks⟩) | ⟨entries, top, rest⟩)
      · exact .decoding standing undecoded
      · exact .document standing decoded breaks
      · obtain ⟨text, decoded, value⟩ := (readOk standing).mp top
        obtain ⟨items, listed, trips⟩ := entriesBreaches.mp rest
        exact .items standing decoded value listed trips
    · intro trips
      cases trips with
      | name long => simp [standing] at long
      | decoding _ undecoded => exact .inl (.inl ⟨_, undecoded⟩)
      | document _ decoded breaks => exact .inl (.inr ⟨_, decoded, breaks⟩)
      | items _ decoded value listed trips =>
        exact .inr ⟨_, (readOk standing).mpr ⟨_, decoded, value⟩,
          entriesBreaches.mpr ⟨_, listed, trips⟩⟩
  · rw [absentLoad standing]
    constructor
    · exact .name
    · intro trips
      cases trips with
      | name long => exact long
      | decoding found | document found | items found => exact absurd found standing

theorem loadDeclared (tree : FileTree) (path : Path) :
    Declared (some path.text) (load tree path).outcome := by
  refine bindDeclared ?_ fun isFile tested => ?_
  · cases tree.isFile path with
    | error fault => exact .breach _
    | ok isFile => exact .value isFile
  · cases isFile with
    | false => exact .fault _
    | true =>
      refine bindDeclared (readDeclared (ofFilesOk.mp tested)) fun entries _ => ?_
      exact entriesDeclared tree path entries

/-! ### The search -/

theorem toolBreaches {v : Value} : Breaches (mentionsTool v) ↔ ¬ CanHold v := by
  cases v <;> simp [mentionsTool, CanHold, Breaches]

theorem declaresBreaches (isFile : tree.isFile path = .ok true) :
    Breaches (declaresIn tree path).outcome ↔
      (∃ fault, tree.readText path = .error (.decoding fault)) ∨
      ∃ text, tree.readText path = .ok text ∧
        ((∃ breach, Document.readToml text = .error (.breach breach)) ∨
          ∃ entries tool, Document.readToml text = .ok (.map entries) ∧
            Value.lookup entries (.text "tool") = some tool ∧ ¬ CanHold tool) := by
  unfold declaresIn
  rcases textRead isFile with ⟨text, decoded⟩ | ⟨fault, undecoded⟩
  · rw [decoded]
    cases top : Document.readToml text with
    | error fault =>
      cases fault <;> simp [Breaches, bindOutcome, Except.bind, top]
    | ok v =>
      obtain ⟨entries, rfl⟩ := tomlMap top
      have held := @heldBreaches entries _ mentionsTool (by simp [toolBreaches, CanHold])
      simp only [toolBreaches] at held
      simpa [top] using held
  · simp [undecoded, Breaches]

theorem tableAnswered (name : String) (v : Value) : Answered (tableIn name v) := by
  cases v with
  | map entries => exact .inl ⟨_, rfl⟩
  | _ => exact .inr ⟨_, rfl⟩

theorem toolAnswered (v : Value) : Answered (mentionsTool v) := by
  cases v with
  | map | list | text => exact .inl ⟨_, rfl⟩
  | _ => exact .inr ⟨_, rfl⟩

theorem declaresAnswered (tree : FileTree) (path : Path) : Answered (declaresIn tree path).outcome := by
  unfold declaresIn
  split
  · exact .inr ⟨_, rfl⟩
  · exact .inl ⟨false, rfl⟩
  · split
    · exact .inr ⟨_, rfl⟩
    · exact .inl ⟨false, rfl⟩
    · exact exceptBindAnswered (tableAnswered "tool" _) toolAnswered

def searchProject (tree : FileTree) (project : Path) : Report (Option Path) := do
  if ← Report.ofFiles (tree.isFile project) then
    if ← declaresIn tree project then pure (some project) else pure none
  else pure none

theorem findSteps (tree : FileTree) (start : Option String) :
    find tree start = Report.ofFiles (tree.firstFile (candidates (startOf tree start))) >>= fun
      | some path => pure (some path)
      | none => searchProject tree (projectOf (startOf tree start)) := by
  cases start <;> rfl

theorem projectAnswered (tree : FileTree) (project : Path) :
    Answered (searchProject tree project).outcome := by
  refine bindAnswered (ofFilesAnswered _) fun isFile => ?_
  split
  · refine bindAnswered (declaresAnswered tree project) fun declares => ?_
    split
    · exact .inl ⟨_, rfl⟩
    · exact .inl ⟨_, rfl⟩
  · exact .inl ⟨_, rfl⟩

theorem findAnswered (tree : FileTree) (start : Option String) : Answered (find tree start).outcome := by
  rw [findSteps]
  refine bindAnswered (ofFilesAnswered _) fun found => ?_
  cases found with
  | some path => exact .inl ⟨_, rfl⟩
  | none => exact projectAnswered tree _

theorem searchBreaches : Breaches (searchProject tree path).outcome ↔
    tree.isFile path = .error .nameTooLong ∨
      tree.isFile path = .ok true ∧ Breaches (declaresIn tree path).outcome := by
  unfold searchProject
  rw [bindBreaches, fileBreaches]
  refine or_congr_right ⟨?_, ?_⟩
  · rintro ⟨isFile, tested, rest⟩
    cases isFile with
    | false => simp at rest
    | true =>
      rw [if_pos rfl, bindBreaches] at rest
      refine ⟨ofFilesOk.mp tested, rest.resolve_right ?_⟩
      rintro ⟨declares, -, last⟩
      cases declares <;> simp at last
  · rintro ⟨tested, broken⟩
    exact ⟨true, ofFilesOk.mpr tested, bindBreaches.mpr (.inl broken)⟩

theorem candidateBreaches {paths : List Path} : Breaches (ofFiles (tree.firstFile paths)).outcome ↔
    tree.firstFile paths = .error .nameTooLong := by
  simp only [Breaches, ofFilesError]
  constructor
  · rintro ⟨breach, fault, failed, -⟩
    obtain rfl := FileTree.firstFault failed
    exact failed
  · exact fun long => ⟨_, _, long, rfl⟩

theorem unfoundSearch {start : Option String}
    (unfound : tree.firstFile (candidates (startOf tree start)) = .ok none) :
    (find tree start).outcome = (searchProject tree (projectOf (startOf tree start))).outcome := by
  rw [findSteps, bindOutcome (ofFiles _), unfound]
  rfl

theorem findBreaches {start : Option String} :
    Breaches (find tree start).outcome ↔ SearchTrips tree (startOf tree start) := by
  constructor
  · intro broken
    rw [findSteps, bindBreaches, candidateBreaches] at broken
    rcases broken with long | ⟨found, tested, rest⟩
    · exact .name long
    cases found with
    | some path => simp at rest
    | none =>
      have unfound := ofFilesOk.mp tested
      rcases searchBreaches.mp rest with long | ⟨isFile, broken⟩
      · exact .projectName unfound long
      rcases (declaresBreaches isFile).mp broken with ⟨fault, undecoded⟩ | ⟨text, decoded, inside⟩
      · exact .decoding unfound isFile undecoded
      rcases inside with ⟨breach, number⟩ | ⟨entries, tool, top, held, closed⟩
      · exact .number unfound isFile decoded number
      · exact .tool unfound isFile decoded top held closed
  · intro trips
    cases trips with
    | name long =>
      rw [findSteps, bindBreaches]
      exact .inl (candidateBreaches.mpr long)
    | projectName unfound long =>
      rw [unfoundSearch unfound, searchBreaches]
      exact .inl long
    | decoding unfound isFile undecoded =>
      rw [unfoundSearch unfound, searchBreaches, declaresBreaches isFile]
      exact .inr ⟨isFile, .inl ⟨_, undecoded⟩⟩
    | number unfound isFile decoded number =>
      rw [unfoundSearch unfound, searchBreaches, declaresBreaches isFile]
      exact .inr ⟨isFile, .inr ⟨_, decoded, .inl ⟨_, number⟩⟩⟩
    | tool unfound isFile decoded top held closed =>
      rw [unfoundSearch unfound, searchBreaches, declaresBreaches isFile]
      exact .inr ⟨isFile, .inr ⟨_, decoded, .inr ⟨_, _, top, held, closed⟩⟩⟩

end

/-- Whatever the files hold, a declaration is loaded or one of its faults is told, unless the loading
breaks off; and the search finds a file or none, unless it breaks off. -/
theorem faultsDeclared (tree : FileTree) :
    (∀ path,
      (¬ Trips tree path ↔ (∃ targets, (load tree path).outcome = .ok targets) ∨
        ∃ reason, (load tree path).outcome = .error (.declaration reason (some path.text))) ∧
      (Trips tree path ↔ Breaches (load tree path).outcome)) ∧
    ∀ start,
      (¬ SearchTrips tree (startOf tree start) ↔ ∃ found?, (find tree start).outcome = .ok found?) ∧
      (SearchTrips tree (startOf tree start) ↔ Breaches (find tree start).outcome) := by
  refine ⟨fun path => ⟨?_, loadBreaches.symm⟩, fun start => ⟨?_, findBreaches.symm⟩⟩
  · rw [← loadBreaches]
    have declared := loadDeclared tree path
    generalize (load tree path).outcome = outcome at declared ⊢
    cases declared with
    | value targets => simp
    | fault reason => simp [Breaches]
    | breach breach => simp [Breaches]
  · rw [← findBreaches]
    rcases findAnswered tree start with ⟨found, answer⟩ | ⟨breach, broken⟩
    · simp [answer]
    · simp [broken, Breaches]

/-- Bytes that are no text break off both the loading and the search, and a number as the name of a bundle
breaks off the loading. -/
theorem bytesUndeclared :
    (load (.single "typedbundle.yaml" (.mk #[0xff])) ⟨.relative, ["typedbundle.yaml"]⟩).outcome =
      .error (.breach .decoding) ∧
    (find (.single "pyproject.toml" (.mk #[0xff])) none).outcome = .error (.breach .decoding) ∧
    (load (.single "typedbundle.yaml" "bundles:\n- bundle: 5\n  source_dir: a\n  output: b.py\n".toUTF8)
      ⟨.relative, ["typedbundle.yaml"]⟩).outcome = .error (.breach .type) := by
  -- Targets cannot be compared, so the two loadings are told apart by how many targets they give.
  refine ⟨(mapFailed (f := List.length)).mp ?_, ?_, (mapFailed (f := List.length)).mp ?_⟩
  all_goals decide +kernel

end Phrasebook.Declaration

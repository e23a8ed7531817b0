import Phrasebook.Proofs.DeclarationFaults
import Phrasebook.Proofs.Drafts
import Phrasebook.Proofs.RelativePaths

/-! Outputs of one declaration. They are told apart as they are spelled, which keeps modules apart as long as
no spelling leads upwards or begins with two slashes; two spellings of one file are not noticed. -/
namespace Phrasebook

open Report

namespace Path

variable {path : Path} {base : List String}

def IsDirect (path : Path) : Prop := path.root = .slash ∧ ".." ∉ path.segments

instance (path : Path) : Decidable path.IsDirect := by
  unfold IsDirect
  infer_instance

theorem absoluteResolve (absolute : path.isAbsolute = true) :
    path.resolve base = follow [] path.segments := by
  rw [resolve, if_pos absolute, settleFollow, List.reverse_nil]

theorem directResolve (direct : path.IsDirect) : path.resolve base = path.segments := by
  have absolute : path.isAbsolute = true := by simp [isAbsolute, direct.1]
  rw [absoluteResolve absolute, followDown fun segment mem => ne_of_mem_of_not_mem mem direct.2,
    List.nil_append]

theorem directInjective {other : Path} (direct : path.IsDirect) (alike : other.IsDirect)
    (same : path.resolve base = other.resolve base) : path = other := by
  rw [directResolve direct, directResolve alike] at same
  obtain ⟨root, segments⟩ := path
  obtain ⟨others, further⟩ := other
  obtain ⟨rfl, -⟩ := direct
  obtain ⟨rfl, -⟩ := alike
  exact congrArg _ same

end Path

namespace FileTree

variable {tree left made : FileTree} {path : Path} {place : List String}

theorem walkFollow {here segments : List String} (walked : tree.walk here segments = .ok place) :
    place = Path.follow here segments := by
  induction segments generalizing here with
  | nil => exact (Except.ok.inj walked).symm
  | cons segment rest ih =>
    simp only [walk] at walked
    split at walked
    · cases walked
    · cases walked
    · rw [Path.follow]
      split at walked
      · rename_i up
        rw [if_pos up]
        exact ih walked
      · rename_i down
        rw [if_neg down]
        split at walked
        · cases walked
        · exact ih walked

theorem locatedResolve (absolute : path.isAbsolute = true) (found : tree.locate path = .ok place) :
    place = path.resolve tree.base := by
  obtain ⟨-, -, walked⟩ := located.mp found
  rw [if_pos absolute] at walked
  rw [walkFollow walked, Path.absoluteResolve absolute]

theorem bytesRead {content : ByteArray} : tree.readBytes path = .ok content ↔
    ∃ place, tree.locate path = .ok place ∧ tree.entryAt? place = some (.file content) := by
  unfold readBytes stat
  cases tree.locate path with
  | error fault => simp
  | ok place =>
    cases standing : tree.entryAt? place with
    | none => simp [standing]
    | some entry => cases entry <;> simp [standing]

/-! ### Files that are spared -/

/-- Directories stay, and so do the files of all places but one. -/
structure Spares (place : List String) (tree left : FileTree) : Prop extends Extends tree left where
  file : ∀ other content, other ≠ place → tree.entryAt? other = some (.file content) →
    left.entryAt? other = some (.file content)

theorem Spares.refl (place : List String) (tree : FileTree) : Spares place tree tree :=
  ⟨⟨rfl, fun _ stands => stands⟩, fun _ _ _ stands => stands⟩

theorem Spares.trans {mid : FileTree} (first : Spares place tree mid) (later : Spares place mid left) :
    Spares place tree left :=
  ⟨⟨later.base.trans first.base, fun other stands => later.directory other (first.directory other stands)⟩,
    fun other content apart stands => later.file other content apart (first.file other content apart stands)⟩

def Keeps (tree left : FileTree) (path : Path) : Prop :=
  ∀ content, tree.readBytes path = .ok content → left.readBytes path = .ok content

theorem Spares.keeps (spared : Spares place tree left) (absolute : path.isAbsolute = true)
    (apart : path.resolve tree.base ≠ place) : Keeps tree left path := by
  intro content read
  obtain ⟨there, found, stands⟩ := bytesRead.mp read
  have other : there ≠ place := locatedResolve absolute found ▸ apart
  exact bytesRead.mpr ⟨there, locatedExtends spared.toExtends found,
    spared.file there content other stands⟩

theorem Made.spares (grown : Made tree made path) (place : List String) : Spares place tree made := by
  refine ⟨grown.extends, fun other content _ stands => ?_⟩
  rcases grown.entries other with same | fresh
  · exact same.trans stands
  · cases fresh.missing.symm.trans stands

theorem directoriesSpare (root : Root) (segments place : List String) :
    Spares place tree (tree.makeDirectoriesTo root segments).1 := by
  induction segments with
  | nil => exact .refl place tree
  | cons last before ih =>
    simp only [makeDirectoriesTo]
    split
    · rename_i direct
      exact (directoryMade direct).spares place
    · split
      · rename_i broken
        rwa [broken] at ih
      · rename_i above
        rw [above] at ih
        split
        · rename_i direct
          exact ih.trans ((directoryMade direct).spares place)
        · exact ih
    · exact .refl place tree

theorem writeSpares {content : ByteArray} (absolute : path.isAbsolute = true)
    (ok : tree.write path content = .ok left) : Spares (path.resolve tree.base) tree left := by
  obtain ⟨place, found, other, rfl⟩ := fileWritten ok
  refine ⟨placedExtends other _, fun there held apart stands => ?_⟩
  rw [tree.placedEntry (missingFilled other), if_neg]
  · exact stands
  · rintro rfl
    exact apart (locatedResolve absolute found)

theorem textSpares (absolute : path.isAbsolute = true) (text : String) :
    Spares (path.resolve tree.base) tree (Target.writeText tree path text).1 := by
  have above := @directoriesSpare tree path.parent.root path.parent.segments.reverse (path.resolve tree.base)
  rw [← makeDirectories] at above
  unfold Target.writeText
  split
  · rename_i broken
    rwa [broken] at above
  · rename_i whole
    rw [whole] at above
    split
    · rename_i written
      have spared := writeSpares absolute written
      rw [above.base] at spared
      exact above.trans spared
    · exact above

end FileTree

namespace Target

open FileTree

variable {tree : FileTree} {t other : Target}

theorem generateSpares (force : Bool) (absolute : t.output.isAbsolute = true) :
    Spares (t.output.resolve tree.base) tree (generate force tree t).1 := by
  unfold generate
  dsimp only
  split
  · exact .refl _ tree
  · rename_i draft _
    have spared := @textSpares tree _ absolute draft.source
    split
    · split
      · rename_i broken
        rwa [broken] at spared
      · rename_i wrote
        rwa [wrote] at spared
    · exact .refl _ tree

def SameFile (tree : FileTree) (path other : Path) : Prop :=
  path.resolve tree.base = other.resolve tree.base

theorem generateKeeps (force : Bool) (absolute : t.output.isAbsolute = true) {path : Path}
    (placed : path.isAbsolute = true) (apart : ¬ SameFile tree t.output path) :
    Keeps tree (generate force tree t).1 path :=
  (generateSpares force absolute).keeps placed (Ne.symm apart)

theorem generateReplaces {force : Bool} {result : Generation} (absolute : t.output.isAbsolute = true)
    {path : Path} (placed : path.isAbsolute = true) (same : SameFile tree t.output path)
    (ok : (generate force tree t).2.outcome = .ok result) (written : result.written = true)
    {place : List String} (found : (generate force tree t).1.locate path = .ok place) :
    (generate force tree t).1.readBytes path = .ok result.source.toUTF8 := by
  have outcome := generated force tree t
  generalize (generate force tree t).1 = left at outcome found ⊢
  generalize (generate force tree t).2.outcome = answer at outcome ok
  cases outcome with
  | refused | broken => cases ok
  | settled drafted =>
    obtain ⟨spec, source, current, -, -, -, rfl⟩ := draftOutcome.mp drafted
    cases ok
    cases written
  | written drafted due wrote =>
    cases ok
    obtain ⟨there, change⟩ := textWritten wrote
    refine bytesRead.mpr ⟨place, found, ?_⟩
    have meets : place = there := by
      rw [locatedResolve placed found, locatedResolve absolute change.found, change.base]
      exact same.symm
    rw [meets]
    exact change.stands

end Target

namespace Declaration

open FileTree Target

variable {tree : FileTree} {path directory : Path} {defaults entries : List (Value × Value)}
  {items : List Value} {made : List Target}

/-- The targets that the items of a declaration stand for, whatever their outputs. -/
structure Lists (tree : FileTree) (path : Path) (made : List Target) : Prop where
  isFile : tree.isFile path = .ok true
  listed : ∃ text entries items, tree.readText path = .ok text ∧
    readValue path text = .ok (.map entries) ∧
    Value.lookup entries (.text "bundles") = some (.list items) ∧ items ≠ [] ∧
    List.Forall₂ (fun item target =>
      (itemTarget path (directoryOf tree path) (defaultsOf entries) item).outcome = .ok target) items made

theorem noneShared {seen : List Path} : sharedOutput? seen made = none ↔
    (made.map Target.output).Nodup ∧ ∀ target ∈ made, target.output ∉ seen := by
  induction made generalizing seen with
  | nil => simp [sharedOutput?]
  | cons target rest ih =>
    rw [sharedOutput?]
    by_cases held : target.output ∈ seen
    · simp [held]
    · -- What is seen later is what was seen before and this output.
      simp only [List.contains_iff_mem, held, if_false, ih, List.mem_cons, not_or, List.map_cons,
        List.nodup_cons, List.mem_map, not_exists, not_and, forall_eq_or_imp, not_false_iff, true_and]
      grind

theorem itemsMade : (targets path directory defaults items).outcome = .ok made ↔
    List.Forall₂ (fun item target => (itemTarget path directory defaults item).outcome = .ok target)
      items made := by
  induction items generalizing made with
  | nil => simp [targets, eq_comm]
  | cons item rest ih =>
    simp only [targets, bindOutcomeOk, ofExceptOutcome, pureOutcome, Except.ok.injEq]
    constructor
    · rintro ⟨entries, own, target, answered, others, later, rfl⟩
      exact .cons (bindOutcomeOk.mpr ⟨entries, own, answered⟩) (ih.mp later)
    · intro each
      cases each with
      | cons head later =>
        obtain ⟨entries, own, answered⟩ := bindOutcomeOk.mp head
        exact ⟨entries, own, _, answered, _, ih.mpr later, rfl⟩

theorem entriesMade : (ofEntries tree path entries).outcome = .ok made ↔
    (∃ items, Value.lookup entries (.text "bundles") = some (.list items) ∧ items ≠ [] ∧
      List.Forall₂ (fun item target =>
        (itemTarget path (directoryOf tree path) (defaultsOf entries) item).outcome = .ok target)
        items made) ∧
    (made.map Target.output).Nodup := by
  unfold ofEntries
  split
  · rename_i first rest listed
    simp only [listed, Option.some.injEq, Value.list.injEq, exists_eq_left', ne_eq, reduceCtorEq,
      not_false_iff, true_and, ← itemsMade, bindOutcomeOk]
    constructor
    · rintro ⟨all, answered, last⟩
      split at last
      · cases last
      · rename_i unshared
        obtain ⟨-, -, last⟩ := bindOutcomeOk.mp last
        cases last
        exact ⟨answered, (noneShared.mp unshared).1⟩
    · rintro ⟨answered, unshared⟩
      refine ⟨made, answered, ?_⟩
      rw [noneShared.mpr ⟨unshared, by simp⟩]
      exact bindOutcomeOk.mpr ⟨(), rfl, rfl⟩
  · rename_i unlisted
    simp only [failOutcome, reduceCtorEq, false_iff]
    rintro ⟨⟨items, listed, some, -⟩, -⟩
    cases items with
    | nil => exact some rfl
    | cons item rest => exact unlisted _ _ listed

theorem loadMade : (load tree path).outcome = .ok made ↔
    Lists tree path made ∧ (made.map Target.output).Nodup := by
  by_cases standing : tree.isFile path = .ok true
  · rw [standingLoad standing]
    simp only [bindOutcomeOk, ofExceptOutcome, readOk standing, entriesMade]
    constructor
    · rintro ⟨entries, ⟨text, decoded, top⟩, ⟨items, listed, some, each⟩, unshared⟩
      exact ⟨⟨standing, text, entries, items, decoded, top, listed, some, each⟩, unshared⟩
    · rintro ⟨⟨-, text, entries, items, decoded, top, listed, some, each⟩, unshared⟩
      exact ⟨entries, ⟨text, decoded, top⟩, ⟨items, listed, some, each⟩, unshared⟩
  · refine ⟨fun ok => ?_, fun found => absurd found.1.isFile standing⟩
    obtain ⟨isFile, tested, rest⟩ := bindOutcomeOk.mp ok
    cases isFile with
    | true => exact absurd (ofFilesOk.mp tested) standing
    | false => cases rest

theorem placedAbsolute {v : Value} {output : Path} (absolute : directory.isAbsolute = true)
    (ok : pathFrom (some directory) v = .ok output) : output.isAbsolute = true := by
  obtain ⟨given, -, last⟩ := exceptBindOk.mp ok
  obtain rfl := Except.ok.inj last
  dsimp only [Path.join]
  split
  · assumption
  · exact absolute

theorem itemAbsolute {item : Value} {target : Target} (absolute : directory.isAbsolute = true)
    (ok : (itemTarget path directory defaults item).outcome = .ok target) :
    target.output.isAbsolute = true := by
  obtain ⟨entries, -, ok⟩ := bindOutcomeOk.mp ok
  unfold Target.ofEntries at ok
  extract_lets missing at ok
  split at ok
  · obtain ⟨_, -, last⟩ := bindOutcomeOk.mp ok
    cases last
  · simp only [bindOutcomeOk, ofExceptOutcome, ofFields, exceptBindOk] at ok
    obtain ⟨-, -, make, ⟨source, -, output, placed, mode, -, naming, -, same⟩, bundle, -, -, -, last⟩ := ok
    cases last
    cases same
    exact placedAbsolute absolute placed

theorem listsAbsolute (lists : Lists tree path made) :
    ∀ target ∈ made, target.output.isAbsolute = true := by
  obtain ⟨-, text, entries, items, -, -, -, -, each⟩ := lists
  have absolute : (directoryOf tree path).isAbsolute = true := rfl
  generalize directoryOf tree path = directory at each absolute
  induction each with
  | nil => simp
  | cons head _ ih => exact List.forall_mem_cons.mpr ⟨itemAbsolute absolute head, ih⟩

/-- What is loaded are the targets that are listed if their outputs are spelled differently. Two of them
have two files unless a spelling leads upwards or begins with two slashes, and generating one leaves the
other alone; but where two spellings lead to one file, the module of one replaces that of the other. -/
theorem outputsApart (tree : FileTree) (path : Path) (made : List Target)
    (loaded : (load tree path).outcome = .ok made) :
    Lists tree path made ∧ (made.map Target.output).Nodup ∧
    ∀ i j : Fin made.length, i ≠ j →
      (made[i].output.IsDirect → made[j].output.IsDirect →
        ¬ SameFile tree made[i].output made[j].output) ∧
      (¬ SameFile tree made[i].output made[j].output → ∀ force,
        Keeps tree (generate force tree made[i]).1 made[j].output) ∧
      (SameFile tree made[i].output made[j].output → ∀ force result place,
        (generate force tree made[i]).2.outcome = .ok result → result.written = true →
        (generate force tree made[i]).1.locate made[j].output = .ok place →
        (generate force tree made[i]).1.readBytes made[j].output = .ok result.source.toUTF8) := by
  obtain ⟨lists, spelled⟩ := loadMade.mp loaded
  have absolute := listsAbsolute lists
  refine ⟨lists, spelled, fun i j apart => ?_⟩
  have first := absolute made[i] (List.getElem_mem _)
  have second := absolute made[j] (List.getElem_mem _)
  refine ⟨fun direct alike same => ?_, fun other force => generateKeeps force first second other,
    fun same force result place ok written found => generateReplaces first second same ok written found⟩
  have outputs := Path.directInjective direct alike same
  have different := List.pairwise_iff_getElem.mp (List.pairwise_map.mp spelled)
  rcases Nat.lt_or_gt_of_ne fun position => apart (Fin.ext position) with before | after
  · exact different i j i.isLt j.isLt before outputs
  · exact different j i j.isLt i.isLt after outputs.symm

def twoBundles (first second : String) : FileTree :=
  .single "typedbundle.yaml" ("bundles:\n- bundle: messages\n  source_dir: i18n\n  output: " ++ first ++
    "\n- bundle: errors\n  source_dir: i18n\n  output: " ++ second ++ "\n").toUTF8

theorem pairLoaded {outcome : Except Failure (List Target)} {first second : Path}
    (outputs : outcome.map (List.map Target.output) = .ok [first, second]) :
    ∃ a b, outcome = .ok [a, b] ∧ a.output = first ∧ b.output = second := by
  cases outcome with
  | error failure => cases outputs
  | ok made =>
    obtain ⟨a, rest, rfl, own, outputs⟩ := List.map_eq_cons_iff.mp (Except.ok.inj outputs)
    obtain ⟨b, none, rfl, other, outputs⟩ := List.map_eq_cons_iff.mp outputs
    obtain rfl := List.map_eq_nil_iff.mp outputs
    exact ⟨a, b, rfl, own, other⟩

theorem nestedOutputsApart : ∃ a b,
    (load (twoBundles "app.py" "gen/app.py") ⟨.relative, ["typedbundle.yaml"]⟩).outcome = .ok [a, b] ∧
    ¬ SameFile (twoBundles "app.py" "gen/app.py") a.output b.output ∧
    ∀ force, Keeps (twoBundles "app.py" "gen/app.py")
      (generate force (twoBundles "app.py" "gen/app.py") a).1 b.output := by
  have outputs : (load (twoBundles "app.py" "gen/app.py") ⟨.relative, ["typedbundle.yaml"]⟩).outcome.map
      (List.map Target.output) = .ok [⟨.slash, ["app.py"]⟩, ⟨.slash, ["gen", "app.py"]⟩] := by
    decide +kernel
  obtain ⟨a, b, loaded, first, second⟩ := pairLoaded outputs
  obtain ⟨apart, kept, -⟩ := (outputsApart _ _ _ loaded).2.2 0 1 (by simp)
  have other := apart (by change a.output.IsDirect; rw [first]; decide)
    (by change b.output.IsDirect; rw [second]; decide)
  exact ⟨a, b, loaded, other, kept other⟩

/-- Two spellings of one file pass as two outputs. -/
theorem respelledOutput : ∃ a b,
    (load (twoBundles "app.py" "gen/../app.py") ⟨.relative, ["typedbundle.yaml"]⟩).outcome =
      .ok [a, b] ∧ a.output ≠ b.output ∧
    SameFile (twoBundles "app.py" "gen/../app.py") a.output b.output := by
  have outputs : (load (twoBundles "app.py" "gen/../app.py") ⟨.relative, ["typedbundle.yaml"]⟩).outcome.map
      (List.map Target.output) = .ok [⟨.slash, ["app.py"]⟩, ⟨.slash, ["gen", "..", "app.py"]⟩] := by
    decide +kernel
  obtain ⟨a, b, loaded, first, second⟩ := pairLoaded outputs
  refine ⟨a, b, loaded, ?_, ?_⟩
  · rw [first, second]
    decide
  · rw [SameFile, first, second]
    decide

end Declaration

end Phrasebook

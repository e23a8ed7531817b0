import Mathlib.Data.List.TakeWhile
import Phrasebook.FileTree
import Phrasebook.Proofs.Collections
import Phrasebook.Proofs.Pieces

/-! Files directly in a directory. A name without slashes is one more segment of a path, and a test on
that path asks whether the name is listed in the directory, unless it does not fit. -/
namespace Phrasebook

open Text

namespace Path

def child (path : Path) (name : String) : Path := ⟨path.root, path.segments ++ [name]⟩

structure IsPlainName (name : String) : Prop where
  noSlash : '/' ∉ name.toList
  noNull : '\x00' ∉ name.toList
  noDots : name ≠ "." ∧ name ≠ ".." ∧ name ≠ ""

theorem plainRead {name : String} (plain : IsPlainName name) :
    ofString name = (⟨.relative, [name]⟩ : Path) := by
  have clean : ∀ c ∈ name.toList, decide (c = '/') = false := by
    intro c mem
    simpa using fun same : c = '/' => plain.noSlash (same ▸ mem)
  have filled : name.toList ≠ [] := by simpa using plain.noDots.2.2
  have noDot : name.toList ≠ ['.'] := by
    intro dot
    exact plain.noDots.1 (String.toList_inj.mp dot)
  have noRoot : name.toList.takeWhile (· = '/') = [] := by
    cases chars : name.toList with
    | nil => rfl
    | cons c rest => simpa using clean c (by simp [chars])
  simp [ofString, noRoot, segmentsOf, fieldsAt, piecesWhole clean, filled, noDot]

theorem joinedChild {name : String} (plain : IsPlainName name) (path : Path) :
    path.join (ofString name) = path.child name := by
  rw [plainRead plain]
  rfl

theorem childSize (path : Path) : ∃ size, path.text.utf8ByteSize ≤ size + 1 ∧
    ∀ name, (path.child name).text.utf8ByteSize = size + name.utf8ByteSize := by
  obtain ⟨root, segments⟩ := path
  have more : ∀ name : String, (segments ++ [name]).isEmpty = false := fun name => by simp
  by_cases bare : segments = []
  · subst bare
    refine ⟨root.text.utf8ByteSize, ?_, fun name => ?_⟩
    · cases root <;> decide
    · simp [text, child, String.intercalate_singleton]
  · have slash : "/".utf8ByteSize = 1 := rfl
    refine ⟨root.text.utf8ByteSize + ("/".intercalate segments).utf8ByteSize + 1, ?_, fun name => ?_⟩
    · have some : segments.isEmpty = false := by simpa using bare
      simp only [text, some, Bool.and_false, Bool.false_eq_true, if_false, String.utf8ByteSize_append]
      omega
    · have joined : "/".intercalate (segments ++ [name]) =
          "/".intercalate segments ++ "/" ++ "/".intercalate [name] :=
        String.intercalate_append_of_ne_nil bare (by simp)
      simp only [text, child, more, Bool.and_false, Bool.false_eq_true, if_false, joined,
        String.utf8ByteSize_append, String.intercalate_singleton, slash]
      omega

theorem childText (path : Path) {name : String} (filled : name ≠ "") :
    path.text.utf8ByteSize ≤ (path.child name).text.utf8ByteSize := by
  obtain ⟨size, own, text⟩ := path.childSize
  have some := mt String.utf8ByteSize_eq_zero_iff.mp filled
  rw [text]
  omega

theorem splitLastAppend {c : Char} {stem ending : List Char} (clean : c ∉ ending) :
    splitLast? c (stem ++ c :: ending) = some (stem, ending) := by
  have before : ∀ d ∈ ending.reverse, decide (d ≠ c) = true := by
    intro d mem
    simpa using fun same : d = c => clean (same ▸ List.mem_reverse.mp mem)
  have tail : (stem ++ c :: ending).reverse.takeWhile (· ≠ c) = ending.reverse := by
    rw [List.reverse_append, List.reverse_cons, List.append_assoc,
      List.takeWhile_append_of_pos before]
    simp
  have size : (stem ++ c :: ending).length - ending.reverse.length - 1 = stem.length := by
    simp only [List.length_append, List.length_cons, List.length_reverse]
    omega
  have longer : ending.reverse.length ≠ (stem ++ c :: ending).length := by
    simp only [List.length_append, List.length_cons, List.length_reverse]
    omega
  simp only [splitLast?, tail, longer, if_false, size, List.take_left, List.reverse_reverse]

theorem splitLastFound {c : Char} {text stem ending : List Char}
    (found : splitLast? c text = some (stem, ending)) : text = stem ++ c :: ending ∧ c ∉ ending := by
  by_cases held : c ∈ text
  · obtain ⟨before, after, reversed, fresh⟩ :=
      List.eq_append_cons_of_mem (List.mem_reverse.mpr held)
    have spelled : text = after.reverse ++ c :: before.reverse := by
      rw [← List.reverse_reverse text, reversed]
      simp
    have clean : c ∉ before.reverse := by simpa using fresh
    rw [spelled, splitLastAppend clean] at found
    obtain ⟨rfl, rfl⟩ := Prod.mk.inj (Option.some.inj found)
    exact ⟨spelled, clean⟩
  · have all : text.reverse.takeWhile (· ≠ c) = text.reverse :=
      List.takeWhile_eq_self_iff.mpr fun d mem => by
        simpa using fun same : d = c => held (same ▸ List.mem_reverse.mp mem)
    simp only [splitLast?, all, List.length_reverse, if_true] at found
    cases found

theorem partsRead {path : Path} {stem ending : List Char}
    (spelled : path.name.toList = stem ++ '.' :: ending) (clean : '.' ∉ ending) :
    path.nameParts = if stem.isEmpty || ending.isEmpty then (path.name, "")
      else (String.ofList stem, String.ofList ('.' :: ending)) := by
  simp only [nameParts, spelled, splitLastAppend clean]

theorem suffixRead {path : Path} (some : path.suffix ≠ "") : ∃ stem ending, ending ≠ [] ∧
    '.' ∉ ending ∧ path.name.toList = stem ++ '.' :: ending ∧ path.suffix = .ofList ('.' :: ending) := by
  unfold suffix at some ⊢
  cases found : splitLast? '.' path.name.toList with
  | none => simp [nameParts, found] at some
  | some split =>
    obtain ⟨stem, ending⟩ := split
    obtain ⟨spelled, clean⟩ := splitLastFound found
    rw [partsRead spelled clean] at some ⊢
    split at some
    · exact absurd rfl some
    · rename_i filled
      rw [if_neg filled]
      simp only [Bool.or_eq_true, List.isEmpty_iff, not_or] at filled
      exact ⟨stem, ending, filled.2, clean, spelled, rfl⟩

theorem rereadName {text : String} {stem ending : List Char}
    (spelled : text.toList = stem ++ '.' :: ending) (filled : ending ≠ []) (clean : '/' ∉ ending) :
    ∃ last, (ofString text).name.toList = last ++ '.' :: ending := by
  have inside : ∀ c ∈ '.' :: ending, decide (c = '/') = false := by
    refine List.forall_mem_cons.mpr ⟨rfl, fun c mem => ?_⟩
    simpa using fun same : c = '/' => clean (same ▸ mem)
  obtain ⟨before, last, pieces⟩ := piecesEnd inside stem
  have segments : ∃ front, segmentsOf text.toList = front ++ [String.ofList (last ++ '.' :: ending)] := by
    have kept : (last ++ '.' :: ending).isEmpty = false ∧ last ++ '.' :: ending ≠ ['.'] := by
      refine ⟨by simp, fun same => filled (List.length_eq_zero_iff.mp ?_)⟩
      have size := congrArg List.length same
      simp only [List.length_append, List.length_cons, List.length_nil] at size
      omega
    simp only [segmentsOf, fieldsAt, spelled, pieces, List.filter_append, List.map_append]
    exact ⟨_, congrArg _ (by simp [kept])⟩
  obtain ⟨front, segments⟩ := segments
  exact ⟨last, by simp [name, ofString, segments]⟩

/-- A name read as a path of its own has no other suffix than it had. -/
theorem suffixReread {path : Path} (some : path.suffix ≠ "") (clean : '/' ∉ path.suffix.toList) :
    (ofString path.name).suffix = path.suffix ∨ (ofString path.name).suffix = "" := by
  obtain ⟨stem, ending, filled, plain, spelled, suffixed⟩ := suffixRead some
  rw [suffixed, String.toList_ofList] at clean
  obtain ⟨last, again⟩ := rereadName spelled filled (fun mem => clean (List.mem_cons_of_mem _ mem))
  have parts := partsRead again plain
  rw [suffixed, suffix, parts]
  split
  · exact .inr rfl
  · exact .inl rfl

theorem namedParts {stem ending : String} (clean : '.' ∉ ending.toList)
    (filled : stem ≠ "" ∧ ending ≠ "") (path : Path) :
    (path.child (stem ++ "." ++ ending)).nameParts = (stem, "." ++ ending) := by
  have last : (path.child (stem ++ "." ++ ending)).name = stem ++ "." ++ ending := by
    simp [name, child]
  have chars : (stem ++ "." ++ ending).toList = stem.toList ++ '.' :: ending.toList := by simp
  have ends : stem.toList.isEmpty = false ∧ ending.toList.isEmpty = false := by simpa using filled
  simp only [nameParts, last, chars, splitLastAppend clean, ends.1, ends.2, Bool.or_self,
    Bool.false_eq_true, if_false, String.ofList_toList, String.ofList_cons]
  rfl

end Path

namespace FileTree

variable {tree : FileTree}

theorem walkAppend (here segments : List String) (name : String) :
    tree.walk here (segments ++ [name]) =
      (tree.walk here segments).bind fun place => tree.walk place [name] := by
  induction segments generalizing here with
  | nil => rfl
  | cons segment rest ih =>
    simp only [List.cons_append, walk]
    split
    · rfl
    · rfl
    · split
      · exact ih _
      · split
        · rfl
        · exact ih _

theorem walkDown {here place : List String} {name : String} (down : name ≠ "..")
    (walked : tree.walk here [name] = .ok place) : place = here ++ [name] := by
  simp only [walk, down, if_false] at walked
  split at walked
  · cases walked
  · cases walked
  · split at walked
    · cases walked
    · exact (Except.ok.inj walked).symm

theorem fileListed {place : List String} {name : String} :
    name ∈ tree.fileNames place ↔
      ∃ content, tree.entryAt? (place ++ [name]) = some (.file content) := by
  have entry : tree.entryAt? (place ++ [name]) = tree.entries.get? (place ++ [name]) := by
    simp [entryAt?]
  simp only [entry, OrderedMap.getMember, fileNames, List.mem_filterMap, Prod.exists]
  constructor
  · rintro ⟨there, found, mem, listed⟩
    cases found with
    | directory => simp at listed
    | file content =>
      simp only [Option.ite_none_right_eq_some] at listed
      obtain ⟨rfl, last⟩ := listed
      refine ⟨content, ?_⟩
      rwa [List.dropLast_append_getLast? name last]
  · rintro ⟨content, mem⟩
    exact ⟨place ++ [name], .file content, mem, by simp⟩

structure Opens (tree : FileTree) (path : Path) (place : List String) : Prop where
  found : tree.locate path = .ok place
  directory : tree.entryAt? place = some .directory

/-- Neither the name nor the whole path is longer than a file system allows. -/
def Fits (path : Path) (name : String) : Prop :=
  name.utf8ByteSize ≤ maxSegmentBytes ∧ (path.child name).text.utf8ByteSize < maxPathBytes

instance (path : Path) (name : String) : Decidable (Fits path name) := by
  unfold Fits
  infer_instance

theorem located {path : Path} {place : List String} :
    tree.locate path = .ok place ↔ path.holdsNull = false ∧
      path.text.utf8ByteSize < maxPathBytes ∧
      tree.walk (if path.isAbsolute then [] else tree.base) path.segments = .ok place := by
  unfold locate
  by_cases null : path.holdsNull = true
  · simp [null]
  · by_cases long : maxPathBytes ≤ path.text.utf8ByteSize
    · simp [null, long, Nat.not_lt.mpr long]
    · simp [null, long, Nat.lt_of_not_le long]

theorem childNull {path : Path} {name : String} (plain : Path.IsPlainName name) :
    (path.child name).holdsNull = path.holdsNull := by
  simp [Path.holdsNull, Path.child, plain.noNull]

theorem walkName {place : List String} {name : String}
    (directory : tree.entryAt? place = some .directory)
    (plain : Path.IsPlainName name) :
    tree.walk place [name] =
      if maxSegmentBytes < name.utf8ByteSize then .error .nameTooLong else .ok (place ++ [name]) := by
  simp only [walk, directory, plain.noDots.2.1, if_false]

theorem shorterFits {path : Path} {name other : String} (fits : Fits path name)
    (shorter : other.utf8ByteSize ≤ name.utf8ByteSize) : Fits path other := by
  obtain ⟨size, -, text⟩ := path.childSize
  obtain ⟨narrow, short⟩ := fits
  rw [text] at short
  refine ⟨by omega, ?_⟩
  rw [text]
  omega

theorem childLocated {path : Path} {place : List String} {name : String}
    (opens : tree.Opens path place) (plain : Path.IsPlainName name) :
    tree.locate (path.child name) =
      if Fits path name then .ok (place ++ [name]) else .error .nameTooLong := by
  obtain ⟨clean, -, walked⟩ := located.mp opens.found
  have root : (path.child name).isAbsolute = path.isAbsolute := rfl
  have segments : (path.child name).segments = path.segments ++ [name] := rfl
  simp only [locate, childNull plain, clean, Bool.false_eq_true, if_false, root, segments, walkAppend,
    walked, Except.bind, walkName opens.directory plain, Fits]
  by_cases long : maxPathBytes ≤ (path.child name).text.utf8ByteSize
  · simp [long, Nat.not_lt.mpr long]
  · by_cases wide : maxSegmentBytes < name.utf8ByteSize
    · simp [long, wide, Nat.not_le.mpr wide]
    · simp [long, wide, Nat.lt_of_not_le long, Nat.le_of_not_lt wide]

theorem childIsFile {path : Path} {place : List String} {name : String}
    (opens : tree.Opens path place) (plain : Path.IsPlainName name) :
    tree.isFile (path.child name) =
      if Fits path name then .ok (decide (name ∈ tree.fileNames place)) else .error .nameTooLong := by
  unfold isFile test stat
  rw [childLocated opens plain]
  by_cases fits : Fits path name
  · simp only [fits, if_true]
    cases found : tree.entryAt? (place ++ [name]) with
    | none => simp [fileListed, found]
    | some entry => cases entry <;> simp [fileListed, found]
  · simp only [fits, if_false]

theorem childOpens {path : Path} {name : String} (plain : Path.IsPlainName name)
    (isFile : tree.isFile (path.child name) = .ok true) : ∃ place, tree.Opens path place := by
  have found : ∃ there, tree.locate (path.child name) = .ok there := by
    unfold FileTree.isFile test stat at isFile
    cases place : tree.locate (path.child name) with
    | ok there => exact ⟨there, rfl⟩
    | error fault => cases fault <;> simp [place] at isFile
  obtain ⟨there, place⟩ := found
  -- The way to the file passes through its directory.
  obtain ⟨clean, short, walked⟩ := located.mp place
  have segments : (path.child name).segments = path.segments ++ [name] := rfl
  rw [segments, walkAppend] at walked
  cases directory : tree.walk (if (path.child name).isAbsolute then [] else tree.base)
      path.segments with
  | error fault => simp [directory, Except.bind] at walked
  | ok here =>
    simp only [directory, Except.bind] at walked
    refine ⟨here, located.mpr ⟨?_, ?_, directory⟩, ?_⟩
    · rw [← childNull plain, clean]
    · exact Nat.lt_of_le_of_lt (Path.childText path plain.noDots.2.2) short
    · simp only [walk] at walked
      split at walked
      · contradiction
      · contradiction
      · assumption

theorem firstListed {path : Path} {place names : List String} (opens : tree.Opens path place)
    (plain : ∀ name ∈ names, Path.IsPlainName name) (fits : ∀ name ∈ names, Fits path name) :
    tree.firstFile (names.map path.child) =
      .ok ((names.find? fun name => decide (name ∈ tree.fileNames place)).map path.child) := by
  induction names with
  | nil => rfl
  | cons name rest ih =>
    obtain ⟨plainHead, plainRest⟩ := List.forall_mem_cons.mp plain
    obtain ⟨fitsHead, fitsRest⟩ := List.forall_mem_cons.mp fits
    have later := ih plainRest fitsRest
    have test := childIsFile opens plainHead
    rw [if_pos fitsHead] at test
    by_cases listed : name ∈ tree.fileNames place
    · simp [firstFile, test, listed, bind, Except.bind]
    · simp [firstFile, test, listed, bind, Except.bind, later]

theorem firstFound {paths : List Path} {path : Path} (ok : tree.firstFile paths = .ok (some path)) :
    path ∈ paths ∧ tree.isFile path = .ok true := by
  induction paths with
  | nil => simp [firstFile] at ok
  | cons first rest ih =>
    simp only [firstFile, bind, Except.bind] at ok
    cases test : tree.isFile first with
    | error fault => simp [test] at ok
    | ok found =>
      cases found with
      | true =>
        obtain rfl : first = path := by simpa [test] using ok
        exact ⟨List.mem_cons_self, test⟩
      | false =>
        obtain ⟨mem, isFile⟩ := ih (by simpa [test] using ok)
        exact ⟨List.mem_cons_of_mem _ mem, isFile⟩

theorem isFileFault {path : Path} {fault : FileFault} (failed : tree.isFile path = .error fault) :
    fault = .nameTooLong := by
  unfold isFile test at failed
  split at failed
  · simp at failed
  · exact (Except.error.inj failed).symm
  · simp at failed

theorem firstFault {paths : List Path} {fault : FileFault}
    (failed : tree.firstFile paths = .error fault) : fault = .nameTooLong := by
  induction paths with
  | nil => simp [firstFile] at failed
  | cons path rest ih =>
    simp only [firstFile, bind, Except.bind] at failed
    cases tested : tree.isFile path with
    | error other =>
      obtain rfl : other = fault := by simpa [tested] using failed
      exact isFileFault tested
    | ok found =>
      cases found with
      | true => simp [tested] at failed
      | false => exact ih (by simpa [tested] using failed)

theorem fileStands {path : Path} (found : tree.isFile path = .ok true) :
    ∃ content, tree.stat path = .ok (.file content) := by
  unfold isFile test at found
  cases standing : tree.stat path with
  | error fault => cases fault <;> simp [standing] at found
  | ok entry =>
    cases entry with
    | directory => simp [standing] at found
    | file content => exact ⟨content, rfl⟩

theorem opensDirectory {path : Path} {place : List String} (opens : tree.Opens path place) :
    tree.isDirectory path = .ok true := by
  simp [isDirectory, test, stat, opens.found, opens.directory]

theorem directoryOpens {path : Path} (isDirectory : tree.isDirectory path = .ok true) :
    ∃ place, tree.Opens path place := by
  unfold FileTree.isDirectory test stat at isDirectory
  cases found : tree.locate path with
  | error fault => cases fault <;> simp [found] at isDirectory
  | ok place =>
    cases entry : tree.entryAt? place with
    | none => simp [found, entry] at isDirectory
    | some standing =>
      refine ⟨place, found, ?_⟩
      simpa [found, entry] using isDirectory

/-- A tree that holds nothing but one file, in the directory that relative paths are read from. -/
def single (name : String) (content : ByteArray) : FileTree where
  base := []
  entries := .ofList [([name], .file content)]

end FileTree

end Phrasebook

import Phrasebook.Generation
import Phrasebook.Proofs.FileNames

/-! Directories made and files written. Making directories only adds to a tree, so that a path that led
somewhere still leads there; writing a file changes one place. -/
namespace Phrasebook.FileTree

/-- The directories of one tree are directories of another. -/
structure Extends (a b : FileTree) : Prop where
  base : b.base = a.base
  directory : ∀ place, a.entryAt? place = some .directory → b.entryAt? place = some .directory

def placed (tree : FileTree) (place : List String) (entry : Entry) : FileTree :=
  { tree with entries := tree.entries.insert place entry }

section

variable {tree made left : FileTree} {path : Path} {place : List String}

theorem placedEntry (tree : FileTree) (filled : place ≠ []) (entry : Entry) (other : List String) :
    (tree.placed place entry).entryAt? other =
      if place = other then some entry else tree.entryAt? other := by
  unfold entryAt?
  split
  · rename_i top
    obtain rfl := List.isEmpty_iff.mp top
    rw [if_neg filled]
  · exact OrderedMap.insertGet tree.entries place other entry

theorem missingFilled (other : tree.entryAt? place ≠ some .directory) : place ≠ [] := by
  rintro rfl
  exact other rfl

theorem placedExtends (other : tree.entryAt? place ≠ some .directory) (entry : Entry) :
    Extends tree (tree.placed place entry) := by
  refine ⟨rfl, fun there directory => ?_⟩
  rw [tree.placedEntry (missingFilled other), if_neg]
  · exact directory
  · rintro rfl
    exact other directory

theorem walkExtends {a b : FileTree} (ext : Extends a b) {here segments : List String}
    (walked : a.walk here segments = .ok place) : b.walk here segments = .ok place := by
  induction segments generalizing here with
  | nil => exact walked
  | cons segment rest ih =>
    simp only [walk] at walked ⊢
    split at walked
    · cases walked
    · cases walked
    · rename_i directory
      simp only [ext.directory here directory]
      split at walked
      · rename_i up
        rw [if_pos up]
        exact ih walked
      · rename_i down
        rw [if_neg down]
        split at walked
        · cases walked
        · rename_i fits
          rw [if_neg fits]
          exact ih walked

theorem locatedExtends {a b : FileTree} (ext : Extends a b) (found : a.locate path = .ok place) :
    b.locate path = .ok place := by
  obtain ⟨clean, short, walked⟩ := located.mp found
  refine located.mpr ⟨clean, short, ?_⟩
  rw [ext.base]
  exact walkExtends ext walked

theorem opensExtends {a b : FileTree} (ext : Extends a b) (opens : a.Opens path place) :
    b.Opens path place :=
  ⟨locatedExtends ext opens.found, ext.directory place opens.directory⟩

/-! ### Directories -/

/-- A directory that was missing and stands now at a place that an opening of the path leads to. -/
structure MadeOn (tree made : FileTree) (path : Path) (place : List String) : Prop where
  missing : tree.entryAt? place = none
  directory : made.entryAt? place = some .directory
  leads : ∃ segments, segments <+: path.segments ∧ made.locate ⟨path.root, segments⟩ = .ok place

theorem MadeOn.kept {mid : FileTree} (fresh : MadeOn tree mid path place) (ext : Extends mid made) :
    MadeOn tree made path place := by
  obtain ⟨segments, opening, found⟩ := fresh.leads
  exact ⟨fresh.missing, ext.directory place fresh.directory, segments, opening,
    locatedExtends ext found⟩

/-- Directories are made on the way along a path, and nothing else happens. -/
structure Made (tree made : FileTree) (path : Path) : Prop where
  base : made.base = tree.base
  entries : ∀ place, made.entryAt? place = tree.entryAt? place ∨ MadeOn tree made path place
  listed : ∀ place, made.fileNames place = tree.fileNames place

theorem Made.refl (tree : FileTree) (path : Path) : Made tree tree path :=
  ⟨rfl, fun _ => .inl rfl, fun _ => rfl⟩

theorem Made.extends (grown : Made tree made path) : Extends tree made := by
  refine ⟨grown.base, fun place directory => ?_⟩
  rcases grown.entries place with same | fresh
  · exact same.trans directory
  · cases fresh.missing.symm.trans directory

theorem Made.trans {root : Root} {before segments : List String} {mid : FileTree}
    (first : Made tree mid ⟨root, before⟩) (later : Made mid made ⟨root, segments⟩)
    (opening : before <+: segments) : Made tree made ⟨root, segments⟩ := by
  refine ⟨later.base.trans first.base, fun place => ?_, fun place => (later.listed place).trans
    (first.listed place)⟩
  rcases first.entries place with same | fresh
  · rcases later.entries place with kept | ⟨missing, directory, leads⟩
    · exact .inl (kept.trans same)
    · exact .inr ⟨same ▸ missing, directory, leads⟩
  · obtain ⟨missing, directory, taken, within, found⟩ := fresh.kept later.extends
    exact .inr ⟨missing, directory, taken, within.trans opening, found⟩

theorem directoryUnlisted (missing : tree.entryAt? place = none) (other : List String) :
    (tree.placed place .directory).fileNames other = tree.fileNames other := by
  have filled : place ≠ [] := @missingFilled tree place (by simp [missing])
  have fresh : place ∉ tree.entries.entries.map Prod.fst := by
    simp only [entryAt?, List.isEmpty_iff, filled, if_false] at missing
    exact OrderedMap.getNone.mp missing
  have entries : (tree.placed place .directory).entries.entries =
      tree.entries.entries ++ [(place, .directory)] := OrderedMap.putEntryFresh fresh
  simp [fileNames, entries, List.filterMap_append]

theorem directoryMade (ok : tree.makeDirectory path = .ok made) : Made tree made path := by
  unfold makeDirectory at ok
  split at ok
  · cases ok
  · rename_i place found
    split at ok
    · cases ok
      exact .refl tree path
    · cases ok
    · rename_i missing
      cases ok
      have other : tree.entryAt? place ≠ some .directory := by simp [missing]
      have entry := tree.placedEntry (missingFilled other) .directory
      have ext := placedExtends other .directory
      refine ⟨rfl, fun there => ?_, directoryUnlisted missing⟩
      by_cases same : place = there
      · subst same
        exact .inr ⟨missing, (entry place).trans (if_pos rfl), path.segments, List.prefix_refl _,
          locatedExtends ext found⟩
      · exact .inl ((entry there).trans (if_neg same))

theorem directoriesMade {root : Root} {segments : List String}
    (ok : tree.makeDirectoriesTo root segments = (made, none)) :
    Made tree made ⟨root, segments.reverse⟩ := by
  induction segments generalizing made with
  | nil =>
    cases ok
    exact .refl tree _
  | cons last before ih =>
    simp only [makeDirectoriesTo] at ok
    split at ok
    · rename_i direct
      cases ok
      exact directoryMade direct
    · split at ok
      · cases ok
      · rename_i mid above
        split at ok
        · rename_i direct
          cases ok
          -- The way up was missing, so it was made first, and each of its places opens this path.
          refine (ih above).trans (directoryMade direct) ?_
          rw [List.reverse_cons]
          exact List.prefix_append _ _
        · cases ok
    · cases ok

/-! ### Files -/

/-- A file is written at a place that a path leads to, and directories before it are made. -/
structure Written (tree left : FileTree) (path : Path) (place : List String) (content : ByteArray) :
    Prop where
  base : left.base = tree.base
  found : left.locate path = .ok place
  stands : left.entryAt? place = some (.file content)
  before : tree.entryAt? place ≠ some .directory
  entries : ∀ other, other ≠ place → left.entryAt? other = tree.entryAt? other ∨
    MadeOn tree left path.parent other
  listed : ∀ other, (left.fileNames other).filter (fun name => other ++ [name] ≠ place) =
    (tree.fileNames other).filter fun name => other ++ [name] ≠ place

theorem Written.extends {content : ByteArray} (written : Written tree left path place content) :
    Extends tree left := by
  refine ⟨written.base, fun other directory => ?_⟩
  have apart : other ≠ place := by
    rintro rfl
    exact written.before directory
  rcases written.entries other apart with same | fresh
  · exact same.trans directory
  · cases fresh.missing.symm.trans directory

theorem fileListedElsewhere (entry : Entry) (other : List String) :
    ((tree.placed place entry).fileNames other).filter (fun name => other ++ [name] ≠ place) =
      (tree.fileNames other).filter fun name => other ++ [name] ≠ place := by
  simp only [fileNames, List.filter_filterMap]
  refine OrderedMap.putEntryFilterMap fun standing => ?_
  cases standing with
  | directory => rfl
  | file content =>
    simp only
    split
    · rename_i same
      simp only [Option.filter_eq_none_iff]
      intro name last
      subst same
      simp [List.dropLast_append_getLast? name last]
    · rfl

theorem fileWritten {content : ByteArray} (ok : tree.write path content = .ok left) :
    ∃ place, tree.locate path = .ok place ∧ tree.entryAt? place ≠ some .directory ∧
      left = tree.placed place (.file content) := by
  unfold write at ok
  split at ok
  · cases ok
  · rename_i place found
    split at ok
    · cases ok
    · rename_i other
      cases ok
      exact ⟨place, found, other, rfl⟩
    · cases ok

theorem textWritten {text : String} (ok : Target.writeText tree path text = (left, none)) :
    ∃ place, Written tree left path place text.toUTF8 := by
  unfold Target.writeText at ok
  split at ok
  · cases ok
  · rename_i made above
    have grown : Made tree made path.parent := by
      have all := directoriesMade above
      rwa [List.reverse_reverse] at all
    split at ok
    · rename_i written
      cases ok
      obtain ⟨place, found, other, rfl⟩ := fileWritten written
      have entry := made.placedEntry (missingFilled other) (.file text.toUTF8)
      have ext := placedExtends other (.file text.toUTF8)
      refine ⟨place, grown.base, locatedExtends ext found, (entry place).trans (if_pos rfl),
        fun directory => other (grown.extends.directory place directory), fun there apart => ?_,
        fun there => ?_⟩
      · rw [entry, if_neg (Ne.symm apart)]
        exact (grown.entries there).imp_right fun fresh => fresh.kept ext
      · rw [fileListedElsewhere, grown.listed]
    · cases ok

end

end Phrasebook.FileTree

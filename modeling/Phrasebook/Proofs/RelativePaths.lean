import Phrasebook.Generation
import Phrasebook.Proofs.Pieces

/-! Relative paths replayed. Resolving a path follows its segments one after the other, and the relative
path between two directories leads from the one to the other, also when it was written out and read
again. -/
namespace Phrasebook

open Text

namespace Path

structure IsSegment (segment : String) : Prop where
  filled : segment ≠ ""
  noDot : segment ≠ "."
  noSlash : '/' ∉ segment.toList

instance (segment : String) : Decidable (IsSegment segment) :=
  decidable_of_iff (segment ≠ "" ∧ segment ≠ "." ∧ '/' ∉ segment.toList)
    ⟨fun ⟨filled, noDot, noSlash⟩ => ⟨filled, noDot, noSlash⟩,
      fun isOne => ⟨isOne.filled, isOne.noDot, isOne.noSlash⟩⟩

-- What reading gives a path, and joining keeps.
def IsFormed (path : Path) : Prop := ∀ segment ∈ path.segments, IsSegment segment

instance (path : Path) : Decidable path.IsFormed := by
  unfold IsFormed
  infer_instance

theorem segmentsFormed (text : List Char) : ∀ segment ∈ segmentsOf text, IsSegment segment := by
  intro segment mem
  obtain ⟨part, kept, rfl⟩ := List.mem_map.mp mem
  obtain ⟨field, noDot⟩ := List.mem_filter.mp kept
  obtain ⟨piece, filled⟩ := fieldMember.mp field
  refine ⟨fun empty => filled ?_, fun dot => ?_, fun slash => ?_⟩
  · exact String.ofList_inj.mp empty
  · exact absurd (String.ofList_inj.mp dot) (by simpa using noDot)
  · rw [String.toList_ofList] at slash
    exact absurd (piecesClean piece _ slash) (by decide)

theorem readFormed (text : String) : (ofString text).IsFormed := segmentsFormed text.toList

theorem joinFormed {directory path : Path} (outer : directory.IsFormed) (inner : path.IsFormed) :
    (directory.join path).IsFormed := by
  unfold join
  split
  · exact inner
  · exact List.forall_mem_append.mpr ⟨outer, inner⟩

/-- Where the segments lead from a place, one after the other. -/
def follow (place : List String) : List String → List String
  | [] => place
  | segment :: rest =>
    if segment = ".." then follow place.dropLast rest else follow (place ++ [segment]) rest

theorem followAppend (place before after : List String) :
    follow place (before ++ after) = follow (follow place before) after := by
  induction before generalizing place with
  | nil => rfl
  | cons segment rest ih =>
    simp only [List.cons_append, follow]
    split
    · exact ih _
    · exact ih _

theorem followDown {place segments : List String} (down : ∀ segment ∈ segments, segment ≠ "..") :
    follow place segments = place ++ segments := by
  induction segments generalizing place with
  | nil => simp [follow]
  | cons segment rest ih =>
    obtain ⟨head, later⟩ := List.forall_mem_cons.mp down
    rw [follow, if_neg head, ih later, List.append_assoc, List.singleton_append]

theorem followUp (place : List String) (count : Nat) :
    follow place (List.replicate count "..") = place.take (place.length - count) := by
  induction count generalizing place with
  | zero => simp [follow]
  | succ count ih =>
    rw [List.replicate_succ, follow, if_pos rfl, ih, List.length_dropLast, List.dropLast_eq_take,
      List.take_take]
    congr 1
    omega

theorem settleFollow (done segments : List String) :
    settle done segments = follow done.reverse segments := by
  induction segments generalizing done with
  | nil => rfl
  | cons segment rest ih =>
    simp only [settle, follow]
    split
    · rw [ih, List.dropLast_reverse]
    · rw [ih, List.reverse_cons]

theorem settleMember {done segments : List String} {segment : String}
    (mem : segment ∈ settle done segments) :
    segment ∈ done ∨ segment ∈ segments ∧ segment ≠ ".." := by
  induction segments generalizing done with
  | nil => exact .inl (List.mem_reverse.mp mem)
  | cons first rest ih =>
    rw [settle] at mem
    split at mem
    · exact (ih mem).imp List.mem_of_mem_tail fun ⟨later, down⟩ => ⟨List.mem_cons_of_mem _ later, down⟩
    · rename_i down
      cases ih mem with
      | inl held =>
        cases List.mem_cons.mp held with
        | inl same => exact .inr ⟨same ▸ List.mem_cons_self, same ▸ down⟩
        | inr before => exact .inl before
      | inr later => exact .inr ⟨List.mem_cons_of_mem _ later.1, later.2⟩

theorem resolveMember {base : List String} {path : Path} (placed : ∀ segment ∈ base, IsSegment segment)
    (formed : path.IsFormed) :
    ∀ segment ∈ path.resolve base, IsSegment segment ∧ segment ≠ ".." := by
  intro segment mem
  obtain held | ⟨held, down⟩ := settleMember mem
  · contradiction
  refine ⟨?_, down⟩
  split at held
  · exact formed segment held
  · exact List.forall_mem_append.mpr ⟨placed, formed⟩ segment held

/-! ### Between two directories -/

theorem sharedTake (start target : List String) :
    start.take (sharedLength start target) = target.take (sharedLength start target) := by
  induction start generalizing target with
  | nil => simp [sharedLength]
  | cons first rest ih =>
    cases target with
    | nil => simp [sharedLength]
    | cons other more =>
      rw [sharedLength]
      split
      · rename_i same
        rw [List.take_succ_cons, List.take_succ_cons, same, ih]
      · rfl

theorem sharedBound (start target : List String) : sharedLength start target ≤ start.length := by
  induction start generalizing target with
  | nil => simp [sharedLength]
  | cons first rest ih =>
    cases target with
    | nil => simp [sharedLength]
    | cons other more =>
      have later := ih more
      rw [sharedLength, List.length_cons]
      split <;> omega

theorem betweenFollowed {start target : List String} (down : ∀ segment ∈ target, segment ≠ "..") :
    follow start (between start target).segments = target := by
  have bound := sharedBound start target
  have kept : start.length - (start.length - sharedLength start target) = sharedLength start target := by
    omega
  rw [between, followAppend, followUp, kept, sharedTake,
    followDown fun segment mem => down segment (List.mem_of_mem_drop mem), List.take_append_drop]

theorem betweenSegments {start target : List String} {segment : String}
    (mem : segment ∈ (between start target).segments) : segment = ".." ∨ segment ∈ target :=
  (List.mem_append.mp mem).imp List.eq_of_mem_replicate List.mem_of_mem_drop

/-! ### Written and read again -/

theorem segmentsText (root : Root) (first : String) (rest : List String) :
    (text ⟨root, first :: rest⟩).toList =
      root.text.toList ++ joined ['/'] ((first :: rest).map String.toList) := by
  rw [text, if_neg (by simp), String.toList_append, joinedText]
  rfl

theorem relativeChars {segments : List String} {c : Char}
    (mem : c ∈ (text ⟨.relative, segments⟩).toList) :
    c = '.' ∨ c = '/' ∨ ∃ segment ∈ segments, c ∈ segment.toList := by
  cases segments with
  | nil => exact .inl (List.mem_singleton.mp mem)
  | cons first rest =>
    refine .inr ?_
    rw [segmentsText] at mem
    obtain same | ⟨part, listed, inside⟩ := joinedMember mem
    · exact .inl same
    · obtain ⟨segment, held, rfl⟩ := List.mem_map.mp listed
      exact .inr ⟨segment, held, inside⟩

section

variable {segments : List String}

theorem segmentsRead (formed : ∀ segment ∈ segments, IsSegment segment) :
    segmentsOf (joined ['/'] (segments.map String.toList)) = segments := by
  have cut : fieldsAt (· = '/') (joined ['/'] (segments.map String.toList)) =
      segments.map String.toList := by
    refine fieldsJoined (by decide) ?_ ?_
    · intro part mem
      obtain ⟨segment, held, rfl⟩ := List.mem_map.mp mem
      simpa using (formed segment held).filled
    · intro part mem c inside
      obtain ⟨segment, held, rfl⟩ := List.mem_map.mp mem
      simpa using fun same : c = '/' => (formed segment held).noSlash (same ▸ inside)
  have kept : (segments.map String.toList).filter (· ≠ ['.']) = segments.map String.toList := by
    refine List.filter_eq_self.mpr fun part mem => ?_
    obtain ⟨segment, held, rfl⟩ := List.mem_map.mp mem
    simpa using fun same : segment.toList = ['.'] =>
      (formed segment held).noDot (String.toList_inj.mp same)
  rw [segmentsOf, cut, kept]
  simp [List.map_map, Function.comp_def]

theorem slashesDropped (root : Root) (cs : List Char) :
    segmentsOf (root.text.toList ++ cs) = segmentsOf cs := by
  cases root <;> simp [Root.text, segmentsOf, fieldsAt, piecesAt]

theorem slashesCounted (root : Root) {first : String} (isOne : IsSegment first) (rest : List String) :
    (root.text.toList ++ joined ['/'] ((first :: rest).map String.toList)).takeWhile (· = '/') =
      root.text.toList := by
  obtain ⟨filled, -, noSlash⟩ := isOne
  cases spelled : first.toList with
  | nil => exact absurd (String.toList_inj.mp spelled) filled
  | cons c more =>
    have other : c ≠ '/' := fun same => noSlash (by simp [spelled, same])
    cases root <;> cases rest <;> simp [Root.text, joined, spelled, other]

/-- The text of a path is read as that path. -/
theorem textRead {path : Path} (formed : path.IsFormed) : ofString path.text = path := by
  obtain ⟨root, segments⟩ := path
  cases segments with
  | nil => cases root <;> decide
  | cons first rest =>
    have slashes := slashesCounted root (formed first List.mem_cons_self) rest
    have read := segmentsRead formed
    simp only [ofString, segmentsText, slashes, slashesDropped, read]
    cases root <;> rfl

end

end Path

namespace Target

open Accessor Phrasebook.Path

theorem pathPartsRead {segments : List String} (formed : ∀ segment ∈ segments, IsSegment segment)
    (forward : ∀ segment ∈ segments, '\\' ∉ segment.toList) :
    pathParts (Path.text ⟨.relative, segments⟩) = segments := by
  have kept : (Path.text ⟨.relative, segments⟩).toList.map (fun c => if c = '\\' then '/' else c) =
      (Path.text ⟨.relative, segments⟩).toList := by
    refine (List.map_congr_left fun c mem => if_neg ?_).trans (List.map_id _)
    rintro rfl
    obtain dot | slash | ⟨segment, held, inside⟩ := relativeChars mem
    · exact absurd dot (by decide)
    · exact absurd slash (by decide)
    · exact forward segment held inside
  simp only [pathParts, kept, String.ofList_toList, @textRead ⟨.relative, segments⟩ formed]
  simp [isAbsolute]

/-- The generated module loads its catalogs from where they were read: from its own directory, the parts of
the relative path that is written into it lead to the source directory. -/
theorem sourcesRefound (tree : FileTree) (t : Target) (source start : List String)
    (placed : ∀ segment ∈ tree.base, IsSegment segment) (formed : t.sourceDir.IsFormed)
    (bare : t.catalogDir.isGiven = false) (resolved : tree.resolve t.sourceDir = .ok source)
    (located : tree.resolve t.output.parent = .ok start)
    (forward : ∀ segment ∈ source, '\\' ∉ segment.toList) :
    ∃ directory, t.runtimeDirectory tree = .ok (directory, true) ∧
      follow start (pathParts directory.text) = source := by
  have inside : ∀ segment ∈ source, IsSegment segment ∧ segment ≠ ".." := by
    unfold FileTree.resolve at resolved
    split at resolved
    · cases resolved
    · cases resolved
      exact resolveMember placed formed
  refine ⟨between start source, ?_, ?_⟩
  · have answers {path : Path} {place : List String} (ok : tree.resolve path = .ok place) :
        placeOf tree path = .ok place := by
      rw [placeOf, ok]
      rfl
    simp only [runtimeDirectory, bare, answers resolved, answers located, Bool.false_eq_true, if_false]
    rfl
  · have parts : pathParts (between start source).text = (between start source).segments := by
      refine pathPartsRead ?_ ?_
      · intro segment mem
        obtain rfl | held := betweenSegments mem
        · exact ⟨by decide, by decide, by decide⟩
        · exact (inside segment held).1
      · intro segment mem
        obtain rfl | held := betweenSegments mem
        · decide
        · exact forward segment held
    rw [parts, betweenFollowed fun segment mem => (inside segment mem).2]

def nestedTarget : Target where
  bundle := "messages"
  sourceDir := (Path.ofString "app").join (Path.ofString "../shared/i18n")
  output := ⟨.relative, ["shared", "code", "messages.py"]⟩

def nestedTree : FileTree := { base := ["home"], entries := .empty }

theorem nestedRefound :
    (∀ segment ∈ nestedTree.base, IsSegment segment) ∧ nestedTarget.sourceDir.IsFormed ∧
    nestedTarget.catalogDir.isGiven = false ∧
    nestedTree.resolve nestedTarget.sourceDir = .ok ["home", "shared", "i18n"] ∧
    nestedTree.resolve nestedTarget.output.parent = .ok ["home", "shared", "code"] ∧
    ∃ directory, nestedTarget.runtimeDirectory nestedTree = .ok (directory, true) ∧
      follow ["home", "shared", "code"] (pathParts directory.text) = ["home", "shared", "i18n"] := by
  have formed : nestedTarget.sourceDir.IsFormed := joinFormed (readFormed "app") (readFormed "../shared/i18n")
  have resolved : nestedTree.resolve nestedTarget.sourceDir = .ok ["home", "shared", "i18n"] := rfl
  exact ⟨by decide, formed, by decide, resolved, rfl,
    sourcesRefound nestedTree nestedTarget ["home", "shared", "i18n"] ["home", "shared", "code"]
      (by decide) formed (by decide) resolved rfl (by decide)⟩

end Target

end Phrasebook

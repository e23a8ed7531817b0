import Phrasebook.Proofs.PropertiesText

/-! Logical lines of catalogs in properties form. A text that leaves no line under way composes with any
other, and a line may be continued wherever no escape is cut; but every line boundary ends a line, not
only the line feed and the carriage return. -/
namespace Phrasebook.Properties

open Text

/-! ### Backslashes at the end -/

theorem endingDropped {p : Char → Bool} (keeps : p '\\' = false) (line : List Char) :
    endingBackslashes (line.dropWhile p) = endingBackslashes line := by
  induction line with
  | nil => rfl
  | cons c rest ih =>
    cases dropped : p c with
    | false => rw [List.dropWhile_cons_of_neg (by simp [dropped])]
    | true =>
      have other : c ≠ '\\' := fun same => absurd (same ▸ dropped) (by simp [keeps])
      have single : endingBackslashes [c] = 0 := endingOther [] other
      have whole := endingJoin [c] rest
      rw [List.dropWhile_cons_of_pos dropped, ih]
      simp only [List.singleton_append, single] at whole
      omega

theorem endingStripped (line : List Char) :
    endingBackslashes (line.dropWhile isBlank) = endingBackslashes line :=
  endingDropped (by decide) line

theorem goesOnStripped (line : List Char) : goesOn (line.dropWhile isBlank) = goesOn line := by
  rw [goesOn, goesOn, endingStripped]

theorem parityAfter {front : List Char} (even : endingBackslashes front % 2 = 0) (line : List Char) :
    endingBackslashes (front ++ line) % 2 = endingBackslashes line % 2 := by
  have whole := endingJoin front line
  omega

theorem goesOnAfter {front : List Char} (even : endingBackslashes front % 2 = 0) (line : List Char) :
    goesOn (front ++ line) = goesOn line := by
  rw [goesOn, goesOn, parityAfter even]

theorem endsWhole {line : List Char} (last : line.getLast? ≠ some '\\') : goesOn line = false := by
  rcases List.eq_nil_or_concat line with rfl | ⟨front, c, rfl⟩
  · rfl
  · have other : c ≠ '\\' := by simpa using last
    simp [goesOn, endingOther front other]

/-! ### Texts after each other -/

theorem joinedAppend {pending : Option (List Char)} {front more : List (List Char)} {last : List Char}
    (ends : goesOn last = false) :
    joinContinued pending (front ++ last :: more) =
      joinContinued pending (front ++ [last]) ++ joinContinued none more := by
  induction front generalizing pending with
  | nil =>
    have whole := (goesOnStripped last).trans ends
    cases pending with
    | none =>
      simp only [List.nil_append, joinContinued, whole]
      split <;> rfl
    | some start => simp [joinContinued, whole]
  | cons raw front ih =>
    simp only [List.cons_append, joinContinued]
    cases pending with
    | none =>
      dsimp only
      split
      · exact ih
      · split
        · exact ih
        · rw [ih, List.cons_append]
    | some start =>
      dsimp only
      split
      · exact ih
      · rw [ih, List.cons_append]

/-- A text that leaves no line under way: it is empty, or it ends in a line feed and its last line in no
backslash. -/
def IsClosed (text : List Char) : Prop :=
  text = [] ∨ (∃ front, text = front ++ ['\n']) ∧
    ∀ line, (lines text).getLast? = some line → line.getLast? ≠ some '\\'

theorem logicalAppend {text : List Char} (closed : IsClosed text) (more : List Char) :
    logicalLines (text ++ more) = logicalLines text ++ logicalLines more := by
  rcases closed with rfl | ⟨⟨front, rfl⟩, whole⟩
  · rfl
  · obtain empty | ⟨earlier, last, spelled⟩ := List.eq_nil_or_concat (lines (front ++ ['\n']))
    · exact absurd empty (linesFilled (by simp))
    · rw [List.concat_eq_append] at spelled
      have ends : goesOn last = false := endsWhole (whole last (by simp [spelled]))
      have cut : lines (front ++ ['\n'] ++ more) = earlier ++ last :: lines more := by
        rw [List.append_assoc, List.singleton_append, linesAppend, spelled, List.append_assoc,
          List.singleton_append]
      rw [logicalLines, cut, joinedAppend ends, ← spelled]
      rfl

/-- Two texts one after the other give the entries of the first with those of the second over them. -/
theorem textsCompose (a b : String) (closed : IsClosed a.toList) :
    parse (a ++ b) = (parse a).overlay (parse b) := by
  simp only [parse, parseChars, String.toList_append, logicalAppend closed, List.map_append,
    OrderedMap.ofListAppend]

theorem repeatedKeyComposes :
    IsClosed "a = 1\nb = 2\\\n  3\n# end\\\\x\n".toList ∧
      parse ("a = 1\nb = 2\\\n  3\n# end\\\\x\n" ++ "c=4\na=5\\") =
        (parse "a = 1\nb = 2\\\n  3\n# end\\\\x\n").overlay (parse "c=4\na=5\\") ∧
      parse ("a = 1\nb = 2\\\n  3\n# end\\\\x\n" ++ "c=4\na=5\\") =
        .ofList [("a", "5"), ("b", "23"), ("c", "4")] := by
  have closed : IsClosed "a = 1\nb = 2\\\n  3\n# end\\\\x\n".toList :=
    .inr ⟨⟨"a = 1\nb = 2\\\n  3\n# end\\\\x".toList, by decide⟩, by decide⟩
  exact ⟨closed, textsCompose _ _ closed, by decide⟩

/-! ### Continued lines -/

theorem emptyLast (pending : Option (List Char)) (front : List (List Char)) :
    joinContinued pending (front ++ [[]]) = joinContinued pending front := by
  induction front generalizing pending with
  | nil =>
    cases pending with
    | none => rfl
    | some start => exact congrArg (· :: []) (List.append_nil start)
  | cons raw front ih => simp only [List.cons_append, joinContinued, ih]

/-- A line in two parts between which it may be continued: the first holds more than blanks, opens no
comment and cuts no escape, the second opens with no blank. -/
structure IsCut (front tail : List Char) : Prop where
  unbroken : ∀ c ∈ front ++ tail, isLineBreak c = false
  opens : front.dropWhile isBlank ≠ []
  noComment : isComment (front.dropWhile isBlank) = false
  even : endingBackslashes front % 2 = 0
  tight : tail.head?.any isBlank = false

instance (front tail : List Char) : Decidable (IsCut front tail) :=
  decidable_of_iff
    ((front ++ tail).any isLineBreak = false ∧ front.dropWhile isBlank ≠ [] ∧
      isComment (front.dropWhile isBlank) = false ∧ endingBackslashes front % 2 = 0 ∧
      tail.head?.any isBlank = false)
    ⟨fun ⟨unbroken, opens, noComment, even, tight⟩ =>
        ⟨by simpa only [List.any_eq_false, Bool.not_eq_true] using unbroken, opens, noComment, even, tight⟩,
      fun cut => ⟨by simpa only [List.any_eq_false, Bool.not_eq_true] using cut.unbroken, cut.opens,
        cut.noComment, cut.even, cut.tight⟩⟩

section

variable {front tail : List Char}

theorem IsCut.stripped (cut : IsCut front tail) : tail.dropWhile isBlank = tail := by
  cases tail with
  | nil => rfl
  | cons c rest =>
    have filled : isBlank c = false := cut.tight
    rw [List.dropWhile_cons_of_neg (by simp [filled])]

theorem IsCut.joins (cut : IsCut front tail) (line : List Char) (rest : List (List Char)) :
    joinContinued none ((front ++ line) :: rest) =
      if goesOn line then joinContinued (some (front.dropWhile isBlank ++ line).dropLast) rest
      else (front.dropWhile isBlank ++ line) :: joinContinued none rest := by
  have even : endingBackslashes (front.dropWhile isBlank) % 2 = 0 := by rw [endingStripped, cut.even]
  obtain ⟨first, others, start⟩ := List.exists_cons_of_ne_nil cut.opens
  have stripped : (front ++ line).dropWhile isBlank = front.dropWhile isBlank ++ line := by
    rw [List.dropWhile_append, start]
    rfl
  have noComment : isComment (front.dropWhile isBlank ++ line) = false := by
    have opening := cut.noComment
    rwa [start] at opening ⊢
  rw [joinedOpen stripped (by simp [start]) noComment, goesOnAfter even]

theorem IsCut.continues (cut : IsCut front tail) {padding : List Char}
    (blank : ∀ c ∈ padding, isBlank c = true) (rest : List (List Char)) :
    joinContinued none ((front ++ ['\\']) :: (padding ++ tail) :: rest) =
      joinContinued none ((front ++ tail) :: rest) := by
  have stripped : (padding ++ tail).dropWhile isBlank = tail := by
    rw [List.dropWhile_append_of_pos blank, cut.stripped]
  rw [cut.joins, cut.joins, if_pos (by decide), List.dropLast_concat, joinContinued, stripped]
  cases on : goesOn tail with
  | false => rfl
  | true =>
    have filled : tail ≠ [] := fun same => absurd on (same ▸ by decide)
    rw [List.dropLast_append_of_ne_nil filled]

theorem IsCut.lines (cut : IsCut front tail) {padding : List Char}
    (blank : ∀ c ∈ padding, c = ' ' ∨ c = '\t') :
    logicalLines (front ++ '\\' :: '\n' :: (padding ++ tail)) = logicalLines (front ++ tail) := by
  obtain ⟨before, after⟩ := List.forall_mem_append.mp cut.unbroken
  have filled : front ≠ [] := fun same => cut.opens (by rw [same]; rfl)
  have first : ∀ c ∈ front ++ ['\\'], isLineBreak c = false :=
    List.forall_mem_append.mpr ⟨before, List.forall_mem_singleton.mpr (by decide)⟩
  have second : ∀ c ∈ padding ++ tail, isLineBreak c = false := by
    refine List.forall_mem_append.mpr ⟨fun c mem => ?_, after⟩
    rcases blank c mem with rfl | rfl <;> decide
  have continued : joinContinued none ([front ++ ['\\']] ++ [padding ++ tail]) =
      joinContinued none [front ++ tail] := by
    refine cut.continues (fun c mem => ?_) []
    rcases blank c mem with rfl | rfl <;> decide
  rw [logicalLines, logicalLines, List.append_cons, linesFirst first, linesWhole (by simp [filled]) cut.unbroken,
    ← continued]
  by_cases none : padding ++ tail = []
  · rw [none, emptyLast]
    rfl
  · rw [linesWhole none second]
    rfl

end

/-- A line may be continued, with blanks before what follows, wherever no escape is cut. -/
theorem continuationUnseen (u w v : String) (cut : IsCut u.toList v.toList)
    (padding : ∀ c ∈ w.toList, c = ' ' ∨ c = '\t') :
    parse (u ++ "\\\n" ++ w ++ v) = parse (u ++ v) := by
  have spelled : (u ++ "\\\n" ++ w ++ v).toList =
      u.toList ++ '\\' :: '\n' :: (w.toList ++ v.toList) := by
    simp [String.toList_append]
  rw [parse, parse, parseChars, parseChars, spelled, String.toList_append, cut.lines padding]

theorem backslashesUnseen :
    IsCut "  a\\\\".toList "\\= b\\".toList ∧
      parse ("  a\\\\" ++ "\\\n" ++ "\t " ++ "\\= b\\") = parse ("  a\\\\" ++ "\\= b\\") ∧
      parse ("  a\\\\" ++ "\\= b\\") = .ofList [("a\\=", "b")] := by
  have cut : IsCut "  a\\\\".toList "\\= b\\".toList := by decide
  exact ⟨cut, continuationUnseen _ _ _ cut (by simp), by decide⟩

/-! ### Entries without escapes -/

theorem unescapeUnitsPlain {cs : List Char} (plain : '\\' ∉ cs) : unescapeUnits cs = cs.map Char.toNat := by
  induction cs with
  | nil => rfl
  | cons c cs ih =>
    obtain ⟨other, later⟩ := not_or.mp (mt List.mem_cons.mpr plain)
    rw [unescapePlain (Ne.symm other), ih later, List.map_cons]

theorem unescapePlainText {cs : List Char} (plain : '\\' ∉ cs) : unescape cs = cs := by
  rw [unescape, unescapeUnitsPlain plain, unitsRead]

theorem plainEnds {line : List Char} (plain : '\\' ∉ line) : goesOn line = false :=
  endsWhole fun last => plain (List.mem_of_getLast? last)

theorem logicalHolds {p : Char → Prop} {pending : Option (List Char)} {raws : List (List Char)}
    (held : ∀ c ∈ pending.getD [], p c) (each : ∀ raw ∈ raws, ∀ c ∈ raw, p c) :
    ∀ line ∈ joinContinued pending raws, ∀ c ∈ line, p c := by
  induction raws generalizing pending with
  | nil =>
    cases pending with
    | none => simp [joinContinued]
    | some start => exact List.forall_mem_singleton.mpr held
  | cons raw rest ih =>
    obtain ⟨first, later⟩ := List.forall_mem_cons.mp each
    have stripped : ∀ c ∈ raw.dropWhile isBlank, p c :=
      fun c mem => first c ((List.dropWhile_sublist _).mem mem)
    have cut : ∀ c ∈ (raw.dropWhile isBlank).dropLast, p c :=
      fun c mem => stripped c (List.dropLast_subset _ mem)
    have fresh : ∀ line ∈ joinContinued none rest, ∀ c ∈ line, p c := ih (by simp) later
    cases pending with
    | none =>
      simp only [joinContinued]
      split
      · exact fresh
      · split
        · exact ih cut later
        · exact List.forall_mem_cons.mpr ⟨stripped, fresh⟩
    | some start =>
      simp only [joinContinued]
      split
      · exact ih (List.forall_mem_append.mpr ⟨held, cut⟩) later
      · exact List.forall_mem_cons.mpr ⟨List.forall_mem_append.mpr ⟨held, stripped⟩, fresh⟩

theorem splitKeyWhole (line : List Char) : (splitKey line).1 ++ (splitKey line).2 = line := by
  induction line using splitKey.induct with
  | case1 => rfl
  | case2 c rest key after found ih => exact congrArg ('\\' :: c :: ·) ih
  | case3 c rest unpaired ends =>
    rw [splitKey.eq_3 c rest unpaired, if_pos ends]
    rfl
  | case4 c rest unpaired inside key after found ih =>
    rw [splitKey.eq_3 c rest unpaired, if_neg inside]
    exact congrArg (c :: ·) ih

theorem valueWithin (after : List Char) : ∀ c ∈ valueOf after, c ∈ after := by
  have stripped : ∀ c ∈ after.dropWhile isSeparatorBlank, c ∈ after :=
    fun c => (List.dropWhile_sublist _).mem
  unfold valueOf
  split
  · rename_i mark rest found
    rw [found] at stripped
    split
    · exact fun c mem => stripped c (List.mem_cons_of_mem mark ((List.dropWhile_sublist _).mem mem))
    · exact stripped
  · simp

theorem valuesUnbroken {text : List Char} (plain : '\\' ∉ text) :
    ∀ entry ∈ (logicalLines text).map entryOf, ∀ c ∈ entry.2.toList, isLineBreak c = false := by
  have clean : ∀ line ∈ logicalLines text, ∀ c ∈ line, c ∈ text ∧ isLineBreak c = false :=
    logicalHolds (by simp) fun raw mem => linesWithin mem
  refine List.forall_mem_map.mpr fun line mem => ?_
  have held : ∀ c ∈ valueOf (splitKey line).2, c ∈ text ∧ isLineBreak c = false := fun c inside =>
    clean line mem c (splitKeyWhole line ▸ List.mem_append_right _ (valueWithin _ c inside))
  have value : (entryOf line).2.toList = valueOf (splitKey line).2 := by
    rw [entryOf, String.toList_ofList, unescapePlainText fun slash => plain (held _ slash).1]
  rw [value]
  exact fun c inside => (held c inside).2

/-- A key and a value that hold nothing to escape but, perhaps, line boundaries. -/
structure IsPlainEntry (key value : List Char) : Prop where
  filled : key ≠ []
  letters : ∀ c ∈ key, isAsciiLetter c = true
  plain : ∀ c ∈ value, c ≠ '\\' ∧ c ≠ '\n' ∧ c ≠ '\r'
  tight : value.head?.any isSeparatorBlank = false

instance (key value : List Char) : Decidable (IsPlainEntry key value) :=
  decidable_of_iff
    (key ≠ [] ∧ key.all isAsciiLetter = true ∧
      (value.all fun c => c ≠ '\\' && c ≠ '\n' && c ≠ '\r') = true ∧
      value.head?.any isSeparatorBlank = false)
    ⟨fun ⟨filled, letters, plain, tight⟩ =>
        ⟨filled, List.all_eq_true.mp letters, by simpa [and_assoc] using plain, tight⟩,
      fun entry => ⟨entry.filled, List.all_eq_true.mpr entry.letters,
        by simpa [and_assoc] using entry.plain, entry.tight⟩⟩

section

variable {key value : List Char}

theorem IsPlainEntry.keyPlain (entry : IsPlainEntry key value) :
    ∀ c ∈ key, isGraphic c = true ∧ c ∉ marks :=
  fun c mem => alnumShown (alnumRange.mpr (.inl (entry.letters c mem)))

theorem IsPlainEntry.noSlash (entry : IsPlainEntry key value) : '\\' ∉ key ++ '=' :: value := by
  intro mem
  rcases List.mem_append.mp mem with inKey | rest
  · exact (entry.keyPlain _ inKey).2 (by decide)
  · rcases List.mem_cons.mp rest with mark | inValue
    · exact absurd mark (by decide)
    · exact (entry.plain _ inValue).1 rfl

theorem IsPlainEntry.read (entry : IsPlainEntry key value) :
    entryOf (key ++ '=' :: value) = (String.ofList key, String.ofList value) := by
  have slashFree := entry.noSlash
  simp only [List.mem_append, List.mem_cons, not_or] at slashFree
  have split : splitKey (key ++ '=' :: value) = (key, '=' :: value) := by
    rw [splitUnmarked entry.keyPlain]
    simp [splitKey, endsKey]
  have kept : valueOf ('=' :: value) = value := by
    change value.dropWhile isSeparatorBlank = value
    cases value with
    | nil => rfl
    | cons c rest =>
      have filled : isSeparatorBlank c = false := entry.tight
      rw [List.dropWhile_cons_of_neg (by simp [filled])]
  simp only [entryOf, split, kept, unescapePlainText slashFree.1, unescapePlainText slashFree.2.2]

theorem IsPlainEntry.logical (entry : IsPlainEntry key value) : IsLogical (key ++ '=' :: value) := by
  obtain ⟨first, others, rfl⟩ := List.exists_cons_of_ne_nil entry.filled
  obtain ⟨graphic, unmarked⟩ := entry.keyPlain first List.mem_cons_self
  have other : ∀ mark ∈ marks, first ≠ mark := fun mark listed same => unmarked (same ▸ listed)
  refine ⟨List.dropWhile_cons_of_neg (by simp [(graphicFilled graphic).1]), by simp, ?_,
    plainEnds entry.noSlash⟩
  simp [isComment, other '#' (by decide), other '!' (by decide)]

theorem IsPlainEntry.opening (entry : IsPlainEntry key value) {line rest : List Char}
    (spelled : value = line ++ rest) : IsPlainEntry key line := by
  subst spelled
  refine ⟨entry.filled, entry.letters, fun c mem => entry.plain c (List.mem_append_left rest mem), ?_⟩
  cases line with
  | nil => rfl
  | cons c line => exact entry.tight

theorem IsPlainEntry.unbroken (entry : IsPlainEntry key value)
    (clean : ∀ c ∈ value, isLineBreak c = false) : ∀ c ∈ key ++ '=' :: value, isLineBreak c = false := by
  refine List.forall_mem_append.mpr ⟨fun c mem => ?_, List.forall_mem_cons.mpr ⟨by decide, clean⟩⟩
  have shown := graphicRange.mp (entry.keyPlain c mem).1
  exact shownUnbroken ⟨by omega, shown.2⟩

theorem IsPlainEntry.whole (entry : IsPlainEntry key value) (clean : ∀ c ∈ value, isLineBreak c = false) :
    parseChars (key ++ '=' :: value) = .ofList [(String.ofList key, String.ofList value)] := by
  rw [parseChars, logicalLines, linesWhole (by simp) (entry.unbroken clean), entry.logical.joins, ← entry.read]
  rfl

theorem IsPlainEntry.broken (entry : IsPlainEntry key value) {line rest : List Char} {c : Char}
    (spelled : value = line ++ c :: rest) (clean : ∀ d ∈ line, isLineBreak d = false)
    (ends : isLineBreak c = true) :
    parseChars (key ++ '=' :: value) =
      (OrderedMap.ofList [(String.ofList key, String.ofList line)]).overlay (parseChars rest) := by
  have first := entry.opening spelled
  have noReturn : c ≠ '\r' := (entry.plain c (by simp [spelled])).2.2
  have text : key ++ '=' :: value = (key ++ '=' :: line) ++ c :: rest := by simp [spelled]
  rw [parseChars, logicalLines, text, linesCut (first.unbroken clean) ends fun _ back => absurd back noReturn,
    first.logical.joins, List.map_cons, first.read]
  exact OrderedMap.ofListAppend [_] _

end

/-- A line with nothing to escape is its key and its value if, and only if, no line boundary stands in the
value; the first one that does ends the value, and what follows is read as further lines. -/
theorem plainEntryRead (k v : String) (entry : IsPlainEntry k.toList v.toList) :
    (parse (k ++ "=" ++ v) = .ofList [(k, v)] ↔ ∀ c ∈ v.toList, isLineBreak c = false) ∧
      ∀ line c rest, v.toList = line ++ c :: rest → (∀ d ∈ line, isLineBreak d = false) →
        isLineBreak c = true →
        parse (k ++ "=" ++ v) = (OrderedMap.ofList [(k, String.ofList line)]).overlay (parseChars rest) := by
  have text : (k ++ "=" ++ v).toList = k.toList ++ '=' :: v.toList := by simp [String.toList_append]
  rw [parse, text]
  refine ⟨⟨fun single => ?_, fun clean => ?_⟩, fun line c rest spelled clean ends => ?_⟩
  · have found : (parseChars (k.toList ++ '=' :: v.toList)).get? k = some v := by
      rw [single]
      exact OrderedMap.getMember.mpr List.mem_cons_self
    have listed := (OrderedMap.insertAllEntry found).resolve_right (by simp)
    exact valuesUnbroken entry.noSlash _ listed
  · rw [entry.whole clean, String.ofList_toList, String.ofList_toList]
  · rw [entry.broken spelled clean ends, String.ofList_toList]

theorem spacedEntryRead :
    IsPlainEntry "greet".toList "=Hello\u00a0{0}: x ".toList ∧
      parse ("greet" ++ "=" ++ "=Hello\u00a0{0}: x ") = .ofList [("greet", "=Hello\u00a0{0}: x ")] := by
  have entry : IsPlainEntry "greet".toList "=Hello\u00a0{0}: x ".toList := by decide
  have clean : "=Hello\u00a0{0}: x ".toList.any isLineBreak = false := by decide
  simp only [List.any_eq_false, Bool.not_eq_true] at clean
  exact ⟨entry, (plainEntryRead _ _ entry).1.mpr clean⟩

/-- A line separator ends a value, and what follows it becomes a key. -/
theorem separatorCuts :
    IsPlainEntry "k".toList "a\u2028b".toList ∧
      parse ("k" ++ "=" ++ "a\u2028b") = .ofList [("k", "a"), ("b", "")] ∧
      parse ("k" ++ "=" ++ "a\u2028b") ≠ .ofList [("k", "a\u2028b")] := by
  have cut : parse ("k" ++ "=" ++ "a\u2028b") = .ofList [("k", "a"), ("b", "")] := by decide
  refine ⟨by decide, cut, ?_⟩
  rw [cut]
  decide

end Phrasebook.Properties

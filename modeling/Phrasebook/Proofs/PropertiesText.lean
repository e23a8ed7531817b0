import Phrasebook.Proofs.Characters
import Phrasebook.Proofs.Collections
import Phrasebook.Proofs.Lines
import Phrasebook.Properties

/-! Writing catalogs in properties form. Keys and values are escaped, so that nothing in them is taken
for a separator, a comment, a blank or the end of a line, and reading gives back what was written. -/
namespace Phrasebook.Properties

open Text

/-- How hexadecimal digits are written; readers take either case. -/
structure HexDigits where
  digit : Nat → Char
  reads : ∀ n < 16, hexValue? (digit n) = some n

namespace HexDigits

def lower : HexDigits := ⟨Nat.digitChar, by decide⟩

def code (hex : HexDigits) (n : Nat) : List Char :=
  [hex.digit (n / 0x1000 % 16), hex.digit (n / 0x100 % 16), hex.digit (n / 0x10 % 16),
    hex.digit (n % 16)]

end HexDigits

def marks : List Char := ['\\', '=', ':', '#', '!', ' ']

def controls : List (Char × Char) := [('\t', 't'), ('\n', 'n'), ('\r', 'r'), ('\x0c', 'f')]

def isGraphic (c : Char) : Bool := 0x21 ≤ c.toNat && c.toNat ≤ 0x7e

def escapeChar (hex : HexDigits) (c : Char) : List Char :=
  if c ∈ marks then ['\\', c]
  else
    match controls.lookup c with
    | some letter => ['\\', letter]
    | none => if isGraphic c then [c] else '\\' :: 'u' :: hex.code c.toNat

def escape (hex : HexDigits) (cs : List Char) : List Char := cs.flatMap (escapeChar hex)

def lineOf (hex : HexDigits) (entry : String × String) : List Char :=
  escape hex entry.1.toList ++ '=' :: escape hex entry.2.toList

def written (hex : HexDigits) (m : OrderedMap String String) : String :=
  String.ofList (joined ['\n'] (m.entries.map (lineOf hex)))

inductive Escape (hex : HexDigits) (c : Char) : List Char → Prop
  | letter {d : Char} (ordinary : d ≠ 'u') (reads : escapedChar d = c)
      (shown : 0x20 ≤ d.toNat ∧ d.toNat ≤ 0x7e) : Escape hex c ['\\', d]
  | itself (graphic : isGraphic c = true) (unmarked : c ∉ marks) : Escape hex c [c]
  | code : Escape hex c ('\\' :: 'u' :: hex.code c.toNat)

theorem markLetter : ∀ c ∈ marks, c ≠ 'u' ∧ escapedChar c = c ∧ 0x20 ≤ c.toNat ∧ c.toNat ≤ 0x7e := by
  have all : marks.all (fun c => c ≠ 'u' && escapedChar c = c && 0x20 ≤ c.toNat && c.toNat ≤ 0x7e) :=
    by decide
  simpa only [List.all_eq_true, Bool.and_eq_true, decide_eq_true_eq, and_assoc] using all

theorem controlLetter : ∀ control ∈ controls, control.2 ≠ 'u' ∧ escapedChar control.2 = control.1 ∧
    0x20 ≤ control.2.toNat ∧ control.2.toNat ≤ 0x7e := by
  have all : controls.all fun control => control.2 ≠ 'u' && escapedChar control.2 = control.1 &&
      0x20 ≤ control.2.toNat && control.2.toNat ≤ 0x7e := by decide
  simpa only [List.all_eq_true, Bool.and_eq_true, decide_eq_true_eq, and_assoc] using all

theorem escapeForm (hex : HexDigits) (c : Char) : Escape hex c (escapeChar hex c) := by
  unfold escapeChar
  split
  · rename_i mark
    obtain ⟨ordinary, reads, shown⟩ := markLetter c mark
    exact .letter ordinary reads shown
  · rename_i unmarked
    split
    · rename_i letter found
      have listed : (c, letter) ∈ controls := (lookupMember (by decide)).mp found
      obtain ⟨ordinary, reads, shown⟩ := controlLetter _ listed
      exact .letter ordinary reads shown
    · split
      · rename_i graphic
        exact .itself graphic unmarked
      · exact .code

section

variable {hex : HexDigits}

theorem graphicRange {c : Char} : isGraphic c = true ↔ 0x21 ≤ c.toNat ∧ c.toNat ≤ 0x7e := by
  simp [isGraphic]

theorem hexAlnum {d : Char} {n : Nat} (reads : hexValue? d = some n) : isAsciiAlnum d = true := by
  have range (low high : Char) : (decide (low ≤ d) && decide (d ≤ high)) = true ↔
      low.toNat ≤ d.toNat ∧ d.toNat ≤ high.toNat := by
    simp only [Bool.and_eq_true, decide_eq_true_eq, Char.le_def, UInt32.le_iff_toNat_le, Char.toNat]
  unfold hexValue? at reads
  split at reads
  · rename_i digit
    exact alnumRange.mpr (.inr digit)
  · refine alnumRange.mpr (.inl (letterRange.mpr ?_))
    split at reads
    · rename_i small
      obtain ⟨low, high⟩ := (range 'a' 'f').mp small
      exact .inl ⟨low, Nat.le_trans high (by decide)⟩
    · split at reads
      · rename_i large
        obtain ⟨low, high⟩ := (range 'A' 'F').mp large
        exact .inr ⟨low, Nat.le_trans high (by decide)⟩
      · cases reads

theorem codeDigit {n : Nat} {d : Char} (mem : d ∈ hex.code n) : isAsciiAlnum d = true := by
  have small : ∀ m, m % 16 < 16 := fun m => Nat.mod_lt m (by decide)
  simp only [HexDigits.code, List.mem_cons, List.not_mem_nil, or_false] at mem
  rcases mem with rfl | rfl | rfl | rfl <;> exact hexAlnum (hex.reads _ (small _))

theorem alnumShown {d : Char} (alnum : isAsciiAlnum d = true) : isGraphic d = true ∧ d ∉ marks := by
  constructor
  · rw [graphicRange]
    rcases alnumRange.mp alnum with letter | digit
    · have := letterRange.mp letter
      omega
    · have := digitRange.mp digit
      omega
  · intro mark
    have none : marks.any isAsciiAlnum = false := by decide
    exact List.any_eq_false.mp none d mark alnum

/-! ### Lines -/

theorem escapedShown {cs : List Char} {d : Char} (mem : d ∈ escape hex cs) :
    0x20 ≤ d.toNat ∧ d.toNat ≤ 0x7e := by
  obtain ⟨c, -, inside⟩ := List.mem_flatMap.mp mem
  have form := escapeForm hex c
  generalize escapeChar hex c = text at form inside
  cases form with
  | letter ordinary reads shown =>
    rcases List.mem_pair.mp inside with rfl | rfl
    · decide
    · exact shown
  | itself graphic unmarked =>
    obtain rfl := List.mem_singleton.mp inside
    have := graphicRange.mp graphic
    omega
  | code =>
    rcases List.mem_cons.mp inside with rfl | inside
    · decide
    · rcases List.mem_cons.mp inside with rfl | inside
      · decide
      · have := graphicRange.mp (alnumShown (codeDigit inside)).1
        omega

theorem shownUnbroken {d : Char} (shown : 0x20 ≤ d.toNat ∧ d.toNat ≤ 0x7e) :
    isLineBreak d = false := by
  simp only [isLineBreak, inRanges, Bool.and_eq_false_iff, Bool.or_eq_false_iff, decide_eq_false_iff_not]
  omega

theorem lineUnbroken (entry : String × String) : ∀ d ∈ lineOf hex entry, isLineBreak d = false := by
  intro d mem
  rcases List.mem_append.mp mem with key | rest
  · exact shownUnbroken (escapedShown key)
  · rcases List.mem_cons.mp rest with rfl | value
    · decide
    · exact shownUnbroken (escapedShown value)

theorem graphicFilled {c : Char} (graphic : isGraphic c = true) :
    isBlank c = false ∧ isSeparatorBlank c = false := by
  have range := graphicRange.mp graphic
  constructor
  · simp only [isBlank, ClassTable.blanks, inRanges, Bool.and_eq_false_iff, Bool.or_eq_false_iff,
      decide_eq_false_iff_not]
    omega
  · simp only [isSeparatorBlank, Bool.or_eq_false_iff, decide_eq_false_iff_not]
    refine ⟨⟨?_, ?_⟩, ?_⟩ <;> rintro rfl <;> exact absurd graphic (by decide)

/-- An escape begins neither a comment nor with a blank. -/
theorem escapeHead {cs rest : List Char} {first : Char} (opens : escape hex cs = first :: rest) :
    isGraphic first = true ∧ first ≠ '#' ∧ first ≠ '!' := by
  cases cs with
  | nil => contradiction
  | cons c cs =>
    rw [escape, List.flatMap_cons] at opens
    have form := escapeForm hex c
    generalize escapeChar hex c = text at form opens
    cases form with
    | letter =>
      obtain ⟨rfl, -⟩ := List.cons.inj opens
      decide
    | itself graphic unmarked =>
      obtain ⟨rfl, -⟩ := List.cons.inj opens
      refine ⟨graphic, ?_, ?_⟩ <;> rintro rfl <;> exact unmarked (by decide)
    | code =>
      obtain ⟨rfl, -⟩ := List.cons.inj opens
      decide

theorem lineHead (entry : String × String) :
    ∃ first rest, lineOf hex entry = first :: rest ∧ isGraphic first = true ∧
      isComment (first :: rest) = false := by
  unfold lineOf
  cases key : escape hex entry.1.toList with
  | nil => exact ⟨'=', _, rfl, rfl, rfl⟩
  | cons first rest =>
    obtain ⟨graphic, noHash, noBang⟩ := escapeHead key
    exact ⟨first, _, rfl, graphic, by simp [isComment, noHash, noBang]⟩

theorem endingSnoc (line : List Char) (c : Char) :
    endingBackslashes (line ++ [c]) = if c = '\\' then endingBackslashes line + 1 else 0 := by
  simp only [endingBackslashes, List.reverse_append, List.reverse_singleton, List.singleton_append,
    List.takeWhile_cons, decide_eq_true_eq]
  split <;> rfl

theorem endingOther (front : List Char) {c : Char} (other : c ≠ '\\') :
    endingBackslashes (front ++ [c]) = 0 := by
  rw [endingSnoc, if_neg other]

theorem endingJoin (front line : List Char) :
    endingBackslashes (front ++ line) = endingBackslashes line ∨
      endingBackslashes (front ++ line) = endingBackslashes front + endingBackslashes line := by
  induction line using List.reverseRecOn with
  | nil => exact .inr (by simp [endingBackslashes])
  | append_singleton line c ih =>
    rw [← List.append_assoc, endingSnoc, endingSnoc]
    split
    · exact ih.imp (by omega) (by omega)
    · exact .inl rfl

theorem endingEven {front line : List Char} (before : endingBackslashes front % 2 = 0)
    (after : endingBackslashes line % 2 = 0) : endingBackslashes (front ++ line) % 2 = 0 := by
  rcases endingJoin front line with own | both <;> omega

theorem pairEven (c : Char) : endingBackslashes ['\\', c] % 2 = 0 := by
  have one : endingBackslashes ['\\'] = 1 := rfl
  rw [← List.singleton_append, endingSnoc, one]
  split <;> rfl

theorem alnumOther {d : Char} (alnum : isAsciiAlnum d = true) : d ≠ '\\' :=
  fun same => (alnumShown alnum).2 (same ▸ by decide)

theorem escapedEnding (c : Char) : endingBackslashes (escapeChar hex c) % 2 = 0 := by
  have form := escapeForm hex c
  generalize escapeChar hex c = text at form
  cases form with
  | @letter d => exact pairEven d
  | itself graphic unmarked =>
    have other : c ≠ '\\' := fun same => unmarked (same ▸ by decide)
    rw [← List.nil_append [c], endingOther [] other]
  | code =>
    have last : '\\' :: 'u' :: hex.code c.toNat =
        ('\\' :: 'u' :: (hex.code c.toNat).dropLast) ++ [hex.digit (c.toNat % 16)] := rfl
    have digit : hex.digit (c.toNat % 16) ∈ hex.code c.toNat := by simp [HexDigits.code]
    rw [last, endingOther _ (alnumOther (codeDigit digit))]

theorem escapesEnding (cs : List Char) : endingBackslashes (escape hex cs) % 2 = 0 := by
  induction cs with
  | nil => rfl
  | cons c cs ih => exact endingEven (escapedEnding c) ih

theorem joinedOpen {raw line : List Char} (stripped : raw.dropWhile isBlank = line) (filled : line ≠ [])
    (noComment : isComment line = false) (rest : List (List Char)) :
    joinContinued none (raw :: rest) =
      if goesOn line then joinContinued (some line.dropLast) rest
      else line :: joinContinued none rest := by
  have some : line.isEmpty = false := by simpa using filled
  simp only [joinContinued, stripped, some, noComment, Bool.or_self, Bool.false_eq_true, if_false]

structure IsLogical (line : List Char) : Prop where
  opens : line.dropWhile isBlank = line
  filled : line ≠ []
  noComment : isComment line = false
  ends : goesOn line = false

theorem IsLogical.joins {line : List Char} (logical : IsLogical line) (rest : List (List Char)) :
    joinContinued none (line :: rest) = line :: joinContinued none rest := by
  rw [joinedOpen logical.opens logical.filled logical.noComment, logical.ends, if_neg (by decide)]

theorem logicalJoined {lines : List (List Char)} (logical : ∀ line ∈ lines, IsLogical line) :
    joinContinued none lines = lines := by
  induction lines with
  | nil => rfl
  | cons line rest ih =>
    obtain ⟨head, later⟩ := List.forall_mem_cons.mp logical
    rw [head.joins, ih later]

theorem lineLogical (entry : String × String) : IsLogical (lineOf hex entry) := by
  obtain ⟨first, rest, line, graphic, noComment⟩ := @lineHead hex entry
  refine ⟨?_, by simp [line], by rw [line, noComment], ?_⟩
  · rw [line, List.dropWhile_cons_of_neg (by simp [(graphicFilled graphic).1])]
  · have separated : endingBackslashes (escape hex entry.1.toList ++ ['=']) % 2 = 0 := by
      rw [endingOther _ (by decide)]
    have even := endingEven separated (@escapesEnding hex entry.2.toList)
    rw [List.append_assoc, List.singleton_append] at even
    simp [goesOn, lineOf, even]

theorem writtenLines (m : OrderedMap String String) :
    logicalLines (written hex m).toList = m.entries.map (lineOf hex) := by
  have filled : ∀ line ∈ m.entries.map (lineOf hex), line ≠ [] := by
    intro line mem
    obtain ⟨entry, -, rfl⟩ := List.mem_map.mp mem
    exact (lineLogical entry).filled
  have clean : ∀ line ∈ m.entries.map (lineOf hex), ∀ c ∈ line, isLineBreak c = false := by
    intro line mem
    obtain ⟨entry, -, rfl⟩ := List.mem_map.mp mem
    exact lineUnbroken entry
  rw [logicalLines, written, String.toList_ofList, linesJoined filled clean]
  refine logicalJoined fun line mem => ?_
  obtain ⟨entry, -, rfl⟩ := List.mem_map.mp mem
  exact lineLogical entry

/-! ### Keys and values -/

theorem splitPlain {c : Char} (other : c ≠ '\\') (inside : endsKey c = false) (rest : List Char) :
    splitKey (c :: rest) = (c :: (splitKey rest).1, (splitKey rest).2) := by
  rw [splitKey.eq_def]
  split
  · rename_i same
    cases same
  · rename_i same
    exact absurd (List.cons.inj same).1 other
  · rename_i same
    obtain ⟨rfl, rfl⟩ := List.cons.inj same
    rw [inside]
    rfl

theorem unmarkedInside {c : Char} (graphic : isGraphic c = true) (unmarked : c ∉ marks) :
    c ≠ '\\' ∧ endsKey c = false := by
  refine ⟨fun same => unmarked (same ▸ by decide), ?_⟩
  simp only [endsKey, (graphicFilled graphic).2, Bool.or_false, Bool.or_eq_false_iff,
    decide_eq_false_iff_not]
  constructor <;> rintro rfl <;> exact unmarked (by decide)

theorem splitUnmarked {text : List Char} (clean : ∀ c ∈ text, isGraphic c = true ∧ c ∉ marks)
    (rest : List Char) :
    splitKey (text ++ rest) = (text ++ (splitKey rest).1, (splitKey rest).2) := by
  induction text with
  | nil => rfl
  | cons c text ih =>
    obtain ⟨⟨graphic, unmarked⟩, later⟩ := List.forall_mem_cons.mp clean
    obtain ⟨other, inside⟩ := unmarkedInside graphic unmarked
    rw [List.cons_append, splitPlain other inside, ih later]
    rfl

theorem splitEscape (c : Char) (rest : List Char) :
    splitKey (escapeChar hex c ++ rest) =
      (escapeChar hex c ++ (splitKey rest).1, (splitKey rest).2) := by
  have form := escapeForm hex c
  generalize escapeChar hex c = text at form
  cases form with
  | letter => rfl
  | itself graphic unmarked =>
    exact splitUnmarked (List.forall_mem_singleton.mpr ⟨graphic, unmarked⟩) rest
  | code =>
    have shown : ∀ d ∈ hex.code c.toNat, isGraphic d = true ∧ d ∉ marks :=
      fun d mem => alnumShown (codeDigit mem)
    have digits := splitUnmarked shown rest
    simp only [List.cons_append, splitKey, digits]

theorem splitEscaped (cs after : List Char) :
    splitKey (escape hex cs ++ '=' :: after) = (escape hex cs, '=' :: after) := by
  induction cs with
  | nil => rfl
  | cons c cs ih =>
    rw [escape, List.flatMap_cons, List.append_assoc, splitEscape]
    change (_ ++ (splitKey (escape hex cs ++ _)).1, (splitKey (escape hex cs ++ _)).2) = _
    rw [ih]
    rfl

theorem escapedValue (cs : List Char) : valueOf ('=' :: escape hex cs) = escape hex cs := by
  change (escape hex cs).dropWhile isSeparatorBlank = escape hex cs
  cases value : escape hex cs with
  | nil => rfl
  | cons first rest =>
    have filled := (graphicFilled (escapeHead value).1).2
    rw [List.dropWhile_cons_of_neg (by simp [filled])]

/-! ### Escapes -/

theorem unescapeLetter {d : Char} (ordinary : d ≠ 'u') (rest : List Char) :
    unescapeUnits ('\\' :: d :: rest) = (escapedChar d).toNat :: unescapeUnits rest := by
  rw [unescapeUnits.eq_def]
  split
  · rename_i same
    exact absurd (List.cons.inj (List.cons.inj same).2).1 ordinary
  · rename_i same
    obtain ⟨rfl, rfl⟩ := List.cons.inj (List.cons.inj same).2
    rfl
  · rename_i unpaired same
    obtain ⟨rfl, rfl⟩ := List.cons.inj same
    exact absurd rfl (unpaired d rest rfl)
  · rename_i same
    cases same

theorem unescapePlain {c : Char} (other : c ≠ '\\') (rest : List Char) :
    unescapeUnits (c :: rest) = c.toNat :: unescapeUnits rest := by
  rw [unescapeUnits.eq_def]
  split
  · rename_i same
    exact absurd (List.cons.inj same).1 other
  · rename_i same
    exact absurd (List.cons.inj same).1 other
  · rename_i same
    obtain ⟨rfl, rfl⟩ := List.cons.inj same
    rfl
  · rename_i same
    cases same

theorem unescapeCode {n : Nat} (small : n < 0x10000) (rest : List Char) :
    unescapeUnits ('\\' :: 'u' :: (hex.code n ++ rest)) = n :: unescapeUnits rest := by
  have reads : ∀ m, hexValue? (hex.digit (m % 16)) = some (m % 16) :=
    fun m => hex.reads _ (Nat.mod_lt m (by decide))
  simp only [HexDigits.code, List.cons_append, List.nil_append, unescapeUnits, reads]
  congr 1
  omega

theorem unescapeEscape {c : Char} (plane : c.toNat < 0x10000) (rest : List Char) :
    unescapeUnits (escapeChar hex c ++ rest) = c.toNat :: unescapeUnits rest := by
  have form := escapeForm hex c
  generalize escapeChar hex c = text at form
  cases form with
  | letter ordinary reads =>
    subst reads
    exact unescapeLetter ordinary rest
  | itself graphic unmarked => exact unescapePlain (unmarkedInside graphic unmarked).1 rest
  | code => exact unescapeCode plane rest

theorem unescapeUnitsEscaped {cs : List Char} (plane : ∀ c ∈ cs, c.toNat < 0x10000) :
    unescapeUnits (escape hex cs) = cs.map Char.toNat := by
  induction cs with
  | nil => rfl
  | cons c cs ih =>
    obtain ⟨head, later⟩ := List.forall_mem_cons.mp plane
    rw [escape, List.flatMap_cons, unescapeEscape head]
    exact congrArg (c.toNat :: ·) (ih later)

theorem noSurrogate (c : Char) : ¬ (0xd800 ≤ c.toNat ∧ c.toNat < 0xe000) := by
  have valid := c.valid
  simp only [UInt32.isValidChar, Nat.isValidChar] at valid
  change ¬ (0xd800 ≤ c.val.toNat ∧ c.val.toNat < 0xe000)
  omega

theorem unitsRead (cs : List Char) : ofUnits (cs.map Char.toNat) = cs := by
  induction cs with
  | nil => rfl
  | cons c cs ih =>
    have single := noSurrogate c
    cases cs with
    | nil => simp [ofUnits, single]
    | cons d cs =>
      have noPair : ¬ (0xd800 ≤ c.toNat ∧ c.toNat < 0xdc00) := by omega
      simp only [List.map_cons] at ih
      simp [ofUnits, single, noPair, ih]

theorem unescapeEscaped {cs : List Char} (plane : ∀ c ∈ cs, c.toNat < 0x10000) :
    unescape (escape hex cs) = cs := by
  rw [unescape, unescapeUnitsEscaped plane, unitsRead]

theorem entryWritten {entry : String × String}
    (plane : ∀ c ∈ entry.1.toList ++ entry.2.toList, c.toNat < 0x10000) :
    entryOf (lineOf hex entry) = entry := by
  obtain ⟨key, value⟩ := List.forall_mem_append.mp plane
  simp only [entryOf, lineOf, splitEscaped, escapedValue, unescapeEscaped key, unescapeEscaped value,
    String.ofList_toList]

end

/-- What is written is read back, keys in their order, as long as every character has a code of four
digits. -/
theorem writtenReadBack (hex : HexDigits) (m : OrderedMap String String)
    (plane : ∀ entry ∈ m.entries, ∀ c ∈ entry.1.toList ++ entry.2.toList, c.toNat < 0x10000) :
    parse (written hex m) = m := by
  have entries : (m.entries.map (lineOf hex)).map entryOf = m.entries := by
    rw [List.map_map]
    exact (List.map_congr_left fun entry mem => entryWritten (plane entry mem)).trans (List.map_id _)
  rw [parse, parseChars, writtenLines, entries, OrderedMap.ofEntries]

def awkward : OrderedMap String String :=
  .ofList [("", " "), ("a=b\\", "\\u0041\n"), ("# é", "")]

theorem awkwardReadBack :
    written .lower awkward = "=\\ \na\\=b\\\\=\\\\u0041\\n\n\\#\\ \\u00e9=" ∧
      parse (written .lower awkward) = awkward := by
  have plane : awkward.entries.all fun entry =>
      (entry.1.toList ++ entry.2.toList).all fun c => c.toNat < 0x10000 := by decide
  simp only [List.all_eq_true, decide_eq_true_eq] at plane
  exact ⟨by decide, writtenReadBack .lower awkward plane⟩

end Phrasebook.Properties

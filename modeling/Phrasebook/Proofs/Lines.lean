import Phrasebook.Proofs.Pieces
import Phrasebook.Text.Lines

/-! Lines of a text. Lines that hold no line boundary come back from the text they are joined to, and a
text without carriage returns is left as it is when line ends are unified. -/
namespace Phrasebook.Text

def spoilsLine (c : Char) : Bool := c = '\n' || c = '\r' || c = '\x00'

/-- A text that can stand as a line of a source: no line end is in it, and no null character. -/
def IsLine (s : String) : Prop := ∀ c ∈ s.toList, spoilsLine c = false

instance (s : String) : Decidable (IsLine s) :=
  decidable_of_iff (s.toList.any spoilsLine = false) (by simp [IsLine, List.any_eq_false])

theorem lineAppend {a b : String} : IsLine (a ++ b) ↔ IsLine a ∧ IsLine b := by
  simp only [IsLine, String.toList_append, List.forall_mem_append]

theorem lineJoin {items : List String} : IsLine (String.join items) ↔ ∀ item ∈ items, IsLine item := by
  simp only [IsLine, String.toList_join, List.mem_flatMap, forall_exists_index, and_imp]
  exact ⟨fun all item mem c inside => all c item mem inside,
    fun all c item mem inside => all item mem c inside⟩

theorem lineHolding {s : String} {p : Char → Prop} (feed : ¬ p '\n') (back : ¬ p '\r')
    (null : ¬ p '\x00') (all : ∀ c ∈ s.toList, p c) : IsLine s := by
  intro c mem
  simp only [spoilsLine, Bool.or_eq_false_iff, decide_eq_false_iff_not]
  refine ⟨⟨?_, ?_⟩, ?_⟩
  · rintro rfl
    exact feed (all _ mem)
  · rintro rfl
    exact back (all _ mem)
  · rintro rfl
    exact null (all _ mem)

theorem linesPlain {c : Char} (plain : isLineBreak c = false) (rest : List Char) :
    lines (c :: rest) =
      match lines rest with
      | [] => [[c]]
      | line :: others => (c :: line) :: others := by
  rw [lines.eq_def]
  split
  · rename_i same
    cases same
  · rename_i same
    obtain ⟨rfl, -⟩ := List.cons.inj same
    exact absurd plain (by decide)
  · rename_i same
    obtain ⟨rfl, rfl⟩ := List.cons.inj same
    rw [plain]
    rfl

theorem linesBreak {c : Char} {rest : List Char} (ends : isLineBreak c = true)
    (whole : ∀ more, c = '\r' → rest ≠ '\n' :: more) : lines (c :: rest) = [] :: lines rest := by
  rw [lines.eq_def]
  split
  · rename_i same
    cases same
  · rename_i same
    obtain ⟨rfl, rfl⟩ := List.cons.inj same
    exact absurd rfl (whole _ rfl)
  · rename_i same
    obtain ⟨rfl, rfl⟩ := List.cons.inj same
    rw [ends]
    rfl

/-- A line goes up to its first line boundary. -/
theorem linesCut {line : List Char} (clean : ∀ c ∈ line, isLineBreak c = false) {c : Char}
    {rest : List Char} (ends : isLineBreak c = true)
    (whole : ∀ more, c = '\r' → rest ≠ '\n' :: more) :
    lines (line ++ c :: rest) = line :: lines rest := by
  induction line with
  | nil => exact linesBreak ends whole
  | cons d line ih =>
    obtain ⟨plain, later⟩ := List.forall_mem_cons.mp clean
    rw [List.cons_append, linesPlain plain, ih later]

theorem linesFirst {line : List Char} (clean : ∀ c ∈ line, isLineBreak c = false)
    (rest : List Char) : lines (line ++ '\n' :: rest) = line :: lines rest :=
  linesCut clean (by decide) fun _ back => absurd back (by decide)

theorem linesFilled {text : List Char} (filled : text ≠ []) : lines text ≠ [] := by
  rw [lines.eq_def]
  split
  · contradiction
  · exact List.cons_ne_nil _ _
  · split
    · exact List.cons_ne_nil _ _
    · split <;> exact List.cons_ne_nil _ _

/-- The lines after a line feed do not depend on what stands before it. -/
theorem linesAppend (front rest : List Char) :
    lines (front ++ '\n' :: rest) = lines (front ++ ['\n']) ++ lines rest := by
  induction front with
  | nil => rfl
  | cons c front ih =>
    rw [List.append_cons] at ih ⊢
    obtain ⟨first, others, spelled⟩ : ∃ first others, front ++ ['\n'] = first :: others :=
      List.exists_cons_of_ne_nil (by simp)
    simp only [List.cons_append, spelled] at ih ⊢
    cases ends : isLineBreak c with
    | false =>
      rw [linesPlain ends, linesPlain ends, ih]
      cases found : lines (first :: others) with
      | nil => exact absurd found (linesFilled (List.cons_ne_nil _ _))
      | cons line more => rfl
    | true =>
      by_cases pair : c = '\r' ∧ first = '\n'
      · -- Without the carriage return the line feed ends the same line.
        obtain ⟨rfl, rfl⟩ := pair
        exact ih
      · have whole (text more : List Char) : c = '\r' → first :: text ≠ '\n' :: more :=
          fun back feed => pair ⟨back, (List.cons.inj feed).1⟩
        rw [linesBreak ends (whole _), linesBreak ends (whole _), ih]
        rfl

theorem linesWithin {text line : List Char} (mem : line ∈ lines text) :
    ∀ c ∈ line, c ∈ text ∧ isLineBreak c = false := by
  induction text using lines.induct generalizing line with
  | case1 => cases mem
  | case2 rest ih =>
    rcases List.mem_cons.mp mem with rfl | later
    · simp
    · exact fun c inside => (ih later c inside).imp_left fun held => by simp [held]
  | case3 c rest whole ends ih =>
    rw [linesBreak ends whole] at mem
    rcases List.mem_cons.mp mem with rfl | later
    · simp
    · exact fun d inside => (ih later d inside).imp_left (List.mem_cons_of_mem c)
  | case4 c rest whole plain bare ih =>
    rw [linesPlain (Bool.eq_false_iff.mpr plain), bare] at mem
    obtain rfl := List.mem_singleton.mp mem
    exact List.forall_mem_singleton.mpr ⟨List.mem_cons_self, Bool.eq_false_iff.mpr plain⟩
  | case5 c rest whole plain first others found ih =>
    rw [linesPlain (Bool.eq_false_iff.mpr plain), found] at mem
    rw [found] at ih
    rcases List.mem_cons.mp mem with rfl | later
    · refine List.forall_mem_cons.mpr ⟨⟨List.mem_cons_self, Bool.eq_false_iff.mpr plain⟩, fun d inside => ?_⟩
      exact (ih List.mem_cons_self d inside).imp_left (List.mem_cons_of_mem c)
    · exact fun d inside => (ih (List.mem_cons_of_mem _ later) d inside).imp_left (List.mem_cons_of_mem c)

theorem linesWhole {line : List Char} (filled : line ≠ [])
    (clean : ∀ c ∈ line, isLineBreak c = false) : lines line = [line] := by
  induction line with
  | nil => contradiction
  | cons c line ih =>
    obtain ⟨plain, later⟩ := List.forall_mem_cons.mp clean
    rw [linesPlain plain]
    cases line with
    | nil => rfl
    | cons d line => rw [ih (by simp) later]

theorem linesJoined {parts : List (List Char)} (filled : ∀ part ∈ parts, part ≠ [])
    (clean : ∀ part ∈ parts, ∀ c ∈ part, isLineBreak c = false) :
    lines (joined ['\n'] parts) = parts := by
  induction parts with
  | nil => rfl
  | cons part rest ih =>
    obtain ⟨filledHead, filledRest⟩ := List.forall_mem_cons.mp filled
    obtain ⟨cleanHead, cleanRest⟩ := List.forall_mem_cons.mp clean
    cases rest with
    | nil => exact linesWhole filledHead cleanHead
    | cons next rest =>
      have spelled : joined ['\n'] (part :: next :: rest) =
          part ++ '\n' :: joined ['\n'] (next :: rest) := by simp [joined]
      rw [spelled, linesFirst cleanHead, ih filledRest cleanRest]

theorem unifyOther {c : Char} (other : '\r' ≠ c) (rest : List Char) :
    unifyLineEnds (c :: rest) = c :: unifyLineEnds rest := by
  rw [unifyLineEnds.eq_def]
  split
  · rename_i same
    cases same
  · rename_i same
    exact absurd (List.cons.inj same).1.symm other
  · rename_i same
    obtain ⟨rfl, rfl⟩ := List.cons.inj same
    rw [if_neg (Ne.symm other)]

theorem unifiedAlready {text : List Char} (clean : '\r' ∉ text) : unifyLineEnds text = text := by
  induction text with
  | nil => rfl
  | cons c rest ih =>
    obtain ⟨other, later⟩ := not_or.mp (mt List.mem_cons.mpr clean)
    rw [unifyOther other, ih later]

/-- A text with a carriage return before every line feed. -/
def returned (text : List Char) : List Char :=
  text.flatMap fun c => if c = '\n' then ['\r', '\n'] else [c]

theorem returnedUnified {text : List Char} (clean : '\r' ∉ text) :
    unifyLineEnds (returned text) = text := by
  induction text with
  | nil => rfl
  | cons c rest ih =>
    obtain ⟨other, later⟩ := not_or.mp (mt List.mem_cons.mpr clean)
    rw [returned, List.flatMap_cons]
    split
    · rename_i feed
      subst feed
      exact congrArg ('\n' :: ·) (ih later)
    · rw [List.singleton_append, unifyOther other]
      exact congrArg (c :: ·) (ih later)

theorem returnedHolds {text : List Char} (feed : '\n' ∈ text) : '\r' ∈ returned text :=
  List.mem_flatMap.mpr ⟨'\n', feed, by simp⟩

end Phrasebook.Text

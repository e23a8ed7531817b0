import Phrasebook.Proofs.SourceLines
import Phrasebook.Proofs.WholeEscapes

/-! Documentation texts of methods. A key and a template are quoted, and the double quotes left in them are
escaped once more. Whatever they hold, the documentation is one line, and the first triple quote that is not
escaped is the one that closes it. -/
namespace Phrasebook.Text

theorem breakHidden {c : Char} (ends : isLineBreak c = true) : isShown c = false := by
  have hidden : ∀ n ∈ [0x0a, 0x0b, 0x0c, 0x0d, 0x1c, 0x1d, 0x1e, 0x85, 0x2028, 0x2029],
      inRanges n ClassTable.hidden = true := by decide +kernel
  have listed : c.toNat ∈ [0x0a, 0x0b, 0x0c, 0x0d, 0x1c, 0x1d, 0x1e, 0x85, 0x2028, 0x2029] := by
    simp only [isLineBreak, inRanges, Bool.and_eq_true, Bool.or_eq_true, decide_eq_true_eq,
      Bool.false_eq_true, or_false] at ends
    simp only [List.mem_cons, List.not_mem_nil, or_false]
    omega
  simp [isShown, hidden _ listed]

namespace Quoted

/-! ### Quoted characters are shown -/

theorem codeShown {c d : Char} (mem : d ∈ codeEscape c) : isShown d = true := by
  have digits : ∀ m < 16, isShown (Nat.digitChar m) = true := by decide
  have marked {mark : Char} {width : Nat} (shown : isShown mark = true)
      (inside : d ∈ '\\' :: mark :: paddedDigits 16 width c.toNat) : isShown d = true := by
    obtain rfl | rfl | padded := (List.mem_cons.mp inside).imp_right List.mem_cons.mp
    · decide
    · exact shown
    · obtain ⟨m, small, rfl⟩ := paddedMember padded
      exact digits m small
  simp only [codeEscape] at mem
  split at mem
  · exact marked (by decide) mem
  · split at mem
    · exact marked (by decide) mem
    · exact marked (by decide) mem

theorem quoteShown {quote : Char} (isOne : isQuote quote = true) : isShown quote = true := by
  simp only [isQuote, Bool.or_eq_true, decide_eq_true_eq] at isOne
  rcases isOne with rfl | rfl <;> decide

theorem escapeShown {quote : Char} (isOne : isQuote quote = true) {c d : Char}
    (mem : d ∈ escape quote c) : isShown d = true := by
  have pair {mark : Char} (shown : isShown mark = true) (inside : d ∈ ['\\', mark]) :
      isShown d = true := by
    obtain rfl | rfl := List.mem_pair.mp inside
    · decide
    · exact shown
  unfold escape at mem
  split at mem
  · rename_i marked
    simp only [Bool.or_eq_true, decide_eq_true_eq] at marked
    obtain rfl | rfl := marked
    · exact pair (quoteShown isOne) mem
    · exact pair (by decide) mem
  · split at mem
    · exact pair (by decide) mem
    · split at mem
      · exact pair (by decide) mem
      · split at mem
        · exact pair (by decide) mem
        · split at mem
          · rename_i shown
            rwa [List.mem_singleton.mp mem]
          · exact codeShown mem

theorem encodeShown {cs : List Char} {d : Char} (mem : d ∈ encode cs) : isShown d = true := by
  obtain body | last := List.mem_append.mp mem
  · obtain rfl | inside := List.mem_cons.mp body
    · exact quoteShown (quoteOne cs)
    · obtain ⟨c, -, held⟩ := List.mem_flatMap.mp inside
      exact escapeShown (quoteOne cs) held
  · rw [List.mem_singleton.mp last]
    exact quoteShown (quoteOne cs)

theorem doubleAbsent {cs : List Char} (double : quoteOf cs = '"') : '"' ∉ cs := by
  unfold quoteOf at double
  split at double
  · rename_i single
    simpa using (Bool.and_eq_true_iff.mp single).2
  · exact absurd double (by decide)

theorem escapeUnquoted {quote : Char} (isOne : isQuote quote = true) {c : Char} (other : c ≠ '"') :
    '"' ∉ escape quote c := by
  have form := escapeForm isOne c
  generalize escape quote c = text at form
  intro mem
  cases form with
  | letter short reads inside =>
    obtain same | rfl := List.mem_pair.mp mem
    · exact absurd same (by decide)
    · exact other reads.symm
  | itself => exact other (List.mem_singleton.mp mem).symm
  | @code mark width wide =>
    obtain same | rfl | padded := (List.mem_cons.mp mem).imp_right List.mem_cons.mp
    · exact absurd same (by decide)
    · simp [codeWidth?] at wide
    · have digits : ∀ m < 16, '"' ≠ Nat.digitChar m := by decide
      obtain ⟨m, small, same⟩ := paddedMember padded
      exact digits m small same

end Quoted

end Phrasebook.Text

namespace Phrasebook.Accessor

open Text Properties

/-! ### Guarded texts -/

/-- A text in which every backslash escapes the character after it, and no double quote stands but after such
a backslash. -/
inductive Guarded : List Char → Prop
  | nil : Guarded []
  | plain {c : Char} {rest : List Char} (other : c ≠ '\\') (unquoted : c ≠ '"')
      (later : Guarded rest) : Guarded (c :: rest)
  | pair (c : Char) {rest : List Char} (later : Guarded rest) : Guarded ('\\' :: c :: rest)

/-- A text up to its first triple quote that is not escaped, and what comes after that. -/
def closing? : List Char → Option (List Char × List Char)
  | [] => none
  | '\\' :: c :: rest => (closing? rest).map fun (held, after) => ('\\' :: c :: held, after)
  | '"' :: '"' :: '"' :: rest => some ([], rest)
  | c :: rest => (closing? rest).map fun (held, after) => (c :: held, after)

section

variable {text more : List Char}

theorem Guarded.append (before : Guarded text) (after : Guarded more) : Guarded (text ++ more) := by
  induction before with
  | nil => exact after
  | plain other unquoted later ih => exact .plain other unquoted ih
  | pair c later ih => exact .pair c ih

theorem Guarded.flatMap {f : Char → List Char} (each : ∀ c ∈ text, Guarded (f c)) :
    Guarded (text.flatMap f) := by
  induction text with
  | nil => exact .nil
  | cons c rest ih =>
    obtain ⟨head, later⟩ := List.forall_mem_cons.mp each
    exact head.append (ih later)

theorem Guarded.even (guarded : Guarded text) : endingBackslashes text % 2 = 0 := by
  induction guarded with
  | nil => rfl
  | plain other unquoted later ih => exact (plainParity other _).trans ih
  | pair c later ih => exact (pairParity c _).trans ih

theorem Guarded.quoteEscaped (guarded : Guarded text) {front after : List Char}
    (spelled : text = front ++ '"' :: after) : endingBackslashes front % 2 = 1 := by
  induction guarded generalizing front with
  | nil => simp at spelled
  | plain other unquoted later ih =>
    cases front with
    | nil => exact absurd (List.cons.inj spelled).1 unquoted
    | cons d front =>
      obtain ⟨rfl, tail⟩ := List.cons.inj spelled
      exact (plainParity other front).trans (ih tail)
  | pair c later ih =>
    match front with
    | [] => exact absurd (List.cons.inj spelled).1 (by decide)
    | [d] =>
      obtain ⟨rfl, -⟩ := List.cons.inj spelled
      rfl
    | d :: e :: front =>
      obtain ⟨rfl, spelledTail⟩ := List.cons.inj spelled
      obtain ⟨rfl, tail⟩ := List.cons.inj spelledTail
      exact (pairParity c front).trans (ih tail)

theorem Guarded.closes (guarded : Guarded text) (rest : List Char) :
    closing? (text ++ '"' :: '"' :: '"' :: rest) = some (text, rest) := by
  induction guarded with
  | nil => rfl
  | plain other unquoted later ih => simp [closing?, other, unquoted, ih]
  | pair c later ih => simp [closing?, ih]

/-! ### Quotes that are escaped -/

theorem docstringAppend (front back : List Char) :
    docstringChars (front ++ back) = docstringChars front ++ docstringChars back :=
  List.flatMap_append

theorem docstringKept (clean : '"' ∉ text) : docstringChars text = text := by
  induction text with
  | nil => rfl
  | cons c rest ih =>
    obtain ⟨other, later⟩ := not_or.mp (mt List.mem_cons.mpr clean)
    rw [docstringChars, List.flatMap_cons, if_neg (Ne.symm other)]
    exact congrArg (c :: ·) (ih later)

theorem digitsGuarded {width n : Nat} : Guarded (Quoted.paddedDigits 16 width n) := by
  have each : ∀ m < 16, Nat.digitChar m ≠ '\\' ∧ Nat.digitChar m ≠ '"' := by decide
  have plain {text : List Char} (digits : ∀ d ∈ text, ∃ m < 16, d = Nat.digitChar m) : Guarded text := by
    induction text with
    | nil => exact .nil
    | cons d rest ih =>
      obtain ⟨⟨m, small, rfl⟩, later⟩ := List.forall_mem_cons.mp digits
      exact .plain (each m small).1 (each m small).2 (ih later)
  exact plain fun d mem => Quoted.paddedMember mem

theorem escapeGuarded {quote : Char} (isOne : Quoted.isQuote quote = true) {c : Char}
    (absent : quote = '"' → c ≠ '"') : Guarded (docstringChars (Quoted.escape quote c)) := by
  by_cases double : c = '"'
  · -- A double quote in single quotes is quoted as it is, and gets its only backslash here.
    subst double
    have single : quote ≠ '"' := fun same => absent same rfl
    obtain rfl : quote = '\'' := by simpa [Quoted.isQuote, single] using isOne
    exact .pair '"' .nil
  · rw [docstringKept (Quoted.escapeUnquoted isOne double)]
    have form := Quoted.escapeForm isOne c
    generalize Quoted.escape quote c = text at form
    cases form with
    | letter => exact .pair _ .nil
    | itself other => exact .plain other double .nil
    | code => exact .pair _ digitsGuarded

theorem quoteGuarded {quote : Char} (isOne : Quoted.isQuote quote = true) :
    Guarded (docstringChars [quote]) := by
  simp only [Quoted.isQuote, Bool.or_eq_true, decide_eq_true_eq] at isOne
  obtain rfl | rfl := isOne
  · exact .plain (by decide) (by decide) .nil
  · exact .pair '"' .nil

theorem encodeGuarded (cs : List Char) : Guarded (docstringChars (Quoted.encode cs)) := by
  have isOne := Quoted.quoteOne cs
  have body : Guarded (docstringChars (cs.flatMap (Quoted.escape (Quoted.quoteOf cs)))) := by
    rw [docstringChars, List.flatMap_assoc]
    refine .flatMap fun c mem => escapeGuarded isOne fun double same => ?_
    exact Quoted.doubleAbsent double (same ▸ mem)
  have spelled : Quoted.encode cs =
      [Quoted.quoteOf cs] ++ cs.flatMap (Quoted.escape (Quoted.quoteOf cs)) ++ [Quoted.quoteOf cs] := rfl
  rw [spelled, docstringAppend, docstringAppend]
  exact ((quoteGuarded isOne).append body).append (quoteGuarded isOne)

end

/-! ### Documentation -/

/-- What stands between the triple quotes in the block of a method. -/
def Descriptor.documentation (d : Descriptor) : String :=
  docstring (quoted d.key) ++ ": " ++ docstring (quoted d.template) ++ "."

theorem documentationChars (d : Descriptor) : d.documentation.toList =
    docstringChars (Quoted.encode d.key.toList) ++ [':', ' '] ++
      docstringChars (Quoted.encode d.template.toList) ++ ['.'] := by
  simp [Descriptor.documentation, docstring, quoted, String.toList_append]

theorem documentationGuarded (d : Descriptor) : Guarded d.documentation.toList := by
  have between : Guarded [':', ' '] :=
    .plain (by decide) (by decide) (.plain (by decide) (by decide) .nil)
  have stop : Guarded ['.'] := .plain (by decide) (by decide) .nil
  rw [documentationChars]
  exact (((encodeGuarded _).append between).append (encodeGuarded _)).append stop

theorem docstringShown {text : List Char} (shown : ∀ c ∈ text, isShown c = true) :
    ∀ c ∈ docstringChars text, isShown c = true := by
  intro c mem
  obtain ⟨d, held, inside⟩ := List.mem_flatMap.mp mem
  split at inside
  · obtain rfl | rfl := List.mem_pair.mp inside <;> decide
  · rw [List.mem_singleton.mp inside]
    exact shown d held

theorem documentationShown (d : Descriptor) : ∀ c ∈ d.documentation.toList, isShown c = true := by
  have written (s : String) : ∀ c ∈ docstringChars (Quoted.encode s.toList), isShown c = true :=
    docstringShown fun _ => Quoted.encodeShown
  have between : ∀ c ∈ [':', ' '], isShown c = true :=
    List.forall_mem_cons.mpr ⟨by decide, List.forall_mem_singleton.mpr (by decide)⟩
  have stop : ∀ c ∈ ['.'], isShown c = true := List.forall_mem_singleton.mpr (by decide)
  simp only [documentationChars, List.forall_mem_append]
  exact ⟨⟨⟨written _, between⟩, written _⟩, stop⟩

/-- No key and no template breaks out of the documentation of its method: it is one line, every double quote
in it is escaped and no backslash at its end escapes what comes next, so it is read up to the triple quote
that is written behind it. -/
theorem documentationCloses (d : Descriptor) :
    "        \"\"\"" ++ d.documentation ++ "\"\"\"" ∈ d.block ∧
      (∀ c ∈ d.documentation.toList, isLineBreak c = false) ∧
      (∀ front after, d.documentation.toList = front ++ '"' :: after →
        endingBackslashes front % 2 = 1) ∧
      endingBackslashes d.documentation.toList % 2 = 0 ∧
      ∀ rest, closing? (d.documentation.toList ++ '"' :: '"' :: '"' :: rest) =
        some (d.documentation.toList, rest) := by
  have guarded := documentationGuarded d
  refine ⟨?_, fun c mem => ?_, fun front after => guarded.quoteEscaped, guarded.even, guarded.closes⟩
  · simp [Descriptor.block, Descriptor.documentation, String.append_assoc]
  · have shown := documentationShown d c mem
    exact Bool.eq_false_iff.mpr fun ends => absurd (breakHidden ends) (by simp [shown])

def awkwardMethod : Descriptor where
  key := "it's"
  method := "its"
  mode := .noArgs
  parameters := []
  template := "\"\"\"\\"
  translations := []

theorem awkwardCloses :
    awkwardMethod.documentation = "\\\"it's\\\": '\\\"\\\"\\\"\\\\'." ∧
      closing? "\\\"it's\\\": '\\\"\\\"\\\"\\\\'.\"\"\"\n".toList =
        some (awkwardMethod.documentation.toList, ['\n']) := by
  have spelled : awkwardMethod.documentation = "\\\"it's\\\": '\\\"\\\"\\\"\\\\'." := by decide +kernel
  refine ⟨spelled, ?_⟩
  have closes := (documentationCloses awkwardMethod).2.2.2.2 ['\n']
  rwa [spelled] at closes ⊢

end Phrasebook.Accessor

import Mathlib.Algebra.Group.Nat.Defs
import Mathlib.Data.List.Basic
import Phrasebook.Proofs.Codes
import Phrasebook.Proofs.Lines
import Phrasebook.Text.Quoted

/-! Quoted text read back. Every character has an escape of its own, the quote at the end begins none,
and no escape holds what spoils a line: a quoted text is one line and cannot be mistaken for another,
whatever stands behind it. -/
namespace Phrasebook.Text.Quoted

def isQuote (c : Char) : Bool := c = '\'' || c = '"'

theorem quoteOne (cs : List Char) : isQuote (quoteOf cs) = true := by
  unfold quoteOf
  split <;> rfl

/-! ### Digits -/

def readDigits (digits : List Char) : Nat :=
  digits.foldl (fun n d => n * 16 + (hexValue? d).getD 0) 0

theorem digitValue : ∀ n < 16, hexValue? (Nat.digitChar n) = some n := by
  decide

theorem readSnoc (digits : List Char) (d : Char) :
    readDigits (digits ++ [d]) = readDigits digits * 16 + (hexValue? d).getD 0 := by
  simp [readDigits]

theorem digitsRead (n : Nat) : readDigits (Nat.toDigits 16 n) = n := by
  induction n using Nat.strongRecOn with
  | ind n ih =>
    rw [Nat.toDigits_eq_if (by decide)]
    split
    · rename_i small
      simp [readDigits, digitValue n small]
    · rename_i large
      rw [readSnoc, ih (n / 16) (by omega), digitValue _ (Nat.mod_lt n (by decide)), Option.getD_some]
      omega

theorem paddedRead (width n : Nat) : readDigits (paddedDigits 16 width n) = n := by
  have zeros : ∀ count : Nat, (List.replicate count '0').foldl
      (fun n d => n * 16 + (hexValue? d).getD 0) 0 = 0 := by
    intro count
    induction count with
    | zero => rfl
    | succ count ih => exact ih
  have digits := digitsRead n
  unfold readDigits at digits
  simp only [readDigits, paddedDigits, List.foldl_append, zeros, digits]

theorem paddedLength {width n : Nat} (filled : 0 < width) (fits : n < 16 ^ width) :
    (paddedDigits 16 width n).length = width := by
  have short := (Nat.length_toDigits_le_iff (by decide) filled).mpr fits
  simp only [paddedDigits, List.length_append, List.length_replicate]
  omega

theorem digitMember {d : Char} {n : Nat} (mem : d ∈ Nat.toDigits 16 n) :
    ∃ m < 16, d = Nat.digitChar m := by
  induction n using Nat.strongRecOn with
  | ind n ih =>
    rw [Nat.toDigits_eq_if (by decide)] at mem
    split at mem
    · rename_i small
      exact ⟨n, small, List.mem_singleton.mp mem⟩
    · rename_i large
      rcases List.mem_append.mp mem with before | last
      · exact ih (n / 16) (by omega) before
      · exact ⟨n % 16, Nat.mod_lt n (by decide), List.mem_singleton.mp last⟩

/-! ### Escapes -/

def codeWidth? (mark : Char) : Option Nat :=
  if mark = 'x' then some 2 else if mark = 'u' then some 4 else if mark = 'U' then some 8 else none

def letterChar (mark : Char) : Char :=
  if mark = 't' then '\t' else if mark = 'n' then '\n' else if mark = 'r' then '\r' else mark

def readEscape : List Char → Option (Char × List Char)
  | [] => none
  | '\\' :: mark :: rest =>
    match codeWidth? mark with
    | some width => some (Char.ofNat (readDigits (rest.take width)), rest.drop width)
    | none => some (letterChar mark, rest)
  | c :: rest => some (c, rest)

inductive Escape (quote c : Char) : List Char → Prop
  | letter {mark : Char} (short : codeWidth? mark = none) (reads : letterChar mark = c)
      (inside : spoilsLine mark = false) : Escape quote c ['\\', mark]
  | itself (other : c ≠ '\\') (unquoted : c ≠ quote) (inside : spoilsLine c = false) :
      Escape quote c [c]
  | code {mark : Char} {width : Nat} (wide : codeWidth? mark = some width) (filled : 0 < width)
      (fits : c.toNat < 16 ^ width) (inside : spoilsLine mark = false) :
      Escape quote c ('\\' :: mark :: paddedDigits 16 width c.toNat)

theorem codeForm (quote c : Char) : Escape quote c (codeEscape c) := by
  have bound : c.toNat < 0x110000 := by
    have valid := c.valid
    simp only [UInt32.isValidChar, Nat.isValidChar] at valid
    change c.val.toNat < _
    omega
  simp only [codeEscape]
  split
  · exact .code rfl (by decide) (by omega) rfl
  · split
    · exact .code rfl (by decide) (by omega) rfl
    · exact .code rfl (by decide) (by omega) rfl

theorem escapeForm {quote : Char} (isOne : isQuote quote = true) (c : Char) :
    Escape quote c (escape quote c) := by
  unfold escape
  simp only [isQuote, Bool.or_eq_true, decide_eq_true_eq] at isOne ⊢
  by_cases quoted : c = quote
  · rw [if_pos (.inl quoted)]
    subst quoted
    rcases isOne with rfl | rfl <;> exact .letter rfl rfl rfl
  · by_cases slash : c = '\\'
    · rw [if_pos (.inr slash)]
      subst slash
      exact .letter rfl rfl rfl
    · rw [if_neg (not_or.mpr ⟨quoted, slash⟩)]
      split
      · subst c
        exact .letter rfl rfl rfl
      · split
        · subst c
          exact .letter rfl rfl rfl
        · split
          · subst c
            exact .letter rfl rfl rfl
          · split
            · have null : c ≠ '\x00' := by
                rintro rfl
                exact absurd ‹isShown _ = true› (by decide)
              exact .itself slash quoted (by simp [spoilsLine, *])
            · exact codeForm quote c

theorem readPlain {c : Char} (other : c ≠ '\\') (rest : List Char) :
    readEscape (c :: rest) = some (c, rest) := by
  rw [readEscape.eq_def]
  split
  · rename_i same
    cases same
  · rename_i same
    exact absurd (List.cons.inj same).1 other
  · rename_i same
    obtain ⟨rfl, rfl⟩ := List.cons.inj same
    rfl

theorem escapeRead {quote : Char} (isOne : isQuote quote = true) (c : Char) (rest : List Char) :
    readEscape (escape quote c ++ rest) = some (c, rest) := by
  have form := escapeForm isOne c
  generalize escape quote c = text at form
  cases form with
  | letter short reads =>
    subst reads
    simp only [List.cons_append, List.nil_append, readEscape, short]
  | itself other => exact readPlain other rest
  | code wide filled fits =>
    have size := paddedLength filled fits
    simp only [List.cons_append, readEscape, wide, List.take_left' size, List.drop_left' size,
      paddedRead, Char.ofNat_toNat]

theorem escapeCode {quote : Char} (isOne : isQuote quote = true) : IsCode (escape quote) :=
  .ofReader readEscape (escapeRead isOne)

theorem escapeApart {quote : Char} (isOne : isQuote quote = true) (c : Char) (s t : List Char) :
    escape quote c ++ s ≠ quote :: t := by
  have noSlash : '\\' ≠ quote := by
    rintro rfl
    exact absurd isOne (by decide)
  have form := escapeForm isOne c
  generalize escape quote c = text at form
  intro same
  cases form with
  | letter => exact noSlash (List.cons.inj same).1
  | itself other unquoted => exact unquoted (List.cons.inj same).1
  | code => exact noSlash (List.cons.inj same).1

theorem encodeCode : IsCode encode := by
  intro as bs s t same
  simp only [encode, List.cons_append, List.append_assoc, List.nil_append] at same
  obtain ⟨quote, body⟩ := List.cons.inj same
  rw [quote] at body
  exact (escapeCode (quoteOne bs)).closed (escapeApart (quoteOne bs)) body

/-! ### Lines -/

theorem paddedMember {width n : Nat} {d : Char} (mem : d ∈ paddedDigits 16 width n) :
    ∃ m < 16, d = Nat.digitChar m := by
  rcases List.mem_append.mp mem with zero | digit
  · exact ⟨0, by decide, List.eq_of_mem_replicate zero⟩
  · exact digitMember digit

theorem paddedInside {width n : Nat} {d : Char} (mem : d ∈ paddedDigits 16 width n) :
    spoilsLine d = false := by
  have inside : ∀ m < 16, spoilsLine (Nat.digitChar m) = false := by decide
  obtain ⟨m, small, rfl⟩ := paddedMember mem
  exact inside m small

theorem escapeInside {quote : Char} (isOne : isQuote quote = true) {c d : Char}
    (mem : d ∈ escape quote c) : spoilsLine d = false := by
  have form := escapeForm isOne c
  generalize escape quote c = text at form mem
  cases form with
  | letter short reads inside =>
    rcases List.mem_pair.mp mem with rfl | rfl
    · rfl
    · exact inside
  | itself other unquoted inside =>
    obtain rfl := List.mem_singleton.mp mem
    exact inside
  | code wide filled fits inside =>
    rcases List.mem_cons.mp mem with rfl | mem
    · rfl
    · rcases List.mem_cons.mp mem with rfl | mem
      · exact inside
      · exact paddedInside mem

theorem quoteInside {quote : Char} (isOne : isQuote quote = true) : spoilsLine quote = false := by
  simp only [isQuote, Bool.or_eq_true, decide_eq_true_eq] at isOne
  rcases isOne with rfl | rfl <;> rfl

theorem encodeInside {cs : List Char} {d : Char} (mem : d ∈ encode cs) : spoilsLine d = false := by
  rcases List.mem_append.mp mem with body | last
  · rcases List.mem_cons.mp body with rfl | inside
    · exact quoteInside (quoteOne cs)
    · obtain ⟨c, -, held⟩ := List.mem_flatMap.mp inside
      exact escapeInside (quoteOne cs) held
  · rw [List.mem_singleton.mp last]
    exact quoteInside (quoteOne cs)

end Phrasebook.Text.Quoted

namespace Phrasebook.Text

theorem quotedCode : IsCode fun s => (quoted s).toList := by
  intro a b s t same
  simp only [quoted, String.toList_ofList] at same
  obtain ⟨first, rest⟩ := Quoted.encodeCode _ _ _ _ same
  exact ⟨String.toList_inj.mp first, rest⟩

theorem quotedWhole {a b : String} (same : quoted a = quoted b) : a = b :=
  quotedCode.whole (congrArg String.toList same)

theorem quotedOpening (s : String) (rest : List Char) :
    ∃ quote later, Quoted.isQuote quote = true ∧ (quoted s).toList ++ rest = quote :: later := by
  rw [quoted, String.toList_ofList]
  exact ⟨_, _, Quoted.quoteOne s.toList, rfl⟩

end Phrasebook.Text

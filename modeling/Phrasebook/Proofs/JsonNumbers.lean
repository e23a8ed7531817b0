import Mathlib.Data.List.TakeWhile
import Mathlib.Tactic.Ring
import Phrasebook.Document
import Phrasebook.Proofs.Characters
import Phrasebook.Proofs.ValueParts

/-! Numbers in JSON documents. No integer that is read has too many digits to be written again, and the
reader breaks off only where a run of digits goes beyond that limit. -/
namespace Phrasebook

open Text Number Value

namespace Number

theorem trimClean {text : List Char} (clean : ∀ c ∈ text, isBlank c = false) :
    trim isBlank text = text := by
  have kept : ∀ cs : List Char, (∀ c ∈ cs, isBlank c = false) → cs.dropWhile isBlank = cs := by
    intro cs clean
    cases cs with
    | nil => rfl
    | cons c rest => exact List.dropWhile_cons_of_neg (by simp [clean c List.mem_cons_self])
  have reversed : ∀ c ∈ text.reverse, isBlank c = false := fun c mem => clean c (List.mem_reverse.mp mem)
  rw [trim, kept text clean, dropEnd, kept _ reversed, List.reverse_reverse]

theorem numeralBlank {c : Char} (low : 33 ≤ c.toNat) (high : c.toNat ≤ 57) : isBlank c = false := by
  simp only [isBlank, ClassTable.blanks, inRanges, Bool.and_eq_false_iff, Bool.or_eq_false_iff,
    decide_eq_false_iff_not]
  omega

theorem digitsRun {digits : List Char} (all : ∀ d ∈ digits, isAsciiDigit d = true) {started : Bool}
    (filled : started = true ∨ digits ≠ []) :
    digitRun? started digits = some (digits.map fun d => d.toNat - 48) := by
  induction digits generalizing started with
  | nil =>
    obtain rfl := filled.resolve_right (by simp)
    rfl
  | cons d rest ih =>
    obtain ⟨first, later⟩ := List.forall_mem_cons.mp all
    simp [digitRun?, asciiDecimal first, ih later (.inl rfl)]

theorem digitsBelow {digits : List Char} (all : ∀ d ∈ digits, isAsciiDigit d = true) (n : Nat) :
    (digits.map fun d => d.toNat - 48).foldl (fun n v => n * 10 + v) n <
      (n + 1) * 10 ^ digits.length := by
  induction digits generalizing n with
  | nil => simp
  | cons d rest ih =>
    obtain ⟨first, later⟩ := List.forall_mem_cons.mp all
    have small := (digitRange.mp first).2
    calc
      _ < (n * 10 + (d.toNat - 48) + 1) * 10 ^ rest.length := ih later _
      _ ≤ ((n + 1) * 10) * 10 ^ rest.length := Nat.mul_le_mul_right _ (by omega)
      _ = (n + 1) * 10 ^ (d :: rest).length := by
        rw [List.length_cons, Nat.pow_succ]
        ring

theorem numeralRead {digits : List Char} (all : ∀ d ∈ digits, isAsciiDigit d = true)
    (filled : digits ≠ []) (negative : Bool) :
    readInt? ((if negative then ['-'] else []) ++ digits) =
      if maxIntegerDigits < digits.length then none
      else some (signed negative (ofDigitValues 10 (digits.map fun d => d.toNat - 48))) := by
  have range : ∀ d ∈ digits, 48 ≤ d.toNat ∧ d.toNat ≤ 57 := fun d mem => digitRange.mp (all d mem)
  have clean : ∀ c ∈ (if negative then ['-'] else []) ++ digits, isBlank c = false := by
    intro c mem
    rcases List.mem_append.mp mem with sign | digit
    · cases negative with
      | false => simp at sign
      | true =>
        obtain rfl : c = '-' := by simpa using sign
        exact numeralBlank (by decide) (by decide)
    · exact numeralBlank (by have := range c digit; omega) (range c digit).2
  have cut : signOf ((if negative then ['-'] else []) ++ digits) = (negative, digits) := by
    cases negative with
    | true => rfl
    | false =>
      cases digits with
      | nil => exact absurd rfl filled
      | cons d rest =>
        have first := range d List.mem_cons_self
        unfold signOf
        split
        · rename_i same
          cases same
          exact absurd first (by decide)
        · rename_i same
          cases same
          exact absurd first (by decide)
        · rfl
  simp only [readInt?, trimClean clean, cut, digitsRun all (.inr filled), List.length_map]

theorem numeralShort {digits : List Char} (all : ∀ d ∈ digits, isAsciiDigit d = true)
    (short : digits.length ≤ maxIntegerDigits) (negative : Bool) :
    exceedsDigitLimit
      (signed negative (ofDigitValues 10 (digits.map fun d => d.toNat - 48))) = false := by
  have below := digitsBelow all 0
  have size : (signed negative (ofDigitValues 10 (digits.map fun d => d.toNat - 48))).natAbs =
      (digits.map fun d => d.toNat - 48).foldl (fun n v => n * 10 + v) 0 := by
    cases negative <;> simp [signed, ofDigitValues]
  rw [Nat.zero_add, Nat.one_mul] at below
  simp only [exceedsDigitLimit, size, decide_eq_false_iff_not, Nat.not_le]
  generalize maxIntegerDigits = limit at short ⊢
  exact Nat.lt_of_lt_of_le below (Nat.pow_le_pow_right (by decide) short)

end Number

namespace Json

def HoldsLongRun (text : List Char) : Prop :=
  ∃ run, run <:+: text ∧ (∀ d ∈ run, isAsciiDigit d = true) ∧ maxIntegerDigits < run.length

/-- How a reader comes out that begins at a cursor: with something good and the text behind it, with a
fault, or with a run of too many digits in the text before it. -/
inductive Reads {α : Type} (Good : α → Prop) (c : Cursor) : Except Error (α × Cursor) → Prop
  | read {a after} (good : Good a) (later : after.rest <:+ c.rest) : Reads Good c (.ok (a, after))
  | fault (fault : Fault) : Reads Good c (.error (.fault fault))
  | longInteger (run : HoldsLongRun c.rest) : Reads Good c (.error .longInteger)

section

variable {α β : Type} {Good : α → Prop} {Fine : β → Prop} {c : Cursor}

theorem advanced (c : Cursor) (n : Nat) : (c.advance n).rest <:+ c.rest := List.drop_suffix n c.rest

theorem spaceSkipped (c : Cursor) : c.skipSpace.rest <:+ c.rest := advanced c _

theorem Reads.earlier {d : Cursor} {outcome : Except Error (α × Cursor)} (reads : Reads Good d outcome)
    (later : d.rest <:+ c.rest) : Reads Good c outcome := by
  cases reads with
  | read good after => exact .read good (after.trans later)
  | fault fault => exact .fault fault
  | longInteger run =>
    obtain ⟨digits, inside, long⟩ := run
    exact .longInteger ⟨digits, inside.trans later.isInfix, long⟩

theorem Reads.bind {first : Except Error (α × Cursor)} {next : α × Cursor → Except Error (β × Cursor)}
    (head : Reads Good c first) (tail : ∀ a after, Good a → Reads Fine after (next (a, after))) :
    Reads Fine c (first >>= next) := by
  cases head with
  | read good later => exact (tail _ _ good).earlier later
  | fault fault => exact .fault fault
  | longInteger run => exact .longInteger run

theorem escapeFault {c : Cursor} {e : Error} (failed : unicodeEscape c = .error e) :
    ∃ fault, e = .fault fault := by
  unfold unicodeEscape fail at failed
  grind

theorem bodyReads (start : Nat) (read : List Char) (fuel : Nat) (c : Cursor) :
    Reads (fun _ => True) c (stringBody start read fuel c) := by
  induction fuel generalizing read c with
  | zero => exact .fault _
  | succ fuel ih =>
    unfold stringBody
    split
    · exact .fault _
    · exact .read trivial (advanced c 1)
    · split
      · rename_i failed
        obtain ⟨fault, rfl⟩ := escapeFault failed
        exact .fault fault
      · exact (ih _ _).earlier (advanced c _)
    · split
      · exact (ih _ _).earlier (advanced c 2)
      · exact .fault _
    · exact .fault _
    · split
      · exact .fault _
      · exact (ih _ _).earlier (advanced c 1)

theorem stringReads (c : Cursor) : Reads (fun _ => True) c (string c) := by
  have body := (bodyReads c.position [] (c.rest.length + 1) (c.advance 1)).earlier (advanced c 1)
  unfold string
  generalize stringBody _ _ _ _ = outcome at body ⊢
  cases body with
  | read good later => exact .read trivial later
  | fault fault => exact .fault fault
  | longInteger run => exact .longInteger run

theorem numberReads (c : Cursor) : Reads (fun v => ¬ v.Obstructed) c (number c) := by
  unfold number
  split
  rename_i negative body cut
  have sign : c.rest = (if negative then ['-'] else []) ++ body := by
    split at cut
    · cases cut
      assumption
    · cases cut
      rfl
  extract_lets whole afterWhole fraction afterFraction
  have numeral : (∀ d ∈ whole, isAsciiDigit d = true) ∧ whole <+: body := by
    unfold whole
    split
    · exact ⟨by simp [isAsciiDigit], List.prefix_append ['0'] _⟩
    · exact ⟨fun d mem => List.mem_takeWhile_imp mem, List.takeWhile_prefix _⟩
  -- Where the fraction and the exponent begin does not matter, only whether they are there.
  clear_value afterFraction fraction afterWhole whole
  obtain ⟨all, behind, rfl⟩ := numeral
  split
  · exact .fault _
  rename_i filled
  split
  rename_i exponentSign exponent _
  extract_lets used after
  have later : after.rest <:+ c.rest := advanced c used
  split
  · rename_i bare
    simp only [Bool.and_eq_true, List.isEmpty_iff] at bare
    have taken : c.rest.take used = (if negative then ['-'] else []) ++ whole := by
      have size : used = ((if negative then ['-'] else []) ++ whole).length := by
        cases negative <;> simp [used, bare, Nat.add_comm]
      rw [size, sign, ← List.append_assoc, List.take_left]
    rw [taken, numeralRead all (by simpa using filled)]
    split
    · rename_i i read
      split at read
      · simp at read
      · rename_i few
        cases read
        have short := numeralShort all (Nat.not_lt.mp few) negative
        refine .read ?_ later
        rw [otherObstructed (by simp) (by simp), intLong, short]
        exact Bool.false_ne_true
    · rename_i refused
      have many : maxIntegerDigits < whole.length := by
        by_contra few
        simp [few] at refused
      refine .longInteger ⟨whole, ?_, all, many⟩
      rw [sign]
      exact ⟨_, behind, List.append_assoc ..⟩
  · split
    · exact .read (leafObstructed trivial (by simp) (by simp)) later
    · exact .fault _

theorem wordUnobstructed : ∀ entry ∈ words, ¬ entry.2.Obstructed := by
  simp only [words, List.forall_mem_cons, List.not_mem_nil, false_imp_iff, implies_true, and_true]
  exact ⟨leafObstructed trivial (by simp) (by simp), leafObstructed trivial (by simp) (by simp),
    leafObstructed trivial (by simp) (by simp), leafObstructed trivial (by simp) (by simp),
    leafObstructed trivial (by simp) (by simp), leafObstructed trivial (by simp) (by simp)⟩

theorem wordReads {found : Value × Cursor} (known : word? c = some found) :
    Reads (fun v => ¬ v.Obstructed) c (.ok found) := by
  obtain ⟨entry, first, rfl⟩ := Option.map_eq_some_iff.mp known
  exact .read (wordUnobstructed entry (List.mem_of_find?_eq_some first)) (advanced c _)

theorem putUnobstructed {key v : Value} {entries : List (Value × Value)}
    (before : ¬ (Value.map entries).Obstructed) (name : ¬ key.HoldsLong) (held : ¬ v.Obstructed) :
    ¬ (Value.map (put key v entries)).Obstructed := by
  simp only [mapObstructed, not_exists, not_and, not_or] at before ⊢
  induction entries with
  | nil => simpa [put] using ⟨name, held⟩
  | cons entry rest ih =>
    obtain ⟨first, later⟩ := List.forall_mem_cons.mp before
    unfold put
    split
    · exact List.forall_mem_cons.mpr ⟨⟨first.1, held⟩, later⟩
    · exact List.forall_mem_cons.mpr ⟨first, ih later⟩

theorem itemsUnobstructed {v : Value} {items : List Value} (head : ¬ v.Obstructed)
    (rest : ¬ (Value.list items).Obstructed) : ¬ (Value.list (v :: items)).Obstructed := by
  rw [otherObstructed (by simp) (by simp), listLong] at rest ⊢
  rw [List.exists_mem_cons_iff]
  exact not_or.mpr ⟨fun long => head (.inl long), rest⟩

/-- The three readers that call each other. -/
structure Nested (fuel : Nat) : Prop where
  value : ∀ c, Reads (fun v => ¬ v.Obstructed) c (value fuel c)
  members : ∀ read c, ¬ (Value.map read).Obstructed →
    Reads (fun entries => ¬ (Value.map entries).Obstructed) c (members read fuel c)
  elements : ∀ c, Reads (fun items => ¬ (Value.list items).Obstructed) c (elements fuel c)

theorem nestedReads (fuel : Nat) : Nested fuel := by
  induction fuel with
  | zero => exact ⟨fun c => .fault _, fun read c _ => .fault _, fun c => .fault _⟩
  | succ fuel ih =>
    have noItem : ¬ (Value.list []).Obstructed := by
      simp [otherObstructed, listLong]
    have noEntry : ¬ (Value.map []).Obstructed := by
      simp [mapObstructed]
    constructor
    · intro c
      unfold value
      split
      · exact (stringReads c).bind fun s after _ =>
          .read (leafObstructed trivial (by simp) (by simp)) (List.suffix_refl _)
      · extract_lets inner
        have inside : inner.rest <:+ c.rest := (spaceSkipped _).trans (advanced c 1)
        split
        · exact .read noEntry ((advanced inner 1).trans inside)
        · refine ((ih.members [] inner noEntry).bind fun entries after plain => ?_).earlier inside
          exact .read plain (List.suffix_refl _)
      · extract_lets inner
        have inside : inner.rest <:+ c.rest := (spaceSkipped _).trans (advanced c 1)
        split
        · exact .read noItem ((advanced inner 1).trans inside)
        · refine ((ih.elements inner).bind fun items after plain => ?_).earlier inside
          exact .read plain (List.suffix_refl _)
      · split
        · exact wordReads ‹_›
        · exact numberReads c
    · intro read c before
      unfold members
      split
      · refine (stringReads c).bind fun name afterName _ => ?_
        dsimp only
        split
        · have opened := (spaceSkipped (afterName.skipSpace.advance 1)).trans
            ((advanced _ 1).trans (spaceSkipped afterName))
          refine ((ih.value _).bind fun v afterValue held => ?_).earlier opened
          have name := leafLong (v := .text name) trivial (by simp)
          have plain := putUnobstructed before name held
          dsimp only
          split
          · exact .read plain ((advanced _ 1).trans (spaceSkipped _))
          · have behind := (spaceSkipped (afterValue.skipSpace.advance 1)).trans
              ((advanced _ 1).trans (spaceSkipped afterValue))
            exact (ih.members _ _ plain).earlier behind
          · exact .fault _
        · exact .fault _
      · exact .fault _
    · intro c
      unfold elements
      refine (ih.value c).bind fun v afterValue head => ?_
      dsimp only
      split
      · exact .read (itemsUnobstructed head noItem) ((advanced _ 1).trans (spaceSkipped _))
      · have behind := (spaceSkipped (afterValue.skipSpace.advance 1)).trans
          ((advanced _ 1).trans (spaceSkipped afterValue))
        refine ((ih.elements _).bind fun items after rest => ?_).earlier behind
        exact .read (itemsUnobstructed head rest) (List.suffix_refl _)
      · exact .fault _

end

/-- A document that is read can be written again, integers and all; the reader breaks off only at a run of
digits beyond the limit. -/
theorem parsedNumbers (text : List Char) :
    (∀ v, parse text = .ok v → ¬ v.Obstructed) ∧ (parse text = .error .longInteger → HoldsLongRun text) := by
  have whole : Reads (fun v => ¬ v.Obstructed) ⟨0, text⟩
      (value (2 * text.length + 2) (Cursor.skipSpace ⟨0, text⟩)) :=
    ((nestedReads _).value _).earlier (spaceSkipped _)
  unfold parse
  split
  · exact ⟨fun v read => by simp [fail] at read, fun long => by simp [fail] at long⟩
  · generalize value _ _ = outcome at whole ⊢
    cases whole with
    | read good later =>
      simp only [bind, Except.bind]
      split
      · exact ⟨fun v read => by cases read; exact good, fun long => by simp at long⟩
      · exact ⟨fun v read => by simp [fail] at read, fun long => by simp [fail] at long⟩
    | fault fault => exact ⟨fun v read => by simp [bind, Except.bind] at read,
        fun long => by simp [bind, Except.bind] at long⟩
    | longInteger run => exact ⟨fun v read => by simp [bind, Except.bind] at read, fun _ => run⟩

end Json

namespace Document

variable {text : String}

theorem jsonUnobstructed {v : Value} (read : readJson text = .ok v) : ¬ v.Obstructed := by
  unfold readJson at read
  split at read
  · rename_i parsed
    cases read
    exact (Json.parsedNumbers _).1 _ parsed
  · simp at read
  · simp at read

theorem jsonBreach {breach : Breach} (broken : readJson text = .error (.breach breach)) :
    Json.HoldsLongRun text.toList := by
  unfold readJson at broken
  split at broken
  · simp at broken
  · simp at broken
  · rename_i parsed
    exact (Json.parsedNumbers _).2 parsed

end Document

end Phrasebook

import Mathlib.Data.List.TakeWhile
import Phrasebook.Proofs.TemplateGrammar
import Phrasebook.Template.Fill

/-! Filling in a template that chunks spell. The filler reads a wider grammar than the reader of
placeholders; on chunks the two agree, and every field gives way to the text of its argument. -/
namespace Phrasebook

open Text Number Template

namespace Chunk

def part : Chunk → Part
  | char c _ => .char c
  | brace c _ => .char c
  | index digits _ => .field ⟨digits, none, []⟩
  | name token _ => .field ⟨token, none, []⟩

def filled (texts : Placeholder → String) : Chunk → List Char
  | char c _ => [c]
  | brace c _ => [c]
  | index digits _ => (texts (.positional (indexOfToken digits))).toList
  | name token _ => (texts (.named (String.ofList token))).toList

theorem filledField {texts : Placeholder → String} {chunk : Chunk} {p : Placeholder}
    (stands : chunk.placeholder? = some p) : chunk.filled texts = (texts p).toList := by
  cases chunk <;> cases stands <;> rfl

theorem unmarked {c : Char} (part : (isAsciiAlnum c || c = '_') = true) :
    c ≠ '\x7b' ∧ c ≠ '\x7d' ∧ c ≠ ':' ∧ c ≠ '!' ∧ c ≠ '[' ∧ c ≠ '.' := by
  refine ⟨?_, ?_, ?_, ?_, ?_, ?_⟩ <;> rintro rfl <;> revert part <;> decide

theorem partsInside {read token : List Char}
    (clean : ∀ c ∈ token, (isAsciiAlnum c || c = '_') = true) (rest : List Char) :
    partsFrom (.name read false) (token ++ '\x7d' :: rest) =
      .field ⟨read.reverse ++ token, none, []⟩ :: partsFrom .outside rest := by
  induction token generalizing read with
  | nil => simp [partsFrom, step, stepName]
  | cons c token ih =>
    obtain ⟨head, tail⟩ := List.forall_mem_cons.mp clean
    obtain ⟨noOpen, noClose, noColon, noMark, noBracket, -⟩ := unmarked head
    have later := @ih (c :: read) tail
    simp only [List.cons_append, partsFrom, step, stepName, Bool.false_eq_true, if_false, noOpen,
      noClose, noColon, noMark, noBracket, decide_false]
    rw [later]
    simp

theorem partsField {token : List Char} (filled : token ≠ [])
    (clean : ∀ c ∈ token, (isAsciiAlnum c || c = '_') = true) (rest : List Char) :
    partsFrom .outside ('\x7b' :: (token ++ '\x7d' :: rest)) =
      .field ⟨token, none, []⟩ :: partsFrom .outside rest := by
  cases token with
  | nil => contradiction
  | cons c token =>
    obtain ⟨head, tail⟩ := List.forall_mem_cons.mp clean
    obtain ⟨noOpen, noClose, noColon, noMark, noBracket, -⟩ := unmarked head
    have later := @partsInside [c] _ tail rest
    simp only [List.cons_append, partsFrom, step, stepName, if_true, Bool.false_eq_true, if_false,
      noOpen, noClose, noColon, noMark, noBracket, decide_false]
    rw [later]
    simp

theorem partsChunk (chunk : Chunk) (rest : List Char) :
    partsFrom .outside (chunk.text ++ rest) = chunk.part :: partsFrom .outside rest := by
  cases chunk with
  | char c plain =>
    simp [text, part, partsFrom, step, notOpen plain, notClose plain]
  | brace c doubled => rcases braceIs doubled with rfl | rfl <;> simp [text, part, partsFrom, step]
  | index digits shape =>
    simpa [text, part] using partsField (indexFilled shape) (fun _ mem => indexPart shape mem) rest
  | name token shape =>
    simpa [text, part] using partsField (nameFilled shape) (fun _ mem => namePart shape mem) rest

theorem spelledParts (chunks : List Chunk) : parts (spell chunks) = chunks.map part := by
  induction chunks with
  | nil => rfl
  | cons chunk rest ih =>
    have spelled : spell (chunk :: rest) = chunk.text ++ spell rest := rfl
    rw [parts, spelled, partsChunk, List.map_cons]
    exact congrArg _ ih

theorem partInjective {a b : Chunk} (same : a.part = b.part) : a = b := by
  cases a with
  | char c plain =>
    cases b with
    | char d _ =>
      cases same
      rfl
    | brace d doubled =>
      cases same
      simp [plain] at doubled
    | index digits _ => simp [part] at same
    | name token _ => simp [part] at same
  | brace c doubled =>
    cases b with
    | char d plain =>
      cases same
      simp [plain] at doubled
    | brace d _ =>
      cases same
      rfl
    | index digits _ => simp [part] at same
    | name token _ => simp [part] at same
  | index digits shape =>
    cases b with
    | char d _ => simp [part] at same
    | brace d _ => simp [part] at same
    | index others _ =>
      cases same
      rfl
    | name token word =>
      cases same
      simp [nameNoIndex word] at shape
  | name token word =>
    cases b with
    | char d _ => simp [part] at same
    | brace d _ => simp [part] at same
    | index digits shape =>
      cases same
      simp [nameNoIndex word] at shape
    | name other _ =>
      cases same
      rfl

theorem spellInjective {a b : List Chunk} (same : spell a = spell b) : a = b := by
  refine List.map_injective_iff.mpr (fun _ _ => partInjective) ?_
  rw [← spelledParts, ← spelledParts, same]

end Chunk

namespace Template

def Arguments.supplied? (arguments : Arguments) : Placeholder → Option Value
  | .positional index => arguments.at? index
  | .named name => arguments.named? name

def Arguments.textOf (arguments : Arguments) (p : Placeholder) : String :=
  ((arguments.supplied? p).bind Value.text?).getD ""

/-- What an argument needs to be found and written: an index of machine size, and a text. -/
def Arguments.Serves (arguments : Arguments) (p : Placeholder) : Prop :=
  (∃ v text, arguments.supplied? p = some v ∧ v.text? = some text) ∧
    ∀ i, p = .positional i → i ≤ maxSize

def Numbering.IsNamed : Numbering → Prop
  | .counted _ => False
  | _ => True

theorem indexSize {digits : List Char} (shape : isIndexToken digits = true) :
    size? digits =
      if maxSize < indexOfToken digits then none else some (some (indexOfToken digits), []) := by
  simp only [isIndexToken, Bool.and_eq_true, List.all_eq_true] at shape
  have run : digits.takeWhile isDecimal = digits := by
    refine List.takeWhile_eq_self_iff.mpr fun c mem => ?_
    simp [isDecimal, asciiDecimal (shape.2 c mem)]
  have values : digits.filterMap decimalValue? = digits.map fun c => c.toNat - '0'.toNat := by
    rw [← List.filterMap_eq_map]
    exact List.filterMap_congr fun c mem => asciiDecimal (shape.2 c mem)
  have filled : digits.isEmpty = false := by simpa using shape.1
  simp only [size?, run, values, List.isEmpty_map, filled, Bool.false_eq_true, if_false,
    List.length_map, List.drop_length, indexOfToken]
  rfl

theorem selectedIndex {digits : List Char} (shape : isIndexToken digits = true)
    (small : indexOfToken digits ≤ maxSize) :
    Selector.ofChars? digits = some (.index (indexOfToken digits)) := by
  simp only [Selector.ofChars?, indexSize shape, Nat.not_lt.mpr small, if_false]

theorem unselectedIndex {digits : List Char} (shape : isIndexToken digits = true)
    (large : maxSize < indexOfToken digits) : Selector.ofChars? digits = none := by
  simp only [Selector.ofChars?, indexSize shape, large, if_true]

theorem selectedKey {token : List Char} (shape : isAsciiName token = true) :
    Selector.ofChars? token = some (.key (String.ofList token)) := by
  cases token with
  | nil => simp [isAsciiName] at shape
  | cons c rest =>
    simp only [isAsciiName, Bool.and_eq_true] at shape
    obtain ⟨ascii, noDigit⟩ := nameStart shape.1
    have run : (c :: rest).takeWhile isDecimal = [] := by
      simp [isDecimal, asciiNoDecimal ascii noDigit]
    simp [Selector.ofChars?, size?, run, ofDigitValues]

theorem wholeName {token : List Char} (clean : ∀ c ∈ token, (isAsciiAlnum c || c = '_') = true) :
    token.takeWhile (fun c => !(c = '.' || c = '[')) = token := by
  refine List.takeWhile_eq_self_iff.mpr fun c mem => ?_
  obtain ⟨-, -, -, -, noBracket, noDot⟩ := Chunk.unmarked (clean c mem)
  simp [noBracket, noDot]

theorem fetchedToken {arguments : Arguments} {numbering : Numbering} {token : List Char}
    (filled : token.isEmpty = false) (clean : ∀ c ∈ token, (isAsciiAlnum c || c = '_') = true) :
    fetch arguments numbering token =
      match Selector.ofChars? token, numbering with
      | some (.index _), .counted _ => none
      | some (.index i), _ => (arguments.at? i).map (·, .numbered)
      | some (.key name), _ => (arguments.named? name).map (·, numbering)
      | none, _ => none := by
  have whole := wholeName clean
  simp only [fetch, whole, filled, Bool.false_eq_true, if_false, List.drop_length]
  cases Selector.ofChars? token with
  | none => rfl
  | some selector =>
    cases selector with
    | key name =>
      dsimp only
      cases arguments.named? name <;> rfl
    | index i =>
      cases numbering with
      | counted next => rfl
      | undecided | numbered =>
        dsimp only
        cases arguments.at? i <;> rfl

theorem fetchedIndex {arguments : Arguments} {digits : List Char} {numbering : Numbering}
    (shape : isIndexToken digits = true) (named : numbering.IsNamed) :
    fetch arguments numbering digits =
      if indexOfToken digits ≤ maxSize then
        (arguments.at? (indexOfToken digits)).map (·, .numbered)
      else none := by
  have filled : digits.isEmpty = false := by simpa using Chunk.indexFilled shape
  rw [fetchedToken filled fun c mem => Chunk.indexPart shape mem]
  split_ifs with small
  · rw [selectedIndex shape small]
    cases numbering with
    | counted next => contradiction
    | undecided => rfl
    | numbered => rfl
  · rw [unselectedIndex shape (Nat.lt_of_not_le small)]

theorem fetchedName {arguments : Arguments} {token : List Char} {numbering : Numbering}
    (shape : isAsciiName token = true) :
    fetch arguments numbering token =
      (arguments.named? (String.ofList token)).map (·, numbering) := by
  have filled : token.isEmpty = false := by simpa using Chunk.nameFilled shape
  rw [fetchedToken filled fun c mem => Chunk.namePart shape mem, selectedKey shape]

theorem fetchedField {arguments : Arguments} {chunk : Chunk} {p : Placeholder} {numbering : Numbering}
    (stands : chunk.placeholder? = some p) (serves : arguments.Serves p) (named : numbering.IsNamed) :
    ∃ name v text later, chunk.part = .field ⟨name, none, []⟩ ∧
      fetch arguments numbering name = some (v, later) ∧ v.text? = some text ∧
      arguments.textOf p = text ∧ later.IsNamed := by
  obtain ⟨⟨v, text, found, written⟩, small⟩ := serves
  have reads : arguments.textOf p = text := by simp [Arguments.textOf, found, written]
  cases chunk with
  | char c plain => contradiction
  | brace c doubled => contradiction
  | index digits shape =>
    cases Option.some.inj stands
    have supplied : arguments.at? (indexOfToken digits) = some v := found
    have fetched : fetch arguments numbering digits = some (v, .numbered) := by
      rw [fetchedIndex shape named, if_pos (small _ rfl), supplied, Option.map_some]
    exact ⟨digits, v, text, .numbered, rfl, fetched, written, reads, trivial⟩
  | name token shape =>
    cases Option.some.inj stands
    have supplied : arguments.named? (String.ofList token) = some v := found
    have fetched : fetch arguments numbering token = some (v, numbering) := by
      rw [fetchedName shape, supplied, Option.map_some]
    exact ⟨token, v, text, numbering, rfl, fetched, written, reads, named⟩

theorem filledParts {expand arguments numbering} {chunks : List Chunk}
    (serves : ∀ p ∈ Chunk.fields chunks, Arguments.Serves arguments p)
    (named : Numbering.IsNamed numbering) :
    ∃ later, fillParts expand arguments numbering (chunks.map Chunk.part) =
      .ok (chunks.flatMap (Chunk.filled arguments.textOf), later) := by
  -- By induction on the chunks; the numbering stays one by name.
  induction chunks generalizing numbering with
  | nil => exact ⟨numbering, rfl⟩
  | cons chunk rest ih =>
    rw [Chunk.fieldsCons] at serves
    have servesRest : ∀ p ∈ Chunk.fields rest, arguments.Serves p := fun p mem =>
      serves p (List.mem_append_right _ mem)
    cases stands : chunk.placeholder? with
    | some p =>
      obtain ⟨name, v, text, next, seen, fetched, written, reads, stays⟩ :=
        fetchedField stands (serves p (by simp [stands])) named
      obtain ⟨later, filled⟩ := ih servesRest stays
      refine ⟨later, ?_⟩
      simp [seen, fillParts, fetched, convert?, formatValue, written, filled, Except.map,
        Chunk.filledField stands, reads]
    | none =>
      obtain ⟨later, filled⟩ := ih servesRest named
      refine ⟨later, ?_⟩
      cases chunk with
      | char c plain => simp [Chunk.part, fillParts, filled, Except.map, Chunk.filled]
      | brace c doubled => simp [Chunk.part, fillParts, filled, Except.map, Chunk.filled]
      | index digits shape => contradiction
      | name token shape => contradiction

theorem filledTemplate {arguments : Arguments} {template : String} {chunks : List Chunk}
    (spelled : Chunk.spell chunks = template.toList)
    (serves : ∀ p ∈ Chunk.fields chunks, arguments.Serves p) :
    fill arguments template =
      pure (String.ofList (chunks.flatMap (Chunk.filled arguments.textOf))) := by
  obtain ⟨later, filled⟩ := @filledParts (fillFrom arguments 1) arguments .undecided chunks serves
    trivial
  have text : fill? arguments template =
      .ok (String.ofList (chunks.flatMap (Chunk.filled arguments.textOf))) := by
    rw [fill?, ← spelled, maxDepth, fillFrom, Chunk.spelledParts, filled]
    rfl
  rw [fill, text]

end Template

end Phrasebook

import Phrasebook.Proofs.Substitution
import Phrasebook.Proofs.TemplateShapes

/-! What the reader of placeholders accepts, and where it stops. It accepts the grammar of chunks and
nothing else; a template outside it is told of the leftmost place that no chunk goes on from. -/
namespace Phrasebook

open Text Number

/-- No run of digits in a text has more of them than an integer may have. -/
def ShortRuns (text : List Char) : Prop :=
  ∀ run, run <:+: text → run.all isAsciiDigit = true → run.length ≤ maxIntegerDigits

theorem briefRuns {text : List Char} (brief : text.length ≤ maxIntegerDigits) : ShortRuns text :=
  fun _ inside _ => inside.length_le.trans brief

namespace Chunk

theorem chunkInside {chunks : List Chunk} {chunk : Chunk} (mem : chunk ∈ chunks) :
    chunk.text <:+: spell chunks := by
  obtain ⟨before, after, rfl⟩ := List.append_of_mem mem
  exact ⟨spell before, spell after, by simp [spell]⟩

theorem shortChunk {text : List Char} (runs : ShortRuns text) {chunk : Chunk}
    (inside : chunk.text <:+: text) : chunk.isLong = false := by
  cases chunk with
  | char | brace | name => rfl
  | index digits shape =>
    have run : digits <:+: Chunk.text (index digits shape) := ⟨['\x7b'], ['\x7d'], rfl⟩
    simp only [isIndexToken, Bool.and_eq_true] at shape
    have few := runs digits (run.trans inside) shape.2
    simpa [isLong] using few

theorem spelledShort {text : List Char} (runs : ShortRuns text) {chunks : List Chunk}
    (spelled : spell chunks = text) : ∀ chunk ∈ chunks, chunk.isLong = false :=
  fun _ mem => shortChunk runs (spelled ▸ chunkInside mem)

end Chunk

namespace Shape

theorem indexMember {ps : List Placeholder} {i : Nat} :
    i ∈ ps.filterMap indexOf? ↔ .positional i ∈ ps := by
  rw [List.mem_filterMap]
  constructor
  · intro ⟨p, mem, found⟩
    cases p with
    | positional index => exact Option.some.inj found ▸ mem
    | named name => contradiction
  · exact fun mem => ⟨_, mem, rfl⟩

theorem nameMember {ps : List Placeholder} {name : String} :
    name ∈ ps.filterMap nameOf? ↔ .named name ∈ ps := by
  rw [List.mem_filterMap]
  constructor
  · intro ⟨p, mem, found⟩
    cases p with
    | positional index => contradiction
    | named other => exact Option.some.inj found ▸ mem
  · exact fun mem => ⟨_, mem, rfl⟩

/-- What becomes of placeholders: those of one mode make a shape, those of both are refused. -/
inductive Shaped (ps : List Placeholder) : Except TemplateFault Shape → Prop
  | bare (none : ps = []) : Shaped ps (.ok noArgs)
  | positional {indices : List Nat} (some : ps ≠ []) (kept : indices.map .positional = distinct ps) :
      Shaped ps (.ok (positional indices))
  | named {names : List String} (some : ps ≠ []) (kept : names.map .named = distinct ps) :
      Shaped ps (.ok (named names))
  | mixed {i : Nat} {name : String} (index : .positional i ∈ ps) (word : .named name ∈ ps) :
      Shaped ps (.error (.mixed (.positional i) (.named name)))

theorem distinctBare {ps : List Placeholder} (bare : distinct ps = []) : ps = [] := by
  cases ps with
  | nil => rfl
  | cons p rest => simp [distinct] at bare

theorem placeholdersShaped (ps : List Placeholder) : Shaped ps (ofPlaceholders ps) := by
  simp only [ofPlaceholders]
  cases numbers : (distinct ps).filterMap indexOf? with
  | nil =>
    have kept := onlyNamed numbers
    cases words : (distinct ps).filterMap nameOf? with
    | nil => exact .bare (distinctBare (kept.symm.trans (congrArg _ words)))
    | cons name names =>
      rw [words] at kept
      exact .named (fun bare => by simp [bare, distinct] at kept) kept
  | cons i indices =>
    have index : .positional i ∈ ps := memDistinct.mp (indexMember.mp (by simp [numbers]))
    cases words : (distinct ps).filterMap nameOf? with
    | nil =>
      have kept := onlyPositional words
      rw [numbers] at kept
      exact .positional (List.ne_nil_of_mem index) kept
    | cons name names =>
      exact .mixed index (memDistinct.mp (nameMember.mp (by simp [words])))

def Mixes (ps : List Placeholder) : Prop := (∃ i, .positional i ∈ ps) ∧ ∃ name, .named name ∈ ps

theorem mixedExactly {ps : List Placeholder} :
    (∃ p n, ofPlaceholders ps = .error (.mixed p n)) ↔ Mixes ps := by
  unfold Mixes
  have shaped := placeholdersShaped ps
  generalize ofPlaceholders ps = answer at shaped
  cases shaped with
  | bare none => simp [none]
  | positional some kept =>
    have unnamed : ∀ name, .named name ∉ ps := by
      intro name mem
      simpa [← kept] using memDistinct.mpr mem
    simp [unnamed]
  | named some kept =>
    have unnumbered : ∀ i, .positional i ∉ ps := by
      intro i mem
      simpa [← kept] using memDistinct.mpr mem
    simp [unnumbered]
  | mixed index word => exact ⟨fun _ => ⟨⟨_, index⟩, ⟨_, word⟩⟩, fun _ => ⟨_, _, rfl⟩⟩

theorem shapeModes {ps : List Placeholder} {shape : Shape} (ok : ofPlaceholders ps = .ok shape) :
    (shape.mode = .noArgs ↔ ps = []) ∧ ∀ p ∈ shape.placeholders, p.mode = shape.mode := by
  have shaped := placeholdersShaped ps
  rw [ok] at shaped
  cases shaped with
  | bare none => simp [mode, placeholders, none]
  | positional some kept => simp [mode, placeholders, some, Placeholder.mode]
  | named some kept => simp [mode, placeholders, some, Placeholder.mode]

theorem spelledShape {template : String} {chunks : List Chunk}
    (short : ∀ chunk ∈ chunks, chunk.isLong = false) (spelled : Chunk.spell chunks = template.toList) :
    ofTemplate template = ofPlaceholders (Chunk.fields chunks) := by
  have read := Chunk.spelledPlaceholders short 0
  rw [spelled] at read
  rw [ofTemplate, Piece.ofTemplate, read]

/-- Where a malformed template stops to be read: chunks stand before a brace, and nothing in them is too
long. -/
theorem malformedAt {template fragment : String} {position : Option Nat}
    (refused : ofTemplate template = .error (.malformed fragment position)) :
    ∃ chunks brace more rest, template.toList = Chunk.spell chunks ++ (brace :: more ++ rest) ∧
      (∀ chunk ∈ chunks, chunk.isLong = false) ∧ isBrace brace = true ∧
      fragment = String.ofList (brace :: more) ∧ position = some (Chunk.spell chunks).length := by
  have reads := Chunk.reading 0 template.toList
  rw [ofTemplate, Piece.ofTemplate] at refused
  generalize Phrasebook.placeholders (Piece.scan .outside 0 template.toList) = found at reads refused
  cases reads with
  | accepted chunks spelled short same =>
    subst same
    obtain ⟨i, name, mixed⟩ := shapeFault refused
    contradiction
  | long chunks next rest spelled short long same =>
    subst same
    simp at refused
  | fault chunks brace more rest spelled short isOne same =>
    subst same
    simp only [Except.error.injEq, TemplateFault.malformed.injEq, Nat.zero_add] at refused
    exact ⟨chunks, brace, more, rest, spelled, short, isOne, refused.1.symm, refused.2.symm⟩

theorem malformedUnspelled {template : String} (runs : ShortRuns template.toList) :
    (∃ fragment position, ofTemplate template = .error (.malformed fragment position)) ↔
      ¬ ∃ chunks, Chunk.spell chunks = template.toList := by
  constructor
  · intro ⟨fragment, position, refused⟩ ⟨chunks, spelled⟩
    rw [spelledShape (Chunk.spelledShort runs spelled) spelled] at refused
    obtain ⟨i, name, mixed⟩ := shapeFault refused
    contradiction
  · intro unspelled
    have reads := Chunk.reading 0 template.toList
    rw [ofTemplate, Piece.ofTemplate]
    cases reads with
    | accepted chunks spelled short same => exact absurd ⟨chunks, spelled.symm⟩ unspelled
    | long chunks next rest spelled short long same =>
      have inside : next.text <:+: template.toList := ⟨Chunk.spell chunks, rest, by simp [spelled]⟩
      simp [Chunk.shortChunk runs inside] at long
    | fault chunks brace more rest spelled short isOne same =>
      rw [same]
      exact ⟨_, _, rfl⟩

/-- The reader of placeholders accepts the grammar of chunks and nothing else. A template is malformed
exactly if no chunks spell it, and it is inconsistent exactly if those that spell it hold fields of both
kinds; they are unique, and otherwise their fields are kept at their first occurrences. -/
theorem grammarDecides (template : String) (runs : ShortRuns template.toList) :
    ((∃ fragment position, ofTemplate template = .error (.malformed fragment position)) ↔
      ¬ ∃ chunks, Chunk.spell chunks = template.toList) ∧
    ((∃ p n, ofTemplate template = .error (.mixed p n)) ↔
      ∃ chunks, Chunk.spell chunks = template.toList ∧ Mixes (Chunk.fields chunks)) ∧
    ∀ chunks, Chunk.spell chunks = template.toList →
      (∀ others, Chunk.spell others = template.toList → others = chunks) ∧
      (¬ Mixes (Chunk.fields chunks) → ∃ shape, ofTemplate template = .ok shape ∧
        FirstOccurrences shape.placeholders (Chunk.fields chunks) ∧
        (shape.mode = .noArgs ↔ Chunk.fields chunks = []) ∧
        ∀ p ∈ shape.placeholders, p.mode = shape.mode) := by
  have shapes (chunks : List Chunk) (spelled : Chunk.spell chunks = template.toList) :
      ofTemplate template = ofPlaceholders (Chunk.fields chunks) :=
    spelledShape (Chunk.spelledShort runs spelled) spelled
  have malformed := malformedUnspelled runs
  refine ⟨malformed, ⟨?_, ?_⟩, ?_⟩
  · intro ⟨p, n, refused⟩
    by_cases spelled : ∃ chunks, Chunk.spell chunks = template.toList
    · obtain ⟨chunks, spelled⟩ := spelled
      rw [shapes chunks spelled] at refused
      exact ⟨chunks, spelled, mixedExactly.mp ⟨p, n, refused⟩⟩
    · obtain ⟨fragment, position, other⟩ := malformed.mpr spelled
      cases other.symm.trans refused
  · intro ⟨chunks, spelled, mixes⟩
    rw [shapes chunks spelled]
    exact mixedExactly.mpr mixes
  · intro chunks spelled
    have unique : ∀ others, Chunk.spell others = template.toList → others = chunks :=
      fun others same => Chunk.spellInjective (same.trans spelled.symm)
    refine ⟨unique, fun uniform => ?_⟩
    rw [shapes chunks spelled]
    cases answer : ofPlaceholders (Chunk.fields chunks) with
    | error fault =>
      obtain ⟨i, name, rfl⟩ := shapeFault answer
      exact absurd (mixedExactly.mp ⟨_, _, answer⟩) uniform
    | ok shape =>
      obtain ⟨bare, modes⟩ := shapeModes answer
      have kept := distinctFirst (Chunk.fields chunks)
      rw [← shapePlaceholders answer] at kept
      exact ⟨shape, rfl, kept, bare, modes⟩

def bracedTemplate : String := "\x7b\x7b\x7b10\x7d\x7d\x7d \x7b2\x7d\x7b010\x7d"

theorem bracedTemplateDecided : ShortRuns bracedTemplate.toList ∧
    ∃ shape, ofTemplate bracedTemplate = .ok shape ∧
      FirstOccurrences shape.placeholders [.positional 10, .positional 2, .positional 10] := by
  have runs : ShortRuns bracedTemplate.toList := briefRuns (by decide)
  let chunks : List Chunk := [.brace '\x7b' rfl, .index ['1', '0'] rfl, .brace '\x7d' rfl,
    .char ' ' rfl, .index ['2'] rfl, .index ['0', '1', '0'] rfl]
  have fields : Chunk.fields chunks = [.positional 10, .positional 2, .positional 10] := rfl
  obtain ⟨-, -, spelled⟩ := grammarDecides bracedTemplate runs
  obtain ⟨-, accepted⟩ := spelled chunks (by decide)
  rw [fields] at accepted
  obtain ⟨shape, ok, kept, -, -⟩ := accepted (by simp [Mixes])
  exact ⟨runs, shape, ok, kept⟩

/-- A malformed fragment stands in the template at its position and opens with a brace, and what stands
before it is spelled by chunks, so that it has no fault of its own. -/
theorem leftmostFault {template fragment : String} {position : Option Nat}
    (refused : ofTemplate template = .error (.malformed fragment position)) :
    ∃ p brace, position = some p ∧ (template.toList.drop p).take fragment.length = fragment.toList ∧
      template.toList[p]? = some brace ∧ isBrace brace = true ∧
      (∃ chunks, Chunk.spell chunks = template.toList.take p) ∧
      ∀ part place, ofTemplate (.ofList (template.toList.take p)) ≠
        .error (.malformed part place) := by
  obtain ⟨chunks, brace, more, rest, spelled, short, isOne, rfl, rfl⟩ := malformedAt refused
  have before : template.toList.take (Chunk.spell chunks).length = Chunk.spell chunks := by
    rw [spelled, List.take_left]
  refine ⟨_, brace, rfl, ?_, ?_, isOne, ⟨chunks, before.symm⟩, ?_⟩
  · rw [spelled, List.drop_left, String.toList_ofList, String.length_ofList, List.take_left]
  · rw [spelled, List.getElem?_append_right (Nat.le_refl _)]
    simp
  · intro part place again
    rw [before, spelledShape short String.toList_ofList.symm] at again
    obtain ⟨i, name, mixed⟩ := shapeFault again
    contradiction

def strayTemplate : String := "\x7b\x7b\x7b0\x7d\x7d \x7ba b\x7d"

theorem strayBraceFirst :
    ofTemplate strayTemplate = .error (.malformed "\x7d" (some 5)) ∧
    (strayTemplate.toList.drop 5).take 1 = ['\x7d'] ∧
    (∃ chunks, Chunk.spell chunks = strayTemplate.toList.take 5) ∧
    ∀ part place, ofTemplate (.ofList (strayTemplate.toList.take 5)) ≠
      .error (.malformed part place) := by
  have refused : ofTemplate strayTemplate = .error (.malformed "\x7d" (some 5)) := by decide
  obtain ⟨p, brace, same, stands, -, -, spelled, before⟩ := leftmostFault refused
  cases same
  exact ⟨refused, stands, spelled, before⟩

end Shape

end Phrasebook

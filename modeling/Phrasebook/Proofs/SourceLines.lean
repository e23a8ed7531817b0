import Phrasebook.Accessor.Source
import Phrasebook.Proofs.Consistency
import Phrasebook.Proofs.QuotedText
import Phrasebook.Proofs.TemplateShapes
import Phrasebook.Target

/-! The lines of a source. As long as the names in it are lines, each line of a source is one, so that
the text can be taken apart into its lines again. -/
namespace Phrasebook.Accessor

open Text Number Report

def Spec.lines (spec : Spec) : List String :=
  spec.head ++ spec.constants ++ spec.classHead ++ spec.descriptors.flatMap Descriptor.block

theorem sourceLines (spec : Spec) : spec.source = unlines spec.lines := rfl

theorem unlinesChars (lines : List String) :
    (unlines lines).toList = lines.flatMap fun line => line.toList ++ ['\n'] := by
  simp [unlines, List.flatMap_map]

theorem feedless {line : String} (isOne : IsLine line) :
    ∀ c ∈ line.toList, decide (c = '\n') = false := by
  intro c mem
  have plain := isOne c mem
  simp only [spoilsLine, Bool.or_eq_false_iff] at plain
  exact plain.1.1

theorem firstLineApart {a b : String} (lineA : IsLine a) (lineB : IsLine b) {s t : List String}
    (same : unlines (a :: s) = unlines (b :: t)) : a = b ∧ unlines s = unlines t := by
  have cut {line : String} (isOne : IsLine line) (rest : List String) :
      (piecesAt (· = '\n') (unlines (line :: rest)).toList).head? = some line.toList := by
    rw [unlinesChars, List.flatMap_cons, List.append_assoc, List.singleton_append,
      piecesFirst (feedless isOne) rfl]
    rfl
  have first := (cut lineA s).symm.trans (same ▸ cut lineB t)
  obtain rfl := String.toList_inj.mp (Option.some.inj first)
  have chars := congrArg String.toList same
  simp only [unlinesChars, List.flatMap_cons] at chars
  have later := List.append_cancel_left chars
  rw [← unlinesChars, ← unlinesChars] at later
  exact ⟨rfl, String.toList_inj.mp later⟩

theorem unlinesFilled (line : String) (rest : List String) : unlines [] ≠ unlines (line :: rest) := by
  intro same
  have chars := congrArg String.toList same
  simp [unlinesChars] at chars

theorem linesApart {a b : List String} (cleanA : ∀ line ∈ a, IsLine line)
    (cleanB : ∀ line ∈ b, IsLine line) (same : unlines a = unlines b) : a = b := by
  induction a generalizing b with
  | nil =>
    cases b with
    | nil => rfl
    | cons line rest => exact absurd same (unlinesFilled line rest)
  | cons line rest ih =>
    obtain ⟨headA, laterA⟩ := List.forall_mem_cons.mp cleanA
    cases b with
    | nil => exact absurd same.symm (unlinesFilled line rest)
    | cons other more =>
      obtain ⟨headB, laterB⟩ := List.forall_mem_cons.mp cleanB
      obtain ⟨rfl, tails⟩ := firstLineApart headA headB same
      rw [ih laterA laterB tails]

theorem unlinesHolds {lines : List String} (clean : ∀ line ∈ lines, IsLine line) {c : Char}
    (mem : c ∈ (unlines lines).toList) : c = '\n' ∨ spoilsLine c = false := by
  rw [unlinesChars] at mem
  obtain ⟨line, listed, inside⟩ := List.mem_flatMap.mp mem
  rcases List.mem_append.mp inside with held | last
  · exact .inr (clean line listed c held)
  · exact .inl (List.mem_singleton.mp last)

theorem unlinesNoReturn {lines : List String} (clean : ∀ line ∈ lines, IsLine line) :
    '\r' ∉ (unlines lines).toList := by
  intro mem
  rcases unlinesHolds clean mem with feed | inside
  · exact absurd feed (by decide)
  · exact absurd inside (by decide)

/-! ### What stands in a line -/

theorem natLine (n : Nat) : IsLine (natText n) := by
  refine lineHolding (p := (Char.isDigit · = true)) (by decide) (by decide) (by decide) fun c mem => ?_
  rw [natText, String.toList_ofList] at mem
  exact Nat.isDigit_of_mem_toDigits (by decide) (by decide) mem

theorem quotedLine (s : String) : IsLine (quoted s) := by
  intro c mem
  rw [quoted, String.toList_ofList] at mem
  exact Quoted.encodeInside mem

theorem docstringLine {s : String} (line : IsLine s) : IsLine (docstring s) := by
  intro c mem
  rw [docstring, String.toList_ofList] at mem
  obtain ⟨d, held, inside⟩ := List.mem_flatMap.mp mem
  split at inside
  · rcases List.mem_pair.mp inside with rfl | rfl <;> rfl
  · rw [List.mem_singleton.mp inside]
    exact line d held

theorem separatedChars (first : String) (rest : List String) :
    (commaSeparated (first :: rest)).toList =
      first.toList ++ rest.flatMap fun item => ',' :: ' ' :: item.toList := by
  unfold commaSeparated
  induction rest generalizing first with
  | nil => simp
  | cons next rest ih =>
    rw [String.intercalate_cons_cons, String.toList_append, ih]
    simp

theorem separatedLine {items : List String} (lines : ∀ item ∈ items, IsLine item) :
    IsLine (commaSeparated items) := by
  cases items with
  | nil => decide
  | cons first rest =>
    obtain ⟨head, later⟩ := List.forall_mem_cons.mp lines
    intro c mem
    rw [separatedChars] at mem
    rcases List.mem_append.mp mem with own | others
    · exact head c own
    · obtain ⟨item, listed, inside⟩ := List.mem_flatMap.mp others
      rcases List.mem_cons.mp inside with rfl | inside
      · rfl
      · rcases List.mem_cons.mp inside with rfl | inside
        · rfl
        · exact later item listed c inside

theorem tupleLine (items : List String) : IsLine (tupleLiteral items) := by
  have quotes : ∀ item ∈ items.map quoted, IsLine item := by
    intro item mem
    obtain ⟨s, -, rfl⟩ := List.mem_map.mp mem
    exact quotedLine s
  unfold tupleLiteral
  split
  · decide
  · simp +decide only [lineAppend, quotedLine, and_self]
  · simp +decide only [lineAppend, separatedLine quotes, and_self]

structure Spec.IsPlain (spec : Spec) : Prop where
  bundle : IsLine spec.bundle
  className : IsLine spec.className
  methods : ∀ d ∈ spec.descriptors, IsLine d.method
  parameters : ∀ d ∈ spec.descriptors, ∀ p ∈ d.parameters, IsLine p.name

section

variable {spec : Spec}

theorem headPlain (plain : spec.IsPlain) : ∀ line ∈ spec.head, IsLine line := by
  have count : IsLine (variantCount spec.locales) := by
    unfold variantCount
    split
    · decide
    · simp +decide only [lineAppend, natLine, and_self]
  unfold Spec.head
  cases spec.usesNamed <;>
    simp +decide only [List.forall_mem_append, List.forall_mem_cons, lineAppend, plain.bundle, count,
      if_true, if_false, and_self]

theorem constantsPlain : ∀ line ∈ spec.constants, IsLine line := by
  have directory : IsLine spec.directory := by
    unfold Spec.directory
    split
    · refine lineAppend.mpr ⟨by decide, lineJoin.mpr fun item mem => ?_⟩
      obtain ⟨part, -, rfl⟩ := List.mem_map.mp mem
      exact lineAppend.mpr ⟨by decide, quotedLine part⟩
    · simp +decide only [lineAppend, quotedLine, and_self]
  simp +decide only [Spec.constants, List.forall_mem_cons, lineAppend, quotedLine, tupleLine, directory,
    and_self]

theorem classHeadPlain (plain : spec.IsPlain) : ∀ line ∈ spec.classHead, IsLine line := by
  have keys : ∀ line ∈ spec.descriptors.map fun d => "        " ++ quoted d.key ++ ",", IsLine line := by
    intro line mem
    obtain ⟨d, -, rfl⟩ := List.mem_map.mp mem
    simp +decide only [lineAppend, quotedLine, and_self]
  refine List.forall_mem_append.mpr ⟨List.forall_mem_append.mpr ⟨?_, keys⟩, by decide⟩
  simp +decide only [List.forall_mem_cons, lineAppend, plain.bundle, plain.className, and_self]

theorem callPlain {d : Descriptor} (parameters : ∀ p ∈ d.parameters, IsLine p.name) :
    ∀ line ∈ d.call, IsLine line := by
  unfold Descriptor.call
  split
  · have entries : ∀ line ∈ d.parameters.map fun p =>
        "                " ++ quoted p.placeholder.fieldName ++ ": " ++ p.name ++ ",", IsLine line := by
      intro line mem
      obtain ⟨p, listed, rfl⟩ := List.mem_map.mp mem
      simp +decide only [lineAppend, quotedLine, parameters p listed, and_self]
    exact List.forall_mem_append.mpr ⟨List.forall_mem_append.mpr ⟨by decide, entries⟩, by decide⟩
  · have arguments : IsLine (String.join (d.parameters.map fun p => ", " ++ p.name)) := by
      refine lineJoin.mpr fun item mem => ?_
      obtain ⟨p, listed, rfl⟩ := List.mem_map.mp mem
      exact lineAppend.mpr ⟨by decide, parameters p listed⟩
    simp +decide only [List.forall_mem_cons, lineAppend, arguments, and_self]

theorem blockPlain {d : Descriptor} (method : IsLine d.method)
    (parameters : ∀ p ∈ d.parameters, IsLine p.name) : ∀ line ∈ d.block, IsLine line := by
  have typed : IsLine (String.join (d.parameters.map fun p => ", " ++ p.name ++ ": object")) := by
    refine lineJoin.mpr fun item mem => ?_
    obtain ⟨p, listed, rfl⟩ := List.mem_map.mp mem
    simp +decide only [lineAppend, parameters p listed, and_self]
  refine List.forall_mem_append.mpr ⟨?_, callPlain parameters⟩
  simp +decide only [Descriptor.signature, List.forall_mem_cons, lineAppend, method, typed, quotedLine,
    docstringLine (quotedLine _), and_self]

theorem linesPlain (plain : spec.IsPlain) : ∀ line ∈ spec.lines, IsLine line := by
  refine List.forall_mem_append.mpr ⟨List.forall_mem_append.mpr ⟨List.forall_mem_append.mpr
    ⟨headPlain plain, constantsPlain⟩, classHeadPlain plain⟩, fun line mem => ?_⟩
  obtain ⟨d, described, inside⟩ := List.mem_flatMap.mp mem
  exact blockPlain (plain.methods d described) (plain.parameters d described) line inside

end

/-! ### Names -/

theorem nameLine {name : String} (isOne : isName name = true) : IsLine name := by
  simp only [isName, Bool.and_eq_true] at isOne
  have parts : ∀ c ∈ name.toList, isNamePart c = true ∨ isNameStart c = true := by
    intro c mem
    cases chars : name.toList with
    | nil => simp [chars] at mem
    | cons first rest =>
      have shape := isOne.1
      simp only [chars, isIdentifier, Bool.and_eq_true, List.all_eq_true] at shape
      rcases List.mem_cons.mp (chars ▸ mem) with rfl | inside
      · exact .inr shape.1
      · exact .inl (shape.2 c inside)
  exact lineHolding (by decide) (by decide) (by decide) parts

theorem asciiNameLine {name : String} (shape : isAsciiName name.toList = true) : IsLine name := by
  exact lineHolding (by decide) (by decide) (by decide) fun c mem => Chunk.namePart shape mem

theorem bundleLine {bundle : String} (named : Target.isBundleName bundle = true) :
    IsLine bundle := by
  simp only [Target.isBundleName, Bool.and_eq_true, List.all_eq_true] at named
  exact lineHolding (by decide) (by decide) (by decide) named.2

theorem freshLine {taken : List String} {tries : Nat} {name : String} (line : IsLine name) :
    IsLine (freshName taken tries name) := by
  induction tries generalizing name with
  | zero => exact line
  | succ tries ih =>
    unfold freshName
    split
    · exact ih (lineAppend.mpr ⟨line, by decide⟩)
    · exact line

theorem parameterLine {used : List String} {name : String} (line : IsLine name) :
    IsLine (parameterName used name) := by
  unfold parameterName
  refine freshLine ?_
  split
  · exact lineAppend.mpr ⟨line, by decide⟩
  · exact line

theorem namedLines {used names : List String} (lines : ∀ name ∈ names, IsLine name) :
    ∀ p ∈ namedParameters used names, IsLine p.name := by
  induction names generalizing used with
  | nil => simp [namedParameters]
  | cons name rest ih =>
    obtain ⟨head, later⟩ := List.forall_mem_cons.mp lines
    exact List.forall_mem_cons.mpr ⟨parameterLine head, ih later⟩

theorem shapedNames {template : String} {shape : Shape} (read : Shape.ofTemplate template = .ok shape)
    {name : String} (named : .named name ∈ shape.placeholders) : isAsciiName name.toList = true := by
  obtain ⟨chunks, -, -, fields⟩ := Shape.shapedChunks read
  obtain ⟨chunk, -, stands⟩ := List.mem_filterMap.mp ((fields _).mpr named)
  cases chunk with
  | char | brace | index => simp [Chunk.placeholder?] at stands
  | name token shape =>
    simp only [Chunk.placeholder?, Option.some.injEq, Placeholder.named.injEq] at stands
    rw [← stands, String.toList_ofList]
    exact shape

theorem shapedParameters {template : String} {shape : Shape}
    (read : Shape.ofTemplate template = .ok shape) : ∀ p ∈ parametersOf shape, IsLine p.name := by
  cases shape with
  | noArgs => simp [parametersOf]
  | positional indices =>
    intro p mem
    obtain ⟨i, -, rfl⟩ := List.mem_map.mp mem
    exact lineAppend.mpr ⟨by decide, natLine i⟩
  | named names =>
    refine namedLines fun name mem => asciiNameLine (shapedNames read ?_)
    exact List.mem_map.mpr ⟨name, mem, rfl⟩

/-! ### Rendered sources -/

theorem renderOutcome {spec : Spec} {source : String} :
    (render spec).outcome = .ok source ↔
      '\x00' ∉ spec.source.toList ∧ spec.isWellFormed = true ∧ source = spec.source := by
  simp only [render, String.contains_char_eq, decide_eq_true_eq]
  split
  · rename_i null
    simp [null]
  · rename_i clean
    split
    · rename_i spoilt
      simp only [Bool.not_eq_true'] at spoilt
      simp [spoilt]
    · rename_i formed
      simp only [Bool.not_eq_true', Bool.not_eq_false] at formed
      constructor
      · intro ok
        obtain ⟨_, -, last⟩ := bindOutcomeOk.mp ok
        exact ⟨clean, formed, (Except.ok.inj last).symm⟩
      · rintro ⟨-, -, rfl⟩
        exact bindOutcomeOk.mpr ⟨(), rfl, rfl⟩

/-- A method as a build describes it: mode and parameters are those of its template. -/
structure Descriptor.IsShaped (d : Descriptor) (shape : Shape) : Prop where
  read : Shape.ofTemplate d.template = .ok shape
  mode : d.mode = shape.mode
  parameters : d.parameters = parametersOf shape

theorem builtShaped {options : Options} {catalogs : CatalogSet} {spec : Spec}
    (built : (build options catalogs).outcome = .ok spec) :
    ∀ d ∈ spec.descriptors, ∃ shape, d.IsShaped shape := by
  obtain ⟨shapes, passed, rfl⟩ := buildOutcome.mp built
  intro d mem
  obtain ⟨key, template, shape, held, found, rfl⟩ := describedMember.mp mem
  obtain ⟨text, holds, read⟩ := (shapeLookup passed.shaped).mp found
  obtain rfl : text = template := Option.some.inj (holds.symm.trans held)
  exact ⟨shape, read, rfl, rfl⟩

theorem builtEntries {options : Options} {catalogs : CatalogSet} {spec : Spec}
    (built : (build options catalogs).outcome = .ok spec) : spec.bundle = catalogs.bundle ∧
      spec.descriptors.map (fun d => (d.key, d.template)) = catalogs.default.messages.entries := by
  obtain ⟨shapes, passed, rfl⟩ := buildOutcome.mp built
  exact ⟨rfl, describedEntries passed.shaped⟩

theorem formedPlain {spec : Spec} (named : Target.isBundleName spec.bundle = true)
    (shaped : ∀ d ∈ spec.descriptors, ∃ shape, d.IsShaped shape) (formed : spec.isWellFormed = true) :
    spec.IsPlain := by
  simp only [Spec.isWellFormed, Bool.and_eq_true, List.all_eq_true] at formed
  refine ⟨bundleLine named, nameLine formed.1.2, fun d mem => nameLine (formed.2 d mem), ?_⟩
  intro d mem
  obtain ⟨shape, fits⟩ := shaped d mem
  rw [fits.parameters]
  exact shapedParameters fits.read

theorem plainSource {spec : Spec} (plain : spec.IsPlain) : '\x00' ∉ spec.source.toList := by
  intro null
  rcases unlinesHolds (linesPlain plain) null with feed | inside
  · exact absurd feed (by decide)
  · exact absurd inside (by decide)

theorem plainRendered {spec : Spec} (plain : spec.IsPlain) {source : String} :
    (render spec).outcome = .ok source ↔ spec.isWellFormed = true ∧ source = spec.source := by
  simp only [renderOutcome, plainSource plain, not_false_eq_true, true_and]

end Phrasebook.Accessor

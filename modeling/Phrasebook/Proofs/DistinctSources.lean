import Phrasebook.Proofs.GeneratedCalls
import Phrasebook.Proofs.SourceLines

/-! What the source of an accessor tells. Keys and templates stand in it quoted and each on a line of its
own, so that the text can be read back: two accessors with one source came from the same default
catalog. -/
namespace Phrasebook.Accessor

open Text Number

/-- The part of a descriptor that the default catalog settles. -/
def Descriptor.untranslated (d : Descriptor) : Descriptor := { d with translations := [] }

/-! ### Docstrings -/

def plainText : List Char → List Char
  | '\\' :: '"' :: rest => '"' :: plainText rest
  | c :: rest => c :: plainText rest
  | [] => []

theorem docstringOpen {cs rest : List Char} : docstringChars cs ≠ '"' :: rest := by
  cases cs with
  | nil => simp [docstringChars]
  | cons c cs =>
    by_cases quote : c = '"'
    · simp [docstringChars, quote]
    · simp [docstringChars, quote]

theorem plainDocstring (cs : List Char) : plainText (docstringChars cs) = cs := by
  induction cs with
  | nil => rfl
  | cons c cs ih =>
    have spelled : docstringChars (c :: cs) =
        (if c = '"' then ['\\', '"'] else [c]) ++ docstringChars cs := rfl
    rw [spelled]
    split
    · rename_i quote
      subst quote
      exact congrArg ('"' :: ·) ih
    · -- A backslash of the text is not taken for one that was put in: no bare quote follows it.
      have reads : plainText (c :: docstringChars cs) = c :: plainText (docstringChars cs) := by
        rw [plainText.eq_def]
        split
        · rename_i same
          exact absurd (List.cons.inj same).2 docstringOpen
        · rename_i same
          obtain ⟨rfl, rfl⟩ := List.cons.inj same
          rfl
        · rename_i same
          cases same
      exact reads.trans (congrArg (c :: ·) ih)

theorem docstringApart {a b : String} (same : docstring a = docstring b) : a = b := by
  have chars := congrArg (fun s => plainText s.toList) same
  simp only [docstring, String.toList_ofList, plainDocstring] at chars
  exact String.toList_inj.mp chars

/-! ### Tuples -/

def itemChars (item : String) : List Char := ',' :: ' ' :: (quoted item).toList

theorem itemCode : IsCode itemChars := by
  intro a b s t same
  obtain ⟨-, same⟩ := List.cons.inj same
  obtain ⟨-, same⟩ := List.cons.inj same
  exact quotedCode a b s t same

def tupleEnd : List String → List Char
  | [] => [',', ')']
  | rest => rest.flatMap itemChars ++ [')']

theorem tupleChars (first : String) (rest : List String) :
    (tupleLiteral (first :: rest)).toList = '(' :: (quoted first).toList ++ tupleEnd rest := by
  cases rest with
  | nil => simp [tupleLiteral, tupleEnd]
  | cons next rest =>
    have items : itemChars = fun item => ',' :: ' ' :: (quoted item).toList := rfl
    simp [tupleLiteral, tupleEnd, separatedChars, List.flatMap_map, items]

theorem tupleEndApart {a b : List String} (same : tupleEnd a = tupleEnd b) : a = b := by
  have apart : ∀ item s t, itemChars item ++ s ≠ ')' :: t := by simp [itemChars]
  cases a with
  | nil =>
    cases b with
    | nil => rfl
    | cons => simp [tupleEnd, itemChars] at same
  | cons =>
    cases b with
    | nil => simp [tupleEnd, itemChars] at same
    | cons => exact (itemCode.closed apart same).1

theorem tupleApart {a b : List String} (same : tupleLiteral a = tupleLiteral b) : a = b := by
  have filled : ∀ item rest, [')'] ≠ (quoted item).toList ++ rest := by
    intro item rest same
    obtain ⟨quote, later, isOne, opens⟩ := quotedOpening item rest
    obtain ⟨rfl, -⟩ := List.cons.inj (same.trans opens)
    cases isOne
  have chars := congrArg String.toList same
  cases a with
  | nil =>
    cases b with
    | nil => rfl
    | cons first rest =>
      rw [tupleChars] at chars
      exact absurd (List.cons.inj chars).2 (filled first _)
  | cons first rest =>
    cases b with
    | nil =>
      rw [tupleChars] at chars
      exact absurd (List.cons.inj chars).2.symm (filled first _)
    | cons other others =>
      rw [tupleChars, tupleChars] at chars
      obtain ⟨rfl, ends⟩ := quotedCode first other _ _ (List.cons.inj chars).2
      rw [tupleEndApart ends]

/-! ### The parts of a source -/

theorem headApart {a b : Spec} {s t : List String} (same : a.head ++ s = b.head ++ t) : s = t := by
  simp only [Spec.head, List.append_assoc] at same
  obtain ⟨-, later⟩ := List.append_inj same rfl
  -- Only the line that follows can be absent, and the next one is not like it.
  cases namedA : a.usesNamed <;> cases namedB : b.usesNamed <;> simp [namedA, namedB] at later
  · exact later
  · exact later

theorem constantsApart {a b : Spec} {s t : List String} (same : a.constants ++ s = b.constants ++ t) :
    a.bundle = b.bundle ∧ a.locales = b.locales ∧ s = t := by
  simp only [Spec.constants, List.cons_append, List.nil_append, List.cons.injEq,
    String.append_right_inj] at same
  obtain ⟨bundle, -, locales, -, -, later⟩ := same
  exact ⟨quotedWhole bundle, tupleApart locales, later⟩

def keyLine (key : String) : List String := ["        " ++ quoted key ++ ","]

theorem keyLineCode : IsCode keyLine := by
  intro a b s t same
  obtain ⟨line, rest⟩ := List.cons.inj same
  simp only [String.append_left_inj, String.append_right_inj] at line
  exact ⟨quotedWhole line, rest⟩

theorem keyLineApart (key : String) (s t : List String) : keyLine key ++ s ≠ "    )" :: t := by
  intro same
  have chars := congrArg String.toList (List.cons.inj same).1
  simp at chars

theorem classHeadApart {a b : Spec} {s t : List String} (same : a.classHead ++ s = b.classHead ++ t) :
    a.className = b.className ∧ s = t := by
  have keys (spec : Spec) : spec.descriptors.map (fun d => "        " ++ quoted d.key ++ ",") =
      spec.keys.flatMap keyLine := by
    unfold Spec.keys
    induction spec.descriptors with
    | nil => rfl
    | cons d rest ih => exact congrArg _ ih
  simp only [Spec.classHead, keys, List.append_assoc, List.cons_append, List.nil_append,
    List.cons.injEq, String.append_left_inj, String.append_right_inj] at same
  obtain ⟨className, -, -, -, -, -, -, -, -, later⟩ := same
  obtain ⟨-, ends⟩ := keyLineCode.closed keyLineApart later
  simp only [List.cons.injEq, true_and] at ends
  exact ⟨className, ends⟩

theorem blockApart {d e : Descriptor} {shape other : Shape} (fits : d.IsShaped shape)
    (fitsOther : e.IsShaped other) {s t : List String} (same : d.block ++ s = e.block ++ t) :
    d.untranslated = e.untranslated ∧ s = t := by
  simp only [Descriptor.block, List.cons_append, List.nil_append, List.cons.injEq, true_and] at same
  obtain ⟨signature, doc, ask, later⟩ := same
  simp only [String.append_left_inj, String.append_right_inj] at ask
  have key := quotedWhole ask
  simp only [key, String.append_left_inj, String.append_right_inj] at doc
  have template := quotedWhole (docstringApart doc)
  -- A template has one shape, which settles the mode and the parameters.
  obtain rfl : shape = other :=
    Except.ok.inj (fits.read.symm.trans ((congrArg _ template).trans fitsOther.read))
  have mode := fits.mode.trans fitsOther.mode.symm
  have parameters := fits.parameters.trans fitsOther.parameters.symm
  simp only [Descriptor.signature, parameters, String.append_left_inj, String.append_right_inj]
    at signature
  have call : d.call = e.call := by simp only [Descriptor.call, mode, parameters]
  rw [call] at later
  refine ⟨?_, List.append_cancel_left later⟩
  simp only [Descriptor.untranslated, key, signature, mode, parameters, template]

theorem blocksApart {ds es : List Descriptor} (shaped : ∀ d ∈ ds, ∃ shape, d.IsShaped shape)
    (shapedOther : ∀ e ∈ es, ∃ shape, e.IsShaped shape)
    (same : ds.flatMap Descriptor.block = es.flatMap Descriptor.block) :
    ds.map Descriptor.untranslated = es.map Descriptor.untranslated := by
  induction ds generalizing es with
  | nil =>
    cases es with
    | nil => rfl
    | cons e es => cases same
  | cons d ds ih =>
    cases es with
    | nil => cases same
    | cons e es =>
      obtain ⟨⟨_, fits⟩, later⟩ := List.forall_mem_cons.mp shaped
      obtain ⟨⟨_, fitsOther⟩, laterOther⟩ := List.forall_mem_cons.mp shapedOther
      rw [List.flatMap_cons, List.flatMap_cons] at same
      obtain ⟨first, rest⟩ := blockApart fits fitsOther same
      rw [List.map_cons, List.map_cons, first, ih later laterOther rest]

/-! ### Sources of builds -/

/-- The accessor of catalogs has this source when it is placed somewhere. -/
structure Renders (options : Options) (catalogs : CatalogSet) (spec : Spec) (source : String) :
    Prop where
  named : Target.isBundleName catalogs.bundle = true
  built : (build options catalogs).outcome = .ok spec
  rendered : ∃ directory isRelative,
    (render { spec with catalogDir := directory, isRelative := isRelative }).outcome = .ok source

theorem renderedLines {options : Options} {catalogs : CatalogSet} {spec : Spec} {source : String}
    (renders : Renders options catalogs spec source) :
    ∃ directory isRelative, source =
        unlines { spec with catalogDir := directory, isRelative := isRelative }.lines ∧
      ∀ line ∈ { spec with catalogDir := directory, isRelative := isRelative }.lines, IsLine line := by
  obtain ⟨directory, isRelative, rendered⟩ := renders.rendered
  have named := renders.named
  rw [← (builtEntries renders.built).1] at named
  have shaped := builtShaped renders.built
  obtain ⟨-, formed, text⟩ := renderOutcome.mp rendered
  exact ⟨directory, isRelative, text, linesPlain (formedPlain named shaped formed)⟩

/-- A source tells all of its accessor but the translations, and so the default catalog it was rendered
from. -/
theorem sourceTellsAccessor {options options' : Options} {catalogs catalogs' : CatalogSet}
    {spec spec' : Spec} {source : String} (one : Renders options catalogs spec source)
    (other : Renders options' catalogs' spec' source) :
    spec.bundle = spec'.bundle ∧ spec.className = spec'.className ∧ spec.locales = spec'.locales ∧
      spec.descriptors.map Descriptor.untranslated = spec'.descriptors.map Descriptor.untranslated ∧
      catalogs.default.messages = catalogs'.default.messages := by
  obtain ⟨_, _, text, plain⟩ := renderedLines one
  obtain ⟨_, _, textOther, plainOther⟩ := renderedLines other
  have same := linesApart plain plainOther (text.symm.trans textOther)
  simp only [Spec.lines, List.append_assoc] at same
  obtain ⟨bundle, locales, later⟩ := constantsApart (headApart same)
  obtain ⟨className, blocks⟩ := classHeadApart later
  have methods := blocksApart (builtShaped one.built) (builtShaped other.built) blocks
  refine ⟨bundle, className, locales, methods, ?_⟩
  have entries := congrArg (List.map fun d : Descriptor => (d.key, d.template)) methods
  simp only [List.map_map] at entries
  have messages := (builtEntries one.built).2.symm.trans (entries.trans (builtEntries other.built).2)
  rw [← OrderedMap.ofEntries catalogs.default.messages, messages, OrderedMap.ofEntries]

/-- The catalogs of `greetings` with a variant that translates nothing. -/
def silentGreetings : CatalogSet :=
  { greetings with variants := [{ bundle := "messages", locale := "fr", messages := .empty }] }

def silentGreeter : Spec := { greeter with descriptors := [greetMethod.untranslated] }

theorem renderedAt {options : Options} {catalogs : CatalogSet} (spec : Spec) (directory : String)
    (isRelative : Bool) (named : Target.isBundleName catalogs.bundle = true)
    (built : (build options catalogs).outcome = .ok spec) (formed : spec.isWellFormed = true) :
    (render { spec with catalogDir := directory, isRelative := isRelative }).outcome =
      .ok { spec with catalogDir := directory, isRelative := isRelative }.source := by
  refine (plainRendered ?_).mpr ⟨formed, rfl⟩
  rw [← (builtEntries built).1] at named
  have shaped := builtShaped built
  exact formedPlain named shaped formed

theorem rendersAt {options : Options} {catalogs : CatalogSet} (spec : Spec) (directory : String)
    (isRelative : Bool) (named : Target.isBundleName catalogs.bundle = true)
    (built : (build options catalogs).outcome = .ok spec) (formed : spec.isWellFormed = true) :
    Renders options catalogs spec
      { spec with catalogDir := directory, isRelative := isRelative }.source :=
  ⟨named, built, directory, isRelative, renderedAt spec directory isRelative named built formed⟩

theorem silentGreeterSource : { silentGreeter with catalogDir := "./i18n" }.source =
    { greeter with catalogDir := "i18n" }.source := by
  have lines : { silentGreeter with catalogDir := "./i18n" }.lines =
      { greeter with catalogDir := "i18n" }.lines := by decide +kernel
  rw [sourceLines, sourceLines, lines]

theorem translationsUntold :
    greeter ≠ silentGreeter ∧
    greeter.bundle = silentGreeter.bundle ∧ greeter.className = silentGreeter.className ∧
      greeter.locales = silentGreeter.locales ∧
      greeter.descriptors.map Descriptor.untranslated =
        silentGreeter.descriptors.map Descriptor.untranslated ∧
      greetings.default.messages = silentGreetings.default.messages := by
  have loud := rendersAt greeter "i18n" true (by decide) greeterBuilt (by decide +kernel)
  have built : (build {} silentGreetings).outcome = .ok silentGreeter := by decide +kernel
  have silent := rendersAt silentGreeter "./i18n" true (by decide) built (by decide +kernel)
  exact ⟨by decide, sourceTellsAccessor loud (silentGreeterSource ▸ silent)⟩

end Phrasebook.Accessor

import Phrasebook.Proofs.CatalogFiles
import Phrasebook.Proofs.JsonNumbers

/-! Texts of catalog files. A file gives messages, is refused by its format, or breaks off; its bytes, its
text and the value at the top say which. -/
namespace Phrasebook.Catalog

open Report (Breaches)

def IsYaml (suffix : String) : Prop := suffix = ".yaml" ∨ suffix = ".yml"

/-- What a text tells in the format of a suffix: nothing, or the value at its top. In YAML every value that
does not count as given tells nothing, so false, zero and an empty list do. -/
inductive Tells (text : String) : String → Option Value → Prop
  | blank (blank : isBlankText text = true) : Tells text ".json" none
  | json {v} (filled : isBlankText text = false) (read : Document.readJson text = .ok v) :
      Tells text ".json" (some v)
  | absent {suffix v} (yaml : IsYaml suffix) (read : Document.readYaml text = .ok v)
      (bare : v.isGiven = false) : Tells text suffix none
  | yaml {suffix v} (yaml : IsYaml suffix) (read : Document.readYaml text = .ok v)
      (given : v.isGiven = true) : Tells text suffix (some v)

inductive Faults (text : String) : String → Document.Fault → Prop
  | json {fault} (filled : isBlankText text = false) (read : Document.readJson text = .error fault) :
      Faults text ".json" fault
  | yaml {suffix fault} (yaml : IsYaml suffix) (read : Document.readYaml text = .error fault) :
      Faults text suffix fault

inductive Gives (text : String) : String → Prop
  | properties : Gives text ".properties"
  | nothing {suffix} (tells : Tells text suffix none) : Gives text suffix
  | map {suffix entries} (tells : Tells text suffix (some (.map entries)))
      (clear : ¬ (Value.map entries).Obstructed) : Gives text suffix

inductive Refused (text : String) : String → Prop
  | unsupported {suffix} (other : suffix ∉ Directory.usualExtensions) : Refused text suffix
  | fault {suffix fault} (faults : Faults text suffix fault)
      (known : ∀ breach, fault ≠ .breach breach) : Refused text suffix
  | other {suffix v} (tells : Tells text suffix (some v)) (noMap : ∀ entries, v ≠ .map entries) :
      Refused text suffix

/-- A text that is neither read nor refused: the reader breaks off in it, or its map has no flat form. -/
inductive Breaks (text : String) : String → Prop
  | document {suffix breach} (faults : Faults text suffix (.breach breach)) : Breaks text suffix
  | map {suffix entries} (tells : Tells text suffix (some (.map entries)))
      (obstructed : (Value.map entries).Obstructed) : Breaks text suffix

/-- A text that can be read as it is documented: every text of properties, and one in JSON or YAML that is
empty or has a map at its top. -/
inductive Documented (text : String) : String → Prop
  | properties : Documented text ".properties"
  | blank (blank : isBlankText text = true) : Documented text ".json"
  | json {entries} (filled : isBlankText text = false)
      (read : Document.readJson text = .ok (.map entries)) : Documented text ".json"
  | empty {suffix} (yaml : IsYaml suffix) (read : Document.readYaml text = .ok .null) :
      Documented text suffix
  | yaml {suffix entries} (yaml : IsYaml suffix) (read : Document.readYaml text = .ok (.map entries)) :
      Documented text suffix

/-- A text in YAML whose value is passed over, although it is there and no map. -/
def PassesOver (text suffix : String) : Prop :=
  IsYaml suffix ∧ ∃ v, Document.readYaml text = .ok v ∧ v.isGiven = false ∧ v ≠ .null ∧
    ∀ entries, v ≠ .map entries

section

variable {text suffix : String} (path : Path) (bundle : Option String)

theorem yamlSuffix (yaml : IsYaml suffix) :
    suffix ≠ ".json" ∧ suffix ≠ ".properties" ∧ (suffix = ".yaml" || suffix = ".yml") = true := by
  rcases yaml with rfl | rfl <;> decide

theorem toldRead {told : Option Value} (tells : Tells text suffix told) :
    suffix ≠ ".properties" ∧
      readStructured path bundle suffix text = .ok (told.getD (.map [])) := by
  cases tells with
  | blank blank => exact ⟨by decide, by simp [readStructured, blank]⟩
  | json filled read => exact ⟨by decide, by simp [readStructured, filled, read, Except.mapError]⟩
  | absent yaml read bare | yaml yaml read bare =>
    obtain ⟨noJson, noProperties, isYaml⟩ := yamlSuffix yaml
    refine ⟨noProperties, ?_⟩
    simp [readStructured, noJson, isYaml, Document.readYamlOrEmpty, read, bare, Except.mapError,
      Except.map]

theorem faultRead {fault : Document.Fault} (faults : Faults text suffix fault) :
    suffix ≠ ".properties" ∧
      readStructured path bundle suffix text = .error (documentFailure path bundle fault) := by
  cases faults with
  | json filled read => exact ⟨by decide, by simp [readStructured, filled, read, Except.mapError]⟩
  | yaml yaml read =>
    obtain ⟨noJson, noProperties, isYaml⟩ := yamlSuffix yaml
    refine ⟨noProperties, ?_⟩
    simp [readStructured, noJson, isYaml, Document.readYamlOrEmpty, read, Except.mapError, Except.map]

theorem givesRead (gives : Gives text suffix) :
    ∃ messages, readText path bundle suffix text = .ok messages := by
  cases gives with
  | properties => exact ⟨_, rfl⟩
  | nothing tells =>
    obtain ⟨structured, read⟩ := toldRead path bundle tells
    exact ⟨.empty, by simp only [readText, structured, read]; rfl⟩
  | @map suffix entries tells clear =>
    obtain ⟨structured, read⟩ := toldRead path bundle tells
    cases flat : flatten entries with
    | error breach => exact absurd (flatRefused.mp ⟨breach, flat⟩) clear
    | ok messages =>
      exact ⟨messages, by simp [readText, structured, read, flat, Except.mapError]⟩

theorem refusedRead (refused : Refused text suffix) :
    ∃ reason, readText path bundle suffix text = .error (formatIssue path bundle reason) := by
  cases refused with
  | unsupported other =>
    simp only [Directory.usualExtensions, List.mem_cons, List.not_mem_nil, or_false, not_or] at other
    obtain ⟨noProperties, noJson, noYaml, noYml⟩ := other
    exact ⟨.unsupported suffix, by simp [readText, readStructured, noProperties, noJson, noYaml, noYml]⟩
  | @fault fault faults known =>
    obtain ⟨structured, read⟩ := faultRead path bundle faults
    simp only [readText, structured, read, if_false]
    cases fault with
    | json reason => exact ⟨_, rfl⟩
    | yaml => exact ⟨_, rfl⟩
    | toml => exact ⟨_, rfl⟩
    | breach breach => exact absurd rfl (known breach)
  | @other v tells noMap =>
    obtain ⟨structured, read⟩ := toldRead path bundle tells
    refine ⟨.notMapping, ?_⟩
    simp only [readText, structured, read, if_false, Option.getD_some]

theorem breaksRead (breaks : Breaks text suffix) :
    Breaches (readText path bundle suffix text) := by
  cases breaks with
  | @document breach faults =>
    obtain ⟨structured, read⟩ := faultRead path bundle faults
    exact ⟨breach, by simp [readText, structured, read, documentFailure]⟩
  | @map entries tells obstructed =>
    obtain ⟨structured, read⟩ := toldRead path bundle tells
    obtain ⟨breach, flat⟩ := flatRefused.mpr obstructed
    exact ⟨breach, by simp [readText, structured, read, flat, Except.mapError]⟩

theorem toldSettles {told : Option Value} (tells : Tells text suffix told) :
    Gives text suffix ∨ Refused text suffix ∨ Breaks text suffix := by
  cases told with
  | none => exact .inl (.nothing tells)
  | some v =>
    by_cases isMap : ∃ entries, v = .map entries
    · obtain ⟨entries, rfl⟩ := isMap
      by_cases obstructed : (Value.map entries).Obstructed
      · exact .inr (.inr (.map tells obstructed))
      · exact .inl (.map tells obstructed)
    · exact .inr (.inl (.other tells (not_exists.mp isMap)))

theorem faultSettles {fault : Document.Fault} (faults : Faults text suffix fault) :
    Refused text suffix ∨ Breaks text suffix := by
  cases fault with
  | breach breach => exact .inr (.document faults)
  | json | yaml | toml => exact .inl (.fault faults (by simp))

theorem textSettles (text suffix : String) :
    Gives text suffix ∨ Refused text suffix ∨ Breaks text suffix := by
  have yamlSettles : IsYaml suffix → Gives text suffix ∨ Refused text suffix ∨ Breaks text suffix := by
    intro yaml
    cases read : Document.readYaml text with
    | error fault => exact .inr (faultSettles (.yaml yaml read))
    | ok v =>
      cases given : v.isGiven with
      | true => exact toldSettles (.yaml yaml read given)
      | false => exact toldSettles (.absent yaml read given)
  by_cases usual : suffix ∈ Directory.usualExtensions
  case neg => exact .inr (.inl (.unsupported usual))
  simp only [Directory.usualExtensions, List.mem_cons, List.not_mem_nil, or_false] at usual
  rcases usual with rfl | rfl | yaml
  · exact .inl .properties
  · cases blank : isBlankText text with
    | true => exact toldSettles (.blank blank)
    | false =>
      cases read : Document.readJson text with
      | error fault => exact .inr (faultSettles (.json blank read))
      | ok v => exact toldSettles (.json blank read)
  · exact yamlSettles yaml

theorem textAnswers :
    ((∃ messages, readText path bundle suffix text = .ok messages) ↔ Gives text suffix) ∧
    ((∃ reason, readText path bundle suffix text = .error (formatIssue path bundle reason)) ↔
      Refused text suffix) ∧
    (Breaches (readText path bundle suffix text) ↔ Breaks text suffix) := by
  have settles := textSettles text suffix
  refine ⟨⟨?_, givesRead path bundle⟩, ⟨?_, refusedRead path bundle⟩, ⟨?_, breaksRead path bundle⟩⟩
  · rintro ⟨messages, read⟩
    rcases settles with gives | refused | breaks
    · exact gives
    · obtain ⟨reason, other⟩ := refusedRead path bundle refused
      simp [read] at other
    · obtain ⟨breach, other⟩ := breaksRead path bundle breaks
      simp [read] at other
  · rintro ⟨reason, read⟩
    rcases settles with gives | refused | breaks
    · obtain ⟨messages, other⟩ := givesRead path bundle gives
      simp [read] at other
    · exact refused
    · obtain ⟨breach, other⟩ := breaksRead path bundle breaks
      simp [read, formatIssue] at other
  · rintro ⟨breach, read⟩
    rcases settles with gives | refused | breaks
    · obtain ⟨messages, other⟩ := givesRead path bundle gives
      simp [read] at other
    · obtain ⟨reason, other⟩ := refusedRead path bundle refused
      simp [read, formatIssue] at other
    · exact breaks

theorem givesUnbroken (gives : Gives text suffix) : ¬ Breaks text suffix := by
  intro breaks
  obtain ⟨messages, read⟩ := givesRead ⟨.relative, []⟩ none gives
  obtain ⟨breach, other⟩ := breaksRead ⟨.relative, []⟩ none breaks
  simp [read] at other

theorem givesDocumented :
    Gives text suffix ↔ Documented text suffix ∧ ¬ Breaks text suffix ∨ PassesOver text suffix := by
  constructor
  · intro gives
    have unbroken := givesUnbroken gives
    cases gives with
    | properties => exact .inl ⟨.properties, unbroken⟩
    | map tells _ =>
      cases tells with
      | json filled read => exact .inl ⟨.json filled read, unbroken⟩
      | yaml yaml read _ => exact .inl ⟨.yaml yaml read, unbroken⟩
    | nothing tells =>
      cases tells with
      | blank blank => exact .inl ⟨.blank blank, unbroken⟩
      | @absent suffix v yaml read bare =>
        by_cases null : v = .null
        · subst null
          exact .inl ⟨.empty yaml read, unbroken⟩
        by_cases isMap : ∃ entries, v = .map entries
        · obtain ⟨entries, rfl⟩ := isMap
          exact .inl ⟨.yaml yaml read, unbroken⟩
        · exact .inr ⟨yaml, v, read, bare, null, not_exists.mp isMap⟩
  · rintro (⟨documented, unbroken⟩ | ⟨yaml, v, read, bare, -⟩)
    · cases documented with
      | properties => exact .properties
      | blank blank => exact .nothing (.blank blank)
      | json filled read =>
        exact .map (.json filled read) fun obstructed => unbroken (.map (.json filled read) obstructed)
      | empty yaml read => exact .nothing (.absent yaml read rfl)
      | @yaml suffix entries yaml read =>
        cases given : (Value.map entries).isGiven with
        | false => exact .nothing (.absent yaml read given)
        | true =>
          have tells : Tells text suffix (some (.map entries)) := .yaml yaml read given
          exact .map tells fun obstructed => unbroken (.map tells obstructed)
    · exact .nothing (.absent yaml read bare)

theorem givenExactly : (∃ messages, readText path bundle suffix text = .ok messages) ↔
    Documented text suffix ∧ ¬ Breaks text suffix ∨ PassesOver text suffix :=
  (textAnswers path bundle).1.trans givesDocumented

theorem refusedExactly :
    (∃ reason, readText path bundle suffix text = .error (formatIssue path bundle reason)) ↔
      ¬ Documented text suffix ∧ ¬ Breaks text suffix ∧ ¬ PassesOver text suffix := by
  obtain ⟨gives, refused, breaks⟩ := @textAnswers text suffix path bundle
  constructor
  · intro refuses
    obtain ⟨reason, read⟩ := refuses
    have other : ¬ Gives text suffix := by simp [← gives, read]
    have whole : ¬ Breaks text suffix := by simp [← breaks, Breaches, read, formatIssue]
    rw [givesDocumented] at other
    exact ⟨fun documented => other (.inl ⟨documented, whole⟩), whole, fun passes => other (.inr passes)⟩
  · rintro ⟨undocumented, whole, kept⟩
    have other : ¬ Gives text suffix := by
      rw [givesDocumented]
      exact not_or.mpr ⟨fun documented => undocumented documented.1, kept⟩
    exact refused.mpr (((textSettles text suffix).resolve_left other).resolve_right whole)

/-- In JSON nothing but a number of too many digits breaks off, and properties never do. -/
theorem breaksOff (breaks : Breaks text suffix) :
    IsYaml suffix ∨ suffix = ".json" ∧ Json.HoldsLongRun text.toList := by
  cases breaks with
  | document faults =>
    cases faults with
    | json _ refused => exact .inr ⟨rfl, Document.jsonBreach refused⟩
    | yaml yaml _ => exact .inl yaml
  | map tells obstructed =>
    cases tells with
    | json _ read => exact absurd obstructed (Document.jsonUnobstructed read)
    | yaml yaml _ _ => exact .inl yaml

end

def contentText (content : ByteArray) : Except Text.Utf8.Fault String :=
  (Text.Utf8.decode content).map fun text => String.ofList (Text.unifyLineEnds text.toList)

section

variable {tree : FileTree} {path : Path} {content : ByteArray}

theorem textRead (stands : tree.stat path = .ok (.file content)) (bundle : Option String) :
    messagesOfFile tree path bundle =
      match contentText content with
      | .error fault => .error (formatIssue path bundle (.decoding fault))
      | .ok text => readText path bundle (Text.lower path.suffix) text := by
  simp only [messagesOfFile, FileTree.readText, FileTree.readBytes, stands, contentText]
  cases Text.Utf8.decode content <;> rfl

theorem fileSettles (stands : tree.stat path = .ok (.file content)) (bundle : Option String) :
    (∃ messages, messagesOfFile tree path bundle = .ok messages) ∨
    (∃ reason, messagesOfFile tree path bundle = .error (formatIssue path bundle reason)) ∨
    Breaches (messagesOfFile tree path bundle) := by
  rw [textRead stands]
  cases contentText content with
  | error fault => exact .inr (.inl ⟨_, rfl⟩)
  | ok text =>
    rcases textSettles text (Text.lower path.suffix) with gives | refused | breaks
    · exact .inl (givesRead path bundle gives)
    · exact .inr (.inl (refusedRead path bundle refused))
    · exact .inr (.inr (breaksRead path bundle breaks))

theorem fileBreaks (stands : tree.stat path = .ok (.file content)) (bundle : Option String) :
    Breaches (messagesOfFile tree path bundle) ↔
      ∃ text, contentText content = .ok text ∧ Breaks text (Text.lower path.suffix) := by
  rw [textRead stands]
  cases contentText content with
  | error fault => simp [formatIssue, Breaches]
  | ok text => simpa using (textAnswers path bundle).2.2

end

/-- A regular file is read or refused as it is documented, unless its text breaks off or is passed over: the
one is neither read nor refused, and the other is read instead of refused. -/
theorem fileRead (tree : FileTree) (path : Path) (bundle : Option String) (content : ByteArray)
    (stands : tree.stat path = .ok (.file content)) :
    ((∃ messages, messagesOfFile tree path bundle = .ok messages) ↔
      ∃ text, contentText content = .ok text ∧
        (Documented text (Text.lower path.suffix) ∧ ¬ Breaks text (Text.lower path.suffix) ∨
          PassesOver text (Text.lower path.suffix))) ∧
    ((∃ reason, messagesOfFile tree path bundle = .error (formatIssue path bundle reason)) ↔
      ∀ text, contentText content = .ok text →
        ¬ Documented text (Text.lower path.suffix) ∧ ¬ Breaks text (Text.lower path.suffix) ∧
          ¬ PassesOver text (Text.lower path.suffix)) ∧
    (Breaches (messagesOfFile tree path bundle) ↔
      ∃ text, contentText content = .ok text ∧ Breaks text (Text.lower path.suffix)) ∧
    ∀ text, Breaks text (Text.lower path.suffix) → IsYaml (Text.lower path.suffix) ∨
      Text.lower path.suffix = ".json" ∧ Json.HoldsLongRun text.toList := by
  refine ⟨?_, ?_, fileBreaks stands bundle, fun text => breaksOff⟩
  · rw [textRead stands]
    cases contentText content with
    | error fault => simp
    | ok text => simpa using givenExactly path bundle
  · rw [textRead stands]
    cases contentText content with
    | error fault =>
      simp only [reduceCtorEq, false_imp_iff, implies_true, iff_true]
      exact ⟨_, rfl⟩
    | ok text => simpa using refusedExactly path bundle

theorem listRefused :
    (FileTree.single "messages.yaml" "- a\n".toUTF8).stat ⟨.relative, ["messages.yaml"]⟩ =
      .ok (.file "- a\n".toUTF8) ∧
    messagesOfFile (.single "messages.yaml" "- a\n".toUTF8) ⟨.relative, ["messages.yaml"]⟩ none =
      .error (formatIssue ⟨.relative, ["messages.yaml"]⟩ none .notMapping) ∧
    ∀ text, contentText "- a\n".toUTF8 = .ok text → ¬ Documented text ".yaml" := by
  have stands : (FileTree.single "messages.yaml" "- a\n".toUTF8).stat ⟨.relative, ["messages.yaml"]⟩ =
      .ok (.file "- a\n".toUTF8) := by decide +kernel
  have suffix : Text.lower (Path.suffix ⟨.relative, ["messages.yaml"]⟩) = ".yaml" := by decide +kernel
  have refused : messagesOfFile (.single "messages.yaml" "- a\n".toUTF8) ⟨.relative, ["messages.yaml"]⟩ none =
      .error (formatIssue ⟨.relative, ["messages.yaml"]⟩ none .notMapping) := by decide +kernel
  have exactly := (fileRead (.single "messages.yaml" "- a\n".toUTF8) ⟨.relative, ["messages.yaml"]⟩ none
    "- a\n".toUTF8 stands).2.1.mp ⟨_, refused⟩
  rw [suffix] at exactly
  exact ⟨stands, refused, fun text decoded => (exactly text decoded).1⟩

/-- The word false as a whole document is read as an empty catalog, and a date that is on no calendar is
neither read nor refused. -/
theorem falseWordRead :
    messagesOfFile (.single "messages.yaml" "false".toUTF8) ⟨.relative, ["messages.yaml"]⟩ none = .ok .empty ∧
    messagesOfFile (.single "messages.json" "false".toUTF8) ⟨.relative, ["messages.json"]⟩ none =
      .error (formatIssue ⟨.relative, ["messages.json"]⟩ none .notMapping) ∧
    messagesOfFile (.single "messages.yaml" "since: 2024-13-45\n".toUTF8) ⟨.relative, ["messages.yaml"]⟩ none =
      .error (.breach .value) := by
  refine ⟨?_, ?_, ?_⟩ <;> decide +kernel

end Phrasebook.Catalog

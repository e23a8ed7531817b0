import Phrasebook.Proofs.RelativePaths
import Phrasebook.Proofs.TargetFaults

/-! Targets written as entries and read again. Every field of a checked target comes back as it was but the
extra entries: they are written under a name that is no field, so they come back one level deeper. -/
namespace Phrasebook.Target

open Report Text

/-- The entries of a target as a declaration would hold them. -/
def entries (t : Target) : List (Value × Value) :=
  t.toEntries.map fun entry => (.text entry.1, entry.2)

/-- A target with its extra entries one level deeper. -/
def buried (t : Target) : Target := { t with extra := [(.text "extra", .map t.extra)] }

section

variable {t : Target} {file : Option String}

theorem entriesComplete (t : Target) : Complete t.entries := by
  simp only [Complete, requiredNames, List.forall_mem_cons]
  exact ⟨rfl, rfl, rfl, by simp⟩

theorem entriesUnknown (t : Target) : unknown t.entries = [.text "extra"] := rfl

theorem extraLogged : unknownKeys [.text "extra"] = Report.record (.unknownKeys "['extra']") := by
  have literal : (Value.list [.text "extra"]).literal? = some "['extra']" := by decide +kernel
  simp [unknownKeys, Value.sorted?, literal]

theorem writtenPath {path : Path} (formed : path.IsFormed) : pathFrom none (.text path.text) = .ok path := by
  change Except.ok (Path.ofString path.text) = _
  rw [Path.textRead formed]

theorem writtenWord {word : String}
    (known : word ∈ DeclarationReason.modeNames ++ DeclarationReason.namingNames) :
    wordOf (.text word) = .ok word := by
  have lowered : ∀ word ∈ DeclarationReason.modeNames ++ DeclarationReason.namingNames,
      Text.lower word = word := by decide +kernel
  exact wordOk.mpr ⟨word, rfl, (lowered word known).symm⟩

theorem checkedWords (checked : t.check file = .ok ()) :
    isBundleName t.bundle = true ∧ t.mode ∈ DeclarationReason.modeNames ∧
      t.naming ∈ DeclarationReason.namingNames := by
  simp only [check, exceptBindOk, bundleOk, checkMode, checkNaming, guardOk, List.contains_iff_mem] at checked
  obtain ⟨name, ⟨same, named⟩, -, moded, -, spelled, -⟩ := checked
  cases same
  exact ⟨named, moded, spelled⟩

theorem okNext {α β : Type} (value : α) (next : α → Report β) :
    ofExcept (.ok value) >>= next = next value := by
  rw [bindOk (ofExceptOutcome _)]
  rfl

theorem entriesFields (source : t.sourceDir.IsFormed) (output : t.output.IsFormed)
    (checked : t.check file = .ok ()) :
    ∃ make, ofFields none t.entries = .ok make ∧ make t.bundle = t.buried := by
  obtain ⟨-, moded, spelled⟩ := checkedWords checked
  have sourceDir : pathFrom none (field t.entries "source_dir" .null) = .ok t.sourceDir := writtenPath source
  have outputFile : pathFrom none (field t.entries "output" .null) = .ok t.output := writtenPath output
  have mode : wordOf (field t.entries "mode" (.text "auto")) = .ok t.mode :=
    writtenWord (List.mem_append_left _ moded)
  have naming : wordOf (field t.entries "naming" (.text "camel")) = .ok t.naming :=
    writtenWord (List.mem_append_right _ spelled)
  simp only [ofFields, sourceDir, outputFile, mode, naming]
  exact ⟨_, rfl, rfl⟩

theorem entriesRead (source : t.sourceDir.IsFormed) (output : t.output.IsFormed)
    (checked : t.check file = .ok ()) :
    ofEntries none file t.entries = ⟨[.unknownKeys "['extra']"], .ok t.buried⟩ := by
  have bundle : bundleOf file (field t.entries "bundle" .null) = .ok t.bundle :=
    bundleOk.mpr ⟨rfl, (checkedWords checked).1⟩
  have keys : (t.entries.map Prod.fst).filter (fun key => !isField key) = [.text "extra"] := entriesUnknown t
  have again : t.buried.check file = .ok () := checked
  obtain ⟨make, made, same⟩ := entriesFields source output checked
  simp only [ofEntries, noneMissing.mpr (entriesComplete t), keys, extraLogged, made, bundle, okNext, same,
    again, Bool.not_true, Bool.false_eq_true, if_false]
  rfl

theorem buriedApart (t : Target) : t.buried ≠ t := by
  intro same
  have size := congrArg (fun t => sizeOf t.extra) same
  simp [buried] at size
  omega

end

/-- A checked target comes back from its entries with every field as it was but the extra entries, which come
back one level deeper: it is never the same target. -/
theorem extraBuried (t : Target) (file : Option String) (source : t.sourceDir.IsFormed)
    (output : t.output.IsFormed) (checked : t.check file = .ok ()) :
    ofEntries none file t.entries = ⟨[.unknownKeys "['extra']"], .ok t.buried⟩ ∧ t.buried ≠ t :=
  ⟨entriesRead source output checked, buriedApart t⟩

def storefront : Target where
  bundle := "shop.front"
  sourceDir := (Path.ofString "//srv/app").join (Path.ofString "../i18n")
  output := .ofString "/srv/app/front.py"
  mode := "named"
  className := .text "Front"
  delimiter := .text "/"
  naming := "snake"
  catalogDir := .text "i18n"
  extra := [(.text "mode", .map [(.text "extra", .null)]), (.int 3, .list [.bool true])]

theorem storefrontBuried :
    storefront.sourceDir.IsFormed ∧ storefront.output.IsFormed ∧ storefront.check none = .ok () ∧
      ofEntries none none storefront.entries =
        ⟨[.unknownKeys "['extra']"], .ok storefront.buried⟩ ∧ storefront.buried ≠ storefront := by
  have source : storefront.sourceDir.IsFormed :=
    Path.joinFormed (Path.readFormed "//srv/app") (Path.readFormed "../i18n")
  have output : storefront.output.IsFormed := Path.readFormed "/srv/app/front.py"
  have checked : storefront.check none = .ok () := by decide +kernel
  exact ⟨source, output, checked, extraBuried storefront none source output checked⟩

def flavoured : Target where
  bundle := "m"
  sourceDir := ⟨.relative, ["i18n"]⟩
  output := ⟨.relative, ["m.py"]⟩
  extra := [(.text "flavour", .text "x")]

/-- One extra entry comes back as an entry in an entry. -/
theorem flavourBuried :
    flavoured.check none = .ok () ∧
      (ofEntries none none flavoured.entries).outcome =
        .ok { flavoured with extra := [(.text "extra", .map [(.text "flavour", .text "x")])] } ∧
      (ofEntries none none flavoured.entries).outcome ≠ .ok flavoured := by
  have checked : flavoured.check none = .ok () := by decide +kernel
  have read := entriesRead (t := flavoured) (by decide) (by decide) checked
  rw [read]
  exact ⟨checked, rfl, fun same => buriedApart flavoured (Except.ok.inj same)⟩

end Phrasebook.Target

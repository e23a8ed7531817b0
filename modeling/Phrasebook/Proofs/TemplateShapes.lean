import Phrasebook.Accessor.Spec
import Phrasebook.Proofs.TemplateGrammar

/-! Shapes of templates and the parameters made from them. A variant that a build lets pass asks for no
placeholder beyond the parameters of the default template. -/
namespace Phrasebook

open Accessor

namespace Shape

theorem onlyPositional {ps : List Placeholder} (unnamed : ps.filterMap nameOf? = []) :
    (ps.filterMap indexOf?).map .positional = ps := by
  induction ps with
  | nil => rfl
  | cons p rest ih =>
    cases p with
    | positional index => simpa [indexOf?] using ih (by simpa [nameOf?] using unnamed)
    | named name => simp [nameOf?] at unnamed

theorem onlyNamed {ps : List Placeholder} (unnumbered : ps.filterMap indexOf? = []) :
    (ps.filterMap nameOf?).map .named = ps := by
  induction ps with
  | nil => rfl
  | cons p rest ih =>
    cases p with
    | positional index => simp [indexOf?] at unnumbered
    | named name => simpa [nameOf?] using ih (by simpa [indexOf?] using unnumbered)

theorem shapePlaceholders {ps : List Placeholder} {shape : Shape}
    (ok : ofPlaceholders ps = .ok shape) : shape.placeholders = distinct ps := by
  simp only [ofPlaceholders] at ok
  split at ok
  · rename_i unnumbered unnamed
    cases Except.ok.inj ok
    exact (congrArg (List.map _) unnumbered).symm.trans (onlyPositional unnamed)
  · rename_i unnamed _
    cases Except.ok.inj ok
    exact onlyPositional unnamed
  · rename_i unnumbered _
    cases Except.ok.inj ok
    exact onlyNamed unnumbered
  · contradiction

theorem orderedChunks {template : String} {shape : Shape} (ok : ofTemplate template = .ok shape) :
    ∃ chunks, Chunk.spell chunks = template.toList ∧
      shape.placeholders = distinct (Chunk.fields chunks) := by
  simp only [ofTemplate] at ok
  split at ok
  · contradiction
  · rename_i ps read
    obtain ⟨chunks, spelled, -, rfl⟩ := Chunk.acceptedChunks read
    exact ⟨chunks, spelled, shapePlaceholders ok⟩

theorem shapedChunks {template : String} {shape : Shape} (ok : ofTemplate template = .ok shape) :
    ∃ chunks, Chunk.spell chunks = template.toList ∧ shape.placeholders.Nodup ∧
      ∀ p, p ∈ Chunk.fields chunks ↔ p ∈ shape.placeholders := by
  obtain ⟨chunks, spelled, same⟩ := orderedChunks ok
  rw [same]
  exact ⟨chunks, spelled, distinctNodup _, fun p => memDistinct.symm⟩

theorem shapeFault {ps : List Placeholder} {fault : TemplateFault}
    (refused : ofPlaceholders ps = .error fault) :
    ∃ index name, fault = .mixed (.positional index) (.named name) := by
  simp only [ofPlaceholders] at refused
  split at refused
  · contradiction
  · contradiction
  · contradiction
  · cases Except.error.inj refused
    exact ⟨_, _, rfl⟩

theorem longIndexMet {template : String} :
    ofTemplate template = .error .longIndex ↔ Chunk.MeetsLongIndex template.toList := by
  rw [← @Chunk.longIndexMet 0]
  unfold ofTemplate
  cases read : Phrasebook.placeholders (Piece.ofTemplate template.toList) with
  | error fault =>
    rw [Piece.ofTemplate] at read
    simp [read]
  | ok ps =>
    rw [Piece.ofTemplate] at read
    rw [read]
    refine ⟨fun refused => ?_, fun absurdity => by contradiction⟩
    obtain ⟨_, _, mixed⟩ := shapeFault refused
    contradiction

theorem maxFold {indices : List Nat} {start : Nat} :
    start ≤ indices.foldl max start ∧ ∀ i ∈ indices, i ≤ indices.foldl max start := by
  induction indices generalizing start with
  | nil => simp
  | cons first rest ih =>
    obtain ⟨above, all⟩ := @ih (max start first)
    simp only [List.foldl_cons, List.forall_mem_cons]
    exact ⟨by omega, by omega, all⟩

theorem indexBelowArity {indices : List Nat} {i : Nat} (mem : i ∈ indices) :
    i < (positional indices).arity :=
  Nat.lt_succ_of_le (maxFold.2 i mem)

theorem parameterPlaceholders (shape : Shape) :
    (parametersOf shape).map Parameter.placeholder =
      match shape with
      | .positional indices => (List.range (positional indices).arity).map .positional
      | shape => shape.placeholders := by
  cases shape with
  | noArgs => rfl
  | positional indices => simp [parametersOf]
  | named names =>
    have all : ∀ used, (namedParameters used names).map Parameter.placeholder =
        names.map .named := by
      induction names with
      | nil => exact fun _ => rfl
      | cons name rest ih => exact fun used => by simp [namedParameters, ih]
    exact all []

theorem distinctParameters {shape : Shape} (distinct : shape.placeholders.Nodup) :
    ((parametersOf shape).map Parameter.placeholder).Nodup := by
  rw [parameterPlaceholders]
  cases shape with
  | noArgs => exact distinct
  | named names => exact distinct
  | positional indices =>
    exact List.nodup_range.map fun i j same => Placeholder.positional.inj same

theorem ownParameters {shape : Shape} {p : Placeholder} (mem : p ∈ shape.placeholders) :
    p ∈ (parametersOf shape).map Parameter.placeholder := by
  rw [parameterPlaceholders]
  cases shape with
  | noArgs => exact mem
  | named names => exact mem
  | positional indices =>
    obtain ⟨i, inside, rfl⟩ := List.mem_map.mp mem
    exact List.mem_map.mpr ⟨i, List.mem_range.mpr (indexBelowArity inside), rfl⟩

theorem coveredVariant {d v : Shape} (fits : d.mismatch? v = none) {p : Placeholder}
    (mem : p ∈ v.placeholders) : p ∈ (parametersOf d).map Parameter.placeholder := by
  rw [parameterPlaceholders]
  cases v with
  | noArgs => contradiction
  | positional indices =>
    cases d with
    | noArgs => simp [mismatch?] at fits
    | named names => simp [mismatch?] at fits
    | positional declared =>
      obtain ⟨i, inside, rfl⟩ := List.mem_map.mp mem
      refine List.mem_map.mpr ⟨i, List.mem_range.mpr ?_, rfl⟩
      by_contra beyond
      -- An index past the arity is among those that the mismatch lists.
      have listed : i ∈ (indices.filter ((positional declared).arity ≤ ·)).mergeSort :=
        List.mem_mergeSort.mpr (List.mem_filter.mpr ⟨inside, by simpa using beyond⟩)
      simp only [mismatch?] at fits
      split at fits
      · rename_i none
        exact List.ne_nil_of_mem listed (List.isEmpty_iff.mp none)
      · contradiction
  | named names =>
    cases d with
    | noArgs => simp [mismatch?] at fits
    | positional declared => simp [mismatch?] at fits
    | named declared =>
      obtain ⟨name, inside, rfl⟩ := List.mem_map.mp mem
      have declares : name ∈ declared := by
        simp only [mismatch?] at fits
        split at fits
        · rename_i none
          simpa using List.filter_eq_nil_iff.mp (List.isEmpty_iff.mp none) name inside
        · contradiction
      exact List.mem_map.mpr ⟨name, declares, rfl⟩

end Shape

end Phrasebook

import Phrasebook.Proofs.ArgumentNeeds
import Phrasebook.Proofs.GeneratedCalls

/-! Compatibility of a variant with the default template. The check that a build makes is exact: a
variant passes if and only if no call of the method can leave it unfilled. -/
namespace Phrasebook.Accessor

open OrderedMap Template

theorem coveredFits {d v : Shape} (bare : v.placeholders = [] → v = .noArgs)
    (covered : ∀ p ∈ v.placeholders, p ∈ (parametersOf d).map Parameter.placeholder) :
    d.mismatch? v = none := by
  rw [Shape.parameterPlaceholders] at covered
  cases v with
  | noArgs => cases d <;> rfl
  | positional indices =>
    cases indices with
    | nil => simp [Shape.placeholders] at bare
    | cons first rest =>
      have inside := covered (.positional first) List.mem_cons_self
      cases d with
      | noArgs => simp [Shape.placeholders] at inside
      | named names => simp [Shape.placeholders] at inside
      | positional declared =>
        have below : ∀ i ∈ first :: rest, i < (Shape.positional declared).arity := by
          intro i mem
          simpa using covered (.positional i) (List.mem_map.mpr ⟨i, mem, rfl⟩)
        have none : (first :: rest).filter ((Shape.positional declared).arity ≤ ·) = [] := by
          refine List.filter_eq_nil_iff.mpr fun i mem => ?_
          simpa using below i mem
        simp only [Shape.mismatch?, none, List.mergeSort_nil, List.isEmpty_nil, if_true]
  | named names =>
    cases names with
    | nil => simp [Shape.placeholders] at bare
    | cons first rest =>
      have inside := covered (.named first) List.mem_cons_self
      cases d with
      | noArgs => simp [Shape.placeholders] at inside
      | positional declared => simp at inside
      | named declared =>
        have declares : ∀ name ∈ first :: rest, name ∈ declared := by
          intro name mem
          simpa [Shape.placeholders] using covered (.named name) (List.mem_map.mpr ⟨name, mem, rfl⟩)
        have none : (first :: rest).filter (!declared.contains ·) = [] := by
          refine List.filter_eq_nil_iff.mpr fun name mem => ?_
          simpa using declares name mem
        simp only [Shape.mismatch?, none, List.isEmpty_nil, if_true]

theorem suppliedParameter {method : Descriptor} {shape : Shape} {arguments : List Value}
    (mode : method.mode = shape.mode) (parameters : method.parameters = parametersOf shape)
    (distinct : shape.placeholders.Nodup) (count : arguments.length = method.parameters.length)
    {p : Placeholder} {v : Value} (supplied : (method.passed arguments).supplied? p = some v) :
    p ∈ method.parameters.map Parameter.placeholder := by
  have placeholders := Shape.parameterPlaceholders shape
  have size := congrArg List.length placeholders
  rw [← parameters, List.length_map, ← count] at size
  rw [parameters, placeholders]
  rw [passedArguments mode parameters] at supplied
  cases shape with
  | noArgs =>
    have nothing : arguments = [] := List.length_eq_zero_iff.mp size
    rw [nothing] at supplied
    cases p <;> contradiction
  | positional indices =>
    cases p with
    | named name => contradiction
    | positional i =>
      have standing : arguments[i]? = some v := supplied
      have below := (List.getElem?_eq_some_iff.mp standing).1
      rw [List.length_map, List.length_range] at size
      exact List.mem_map.mpr ⟨i, List.mem_range.mpr (size ▸ below), rfl⟩
  | named names =>
    cases p with
    | positional i => contradiction
    | named name =>
      have namesDistinct : names.Nodup := List.Nodup.of_map _ distinct
      have sameCount : names.length = arguments.length := by
        simp only [List.length_map, Shape.placeholders] at size
        omega
      have member := (ofZipMember namesDistinct sameCount).mp supplied
      exact List.mem_map.mpr ⟨name, (List.of_mem_zip member).1, rfl⟩

/-- A variant is let pass exactly when every call of the method fills it, whatever it is given. -/
theorem compatibleExactly {default variant : String} {d v : Shape} (method : Descriptor)
    (readDefault : Shape.ofTemplate default = .ok d) (readVariant : Shape.ofTemplate variant = .ok v)
    (small : ∀ i ∈ d.indices, i ≤ maxSize) (mode : method.mode = d.mode)
    (parameters : method.parameters = parametersOf d) :
    d.mismatch? v = none ↔
      ∀ arguments : List Value, arguments.length = method.parameters.length →
        (∀ a ∈ arguments, ∃ text, a.text? = some text) →
        ∃ text, method.invoke variant arguments = pure text := by
  obtain ⟨-, -, distinct, -⟩ := Shape.shapedChunks readDefault
  obtain ⟨chunks, spelled, -, fields⟩ := Shape.shapedChunks readVariant
  constructor
  · intro fits arguments count written
    have sizes := Shape.smallParameters small
    rw [← parameters] at sizes
    refine ⟨_, (invokeFills method variant arguments).trans (filledTemplate spelled ?_)⟩
    intro p mem
    have covered := Shape.coveredVariant fits ((fields p).mp mem)
    rw [← parameters] at covered
    exact (servedArguments mode parameters distinct count sizes written covered).1
  · intro fills
    refine coveredFits (Shape.shapelessBare readVariant) ?_
    intro p mem
    by_contra uncovered
    -- A call with empty texts is enough: the field in question has no argument.
    let arguments := List.replicate method.parameters.length (Value.text "")
    have count : arguments.length = method.parameters.length := List.length_replicate
    have written : ∀ a ∈ arguments, ∃ text, a.text? = some text := by
      intro a inside
      exact ⟨"", by rw [List.eq_of_mem_replicate inside]; rfl⟩
    have unserved : ¬ (method.passed arguments).Serves p := by
      intro serves
      obtain ⟨⟨value, text, supplied, -⟩, -⟩ := serves
      rw [← parameters] at uncovered
      exact uncovered (suppliedParameter mode parameters distinct count supplied)
    obtain ⟨text, filled⟩ := fills arguments count written
    have refused := refusedTemplate spelled ⟨p, (fields p).mpr mem, unserved⟩
    rw [← invokeFills, filled] at refused
    have logged := congrArg Report.log refused
    contradiction

def rankMethod : Descriptor where
  key := "rank"
  method := "rank"
  mode := .positional
  parameters := parametersOf (.positional [2, 0])
  template := "\x7b2\x7d of \x7b0\x7d"
  translations := []

theorem unusedIndexPasses :
    (∀ arguments : List Value, arguments.length = 3 → (∀ a ∈ arguments, ∃ text, a.text? = some text) →
      ∃ text, rankMethod.invoke "no. \x7b1\x7d" arguments = pure text) ∧
    ¬ (∀ arguments : List Value, arguments.length = 3 → (∀ a ∈ arguments, ∃ text, a.text? = some text) →
      ∃ text, rankMethod.invoke "no. \x7b3\x7d" arguments = pure text) := by
  have readDefault : Shape.ofTemplate rankMethod.template = .ok (.positional [2, 0]) := by
    decide +kernel
  have readInside : Shape.ofTemplate "no. \x7b1\x7d" = .ok (.positional [1]) := by decide +kernel
  have readBeyond : Shape.ofTemplate "no. \x7b3\x7d" = .ok (.positional [3]) := by decide +kernel
  have small : ∀ i ∈ (Shape.positional [2, 0]).indices, i ≤ maxSize := by decide
  have inside := compatibleExactly rankMethod readDefault readInside small rfl rfl
  have beyond := compatibleExactly rankMethod readDefault readBeyond small rfl rfl
  exact ⟨inside.mp (by decide +kernel), mt beyond.mpr (by decide +kernel)⟩

end Phrasebook.Accessor

import Mathlib.Data.List.Chain
import Mathlib.Data.List.Induction
import Phrasebook.Proofs.LocaleTags

/-! Fallback chains of tags. A chain loses one subtag at a time, and what follows a tag in it is the chain of
that tag, so that locales can share the variants they fall back to. -/
namespace Phrasebook.Locale

open Text

/-- A tag without its last subtag. A language alone leaves the default locale. -/
def broader (tag : String) : String := tagText (subtags tag.toList).dropLast

/-- The chain of a tag: where it starts and ends, what its tags are, and how each leads to the next. -/
structure IsChainOf (tag : String) (chain : List String) : Prop where
  head : chain.head? = some (normalize (some tag))
  count : chain.length = (subtags tag.toList).length + 1
  last : chain.getLast? = some ""
  shaped : ∀ general ∈ chain.dropLast, isTag general = true ∧ normalize (some general) = general
  steps : chain.IsChain fun longer shorter => shorter = broader longer
  suffixes : ∀ i general, chain[i]? = some general → fallbackChain (some general) = chain.drop i

theorem Settled.before {parts : List (List Char)} {last : List Char}
    (settled : Settled (parts ++ [last])) : Settled parts := by
  have taken := normalizedTake (parts ++ [last]) parts.length
  rw [settled.fixed, List.take_left] at taken
  cases parts with
  | nil => exact ⟨by simp [WellCut], rfl, by simp, by simp⟩
  | cons language rest =>
    exact ⟨fun part mem => settled.cut part (List.mem_append_left _ mem), taken, settled.language,
      fun part mem => settled.shaped part (List.mem_append_left _ mem)⟩

theorem chainSnoc (parts : List (List Char)) (last : List Char) :
    chainOf (parts ++ [last]) = tagText (parts ++ [last]) :: chainOf parts := by
  rw [chainOf, generalizationsSnoc, List.map_cons, List.cons_append, chainOf, tagText]

theorem settledChain {parts : List (List Char)} (settled : Settled parts) :
    IsChainOf (tagText parts) (chainOf parts) := by
  induction parts using List.reverseRecOn with
  | nil =>
    refine ⟨by decide, by decide, rfl, by simp [chainOf, generalizations], .singleton _, ?_⟩
    intro i general found
    cases i with
    | zero => cases found; decide
    | succ i => contradiction
  | append_singleton parts last ih =>
    have below := ih settled.before
    obtain ⟨cut, spelled⟩ := settled.text
    obtain ⟨cutBelow, spelledBelow⟩ := settled.before.text
    have step : tagText parts = broader (tagText (parts ++ [last])) := by
      rw [broader, cut, List.dropLast_concat]
    have filled : chainOf parts ≠ [] := List.concat_ne_nil _ _
    rw [chainSnoc]
    constructor
    case head => exact congrArg some spelled.symm
    case count => rw [List.length_cons, below.count, cutBelow, cut, List.length_append, List.length_singleton]
    case last => rw [List.getLast?_cons, below.last, Option.getD_some]
    case shaped =>
      rw [List.dropLast_cons_of_ne_nil filled]
      exact List.forall_mem_cons.mpr ⟨⟨settled.shape (by simp), spelled⟩, below.shaped⟩
    case steps =>
      refine List.isChain_cons.mpr ⟨fun shorter mem => ?_, below.steps⟩
      rw [below.head, spelledBelow] at mem
      cases mem
      exact step
    case suffixes =>
      intro i general found
      cases i with
      | zero =>
        cases found
        rw [chainParts, Option.getD_some, cut, settled.fixed, chainSnoc, List.drop_zero]
      | succ i => exact below.suffixes i general found

/-- The chain of a tag has one tag for each of its subtags and the default locale at the end. All of them are
tags in the spelling that stands, and each is followed by its own chain. -/
theorem chainCoherent {tag : String} (shape : isTag tag = true) :
    IsChainOf tag (fallbackChain (some tag)) := by
  have settled := tagSettled shape
  have chain := settledChain settled
  have size : (normalizeParts (subtags tag.toList)).length = (subtags tag.toList).length := by
    cases subtags tag.toList <;> simp [normalizeParts]
  rw [chainParts, Option.getD_some]
  refine { chain with head := ?_, count := ?_ }
  · rw [chain.head, settled.text.2]
    rfl
  · rw [chain.count, settled.text.1, size]

theorem taiwanChain : isTag "ZH-hant-tw" = true ∧
    fallbackChain (some "ZH-hant-tw") = ["zh_Hant_TW", "zh_Hant", "zh", ""] ∧
    IsChainOf "ZH-hant-tw" (fallbackChain (some "ZH-hant-tw")) := by
  have shape : isTag "ZH-hant-tw" = true := by decide
  exact ⟨shape, by decide +kernel, chainCoherent shape⟩

end Phrasebook.Locale

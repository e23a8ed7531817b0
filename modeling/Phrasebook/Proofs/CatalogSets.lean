import Mathlib.Data.List.Forall2
import Phrasebook.Catalog.Source
import Phrasebook.Proofs.Outcome

/-! What a set of catalogs is loaded from. The default catalog has to be found; a variant stands in the
set exactly when its locale is listed and found. -/
namespace Phrasebook.Source

open Report

variable {source : Source} {bundle : String}

theorem loadOutcome {locale : String} {catalog : Catalog} :
    (source.load bundle locale).outcome = .ok catalog ↔
      (source.find bundle locale).outcome = .ok (some catalog) := by
  simp only [load, bindOutcomeOk]
  constructor
  · rintro ⟨found, first, last⟩
    cases found with
    | none => simp at last
    | some other =>
      obtain rfl : other = catalog := by simpa using last
      exact first
  · exact fun found => ⟨some catalog, found, rfl⟩

def Answers (source : Source) (bundle : String) (locales : List String)
    (found : List (Option Catalog)) : Prop :=
  List.Forall₂ (fun locale answer => (source.find bundle locale).outcome = .ok answer) locales found

theorem findAllOutcome {locales : List String} {variants : List Catalog} :
    (source.findAll bundle locales).outcome = .ok variants ↔
      ∃ found, Answers source bundle locales found ∧ variants = found.flatMap Option.toList := by
  induction locales generalizing variants with
  | nil => simp [findAll, Answers, eq_comm]
  | cons locale rest ih =>
    simp only [findAll, bindOutcomeOk, ih, Answers, List.forall₂_cons_left_iff]
    constructor
    · rintro ⟨answer, first, others, ⟨found, later, rfl⟩, last⟩
      refine ⟨answer :: found, ⟨answer, found, first, later, rfl⟩, ?_⟩
      simpa using (Except.ok.inj last).symm
    · rintro ⟨_, ⟨answer, found, first, later, rfl⟩, rfl⟩
      exact ⟨answer, first, _, ⟨found, later, rfl⟩, rfl⟩

theorem loadSetOutcome {set : CatalogSet} :
    (source.loadSet bundle).outcome = .ok set ↔
      (source.find bundle "").outcome = .ok (some set.default) ∧ set.bundle = bundle ∧
        ∃ locales found, (source.locales bundle).outcome = .ok locales ∧
          Answers source bundle locales found ∧ set.variants = found.flatMap Option.toList := by
  simp only [loadSet, bindOutcomeOk, loadOutcome, findAllOutcome]
  constructor
  · rintro ⟨default, first, locales, listed, variants, ⟨found, answers, rfl⟩, -, -, last⟩
    cases Except.ok.inj last
    exact ⟨first, rfl, locales, found, listed, answers, rfl⟩
  · rintro ⟨first, named, locales, found, listed, answers, same⟩
    obtain ⟨name, default, variants⟩ := set
    simp only at first named same
    subst named same
    exact ⟨default, first, locales, listed, _, ⟨found, answers, rfl⟩, (), rfl, rfl⟩

theorem answerLoaded {locales : List String} {found : List (Option Catalog)}
    (answers : Answers source bundle locales found) {locale : String} (listed : locale ∈ locales) :
    ∃ answer, (source.find bundle locale).outcome = .ok answer ∧
      ∀ catalog, answer = some catalog → catalog ∈ found.flatMap Option.toList := by
  induction answers with
  | nil => contradiction
  | @cons first answer rest found head later ih =>
    rcases List.mem_cons.mp listed with rfl | inside
    · exact ⟨answer, head, fun catalog same => by simp [same]⟩
    · obtain ⟨other, outcome, member⟩ := ih inside
      exact ⟨other, outcome, fun catalog same =>
        List.mem_append_right _ (member catalog same)⟩

end Phrasebook.Source

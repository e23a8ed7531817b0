/-! Codes: ways to spell items so that the first item of a text can be told from what follows. A run of
items is told apart as well, if a mark that begins no item ends it. -/
namespace Phrasebook

variable {α β : Type}

def IsCode (spell : α → List β) : Prop :=
  ∀ (a b : α) (s t : List β), spell a ++ s = spell b ++ t → a = b ∧ s = t

namespace IsCode

theorem ofReader {spell : α → List β} (read : List β → Option (α × List β))
    (reads : ∀ a rest, read (spell a ++ rest) = some (a, rest)) : IsCode spell := by
  intro a b s t same
  have answers := congrArg read same
  rw [reads, reads] at answers
  exact Prod.mk.inj (Option.some.inj answers)

variable {spell : α → List β}

theorem whole (code : IsCode spell) {a b : α} (same : spell a = spell b) : a = b :=
  (code a b [] [] (by rw [same])).1

theorem closed (code : IsCode spell) {mark : β} (apart : ∀ a s t, spell a ++ s ≠ mark :: t)
    {as bs : List α} {s t : List β}
    (same : as.flatMap spell ++ mark :: s = bs.flatMap spell ++ mark :: t) : as = bs ∧ s = t := by
  induction as generalizing bs with
  | nil =>
    cases bs with
    | nil => exact ⟨rfl, (List.cons.inj same).2⟩
    | cons b bs =>
      rw [List.flatMap_cons, List.append_assoc] at same
      exact absurd same.symm (apart b _ _)
  | cons a as ih =>
    cases bs with
    | nil =>
      rw [List.flatMap_cons, List.append_assoc] at same
      exact absurd same (apart a _ _)
    | cons b bs =>
      rw [List.flatMap_cons, List.flatMap_cons, List.append_assoc, List.append_assoc] at same
      obtain ⟨rfl, later⟩ := code a b _ _ same
      obtain ⟨rfl, rest⟩ := ih later
      exact ⟨rfl, rest⟩

end IsCode

end Phrasebook

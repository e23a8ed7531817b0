import Phrasebook.Text.Split

/-! Pieces of a text and texts joined from pieces. Cutting takes apart what joining puts together, as
long as no piece holds a character to cut at. -/
namespace Phrasebook.Text

variable {p : Char → Bool}

theorem piecesFirst {piece : List Char} (clean : ∀ c ∈ piece, p c = false) {mark : Char}
    (cuts : p mark = true) (rest : List Char) :
    piecesAt p (piece ++ mark :: rest) = piece :: piecesAt p rest := by
  induction piece with
  | nil => simp [piecesAt, cuts]
  | cons c piece ih =>
    obtain ⟨keeps, later⟩ := List.forall_mem_cons.mp clean
    simp [piecesAt, keeps, ih later, consHead]

theorem piecesWhole {piece : List Char} (clean : ∀ c ∈ piece, p c = false) :
    piecesAt p piece = [piece] := by
  induction piece with
  | nil => rfl
  | cons c piece ih =>
    obtain ⟨keeps, later⟩ := List.forall_mem_cons.mp clean
    simp [piecesAt, keeps, ih later, consHead]

theorem piecesJoined {mark : Char} (cuts : p mark = true) {parts : List (List Char)}
    (filled : parts ≠ []) (clean : ∀ part ∈ parts, ∀ c ∈ part, p c = false) :
    piecesAt p (joined [mark] parts) = parts := by
  induction parts with
  | nil => contradiction
  | cons part rest ih =>
    obtain ⟨head, later⟩ := List.forall_mem_cons.mp clean
    cases rest with
    | nil => exact piecesWhole head
    | cons next rest =>
      have spelled : joined [mark] (part :: next :: rest) =
          part ++ mark :: joined [mark] (next :: rest) := by simp [joined]
      rw [spelled, piecesFirst head cuts, ih (by simp) later]

theorem joinedText (separator : String) (parts : List String) :
    (separator.intercalate parts).toList = joined separator.toList (parts.map String.toList) := by
  induction parts with
  | nil => rfl
  | cons part rest ih =>
    cases rest with
    | nil => simp [joined]
    | cons next rest =>
      rw [String.intercalate_cons_cons, String.toList_append, String.toList_append, ih]
      simp [joined]

theorem piecesFilled (text : List Char) : piecesAt p text ≠ [] := by
  cases text with
  | nil => simp [piecesAt]
  | cons c rest =>
    simp only [piecesAt]
    split
    · simp
    · cases piecesAt p rest <;> simp [consHead]

theorem piecesEnd {tail : List Char} (clean : ∀ c ∈ tail, p c = false) (text : List Char) :
    ∃ before last, piecesAt p (text ++ tail) = before ++ [last ++ tail] := by
  induction text with
  | nil => exact ⟨[], [], piecesWhole clean⟩
  | cons c rest ih =>
    obtain ⟨before, last, pieces⟩ := ih
    cases cuts : p c with
    | true => exact ⟨[] :: before, last, by simp [piecesAt, cuts, pieces]⟩
    | false =>
      have step : piecesAt p (c :: rest ++ tail) = consHead c (piecesAt p (rest ++ tail)) := by
        simp [piecesAt, cuts]
      rw [step, pieces]
      cases before with
      | nil => exact ⟨[], c :: last, rfl⟩
      | cons first more => exact ⟨(c :: first) :: more, last, rfl⟩

theorem consHeadMember {c : Char} {parts : List (List Char)} {part : List Char}
    (mem : part ∈ consHead c parts) :
    part = [c] ∨ part ∈ parts ∨ ∃ rest ∈ parts, part = c :: rest := by
  cases parts with
  | nil => exact .inl (by simpa [consHead] using mem)
  | cons first rest =>
    rcases List.mem_cons.mp mem with rfl | later
    · exact .inr (.inr ⟨first, by simp, rfl⟩)
    · exact .inr (.inl (List.mem_cons_of_mem _ later))

theorem piecesClean {text part : List Char} (mem : part ∈ piecesAt p text) :
    ∀ c ∈ part, p c = false := by
  induction text generalizing part with
  | nil =>
    obtain rfl : part = [] := by simpa [piecesAt] using mem
    simp
  | cons c rest ih =>
    simp only [piecesAt] at mem
    split at mem
    · rcases List.mem_cons.mp mem with rfl | later
      · simp
      · exact ih later
    · rename_i keeps
      have first : p c = false := by simpa using keeps
      rcases consHeadMember mem with rfl | later | ⟨tail, inside, rfl⟩
      · simpa using first
      · exact ih later
      · exact List.forall_mem_cons.mpr ⟨first, ih inside⟩

theorem pieceWithin {text part : List Char} (mem : part ∈ piecesAt p text) {c : Char}
    (inside : c ∈ part) : c ∈ text := by
  induction text generalizing part with
  | nil =>
    obtain rfl : part = [] := by simpa [piecesAt] using mem
    contradiction
  | cons first rest ih =>
    simp only [piecesAt] at mem
    split at mem
    · rcases List.mem_cons.mp mem with rfl | later
      · contradiction
      · exact List.mem_cons_of_mem _ (ih later inside)
    · rcases consHeadMember mem with rfl | later | ⟨tail, held, rfl⟩
      · exact List.mem_cons.mpr (.inl (List.mem_singleton.mp inside))
      · exact List.mem_cons_of_mem _ (ih later inside)
      · rcases List.mem_cons.mp inside with rfl | after
        · exact List.mem_cons_self
        · exact List.mem_cons_of_mem _ (ih held after)

theorem consHeadMap (f : Char → Char) (c : Char) (parts : List (List Char)) :
    consHead (f c) (parts.map (List.map f)) = (consHead c parts).map (List.map f) := by
  cases parts <;> rfl

theorem piecesMap {f : Char → Char} (keeps : ∀ c, p (f c) = p c) (text : List Char) :
    piecesAt p (text.map f) = (piecesAt p text).map (List.map f) := by
  induction text with
  | nil => rfl
  | cons c rest ih =>
    simp only [List.map_cons, piecesAt, keeps, ih, consHeadMap]
    split <;> rfl

theorem piecesFromWithin {separator text part : List Char} {skip : Nat}
    (mem : part ∈ piecesFrom separator skip text) {c : Char} (inside : c ∈ part) : c ∈ text := by
  induction text generalizing part skip with
  | nil =>
    obtain rfl : part = [] := by simpa [piecesFrom] using mem
    contradiction
  | cons first rest ih =>
    cases skip with
    | succ skip => exact List.mem_cons_of_mem _ (ih mem inside)
    | zero =>
      simp only [piecesFrom] at mem
      split at mem
      · rcases List.mem_cons.mp mem with rfl | later
        · contradiction
        · exact List.mem_cons_of_mem _ (ih later inside)
      · rcases consHeadMember mem with rfl | later | ⟨tail, held, rfl⟩
        · exact List.mem_cons.mpr (.inl (List.mem_singleton.mp inside))
        · exact List.mem_cons_of_mem _ (ih later inside)
        · rcases List.mem_cons.mp inside with rfl | after
          · exact List.mem_cons_self
          · exact List.mem_cons_of_mem _ (ih held after)

theorem pieceHolds {text : List Char} {c : Char} (mem : c ∈ text) :
    p c = true ∨ ∃ part ∈ piecesAt p text, c ∈ part := by
  induction text with
  | nil => contradiction
  | cons first rest ih =>
    cases cuts : p first with
    | true =>
      rcases List.mem_cons.mp mem with rfl | later
      · exact .inl cuts
      · refine (ih later).imp_right fun ⟨part, inside, held⟩ => ⟨part, ?_, held⟩
        simp [piecesAt, cuts, inside]
    | false =>
      obtain ⟨piece, others, found⟩ := List.exists_cons_of_ne_nil (@piecesFilled p rest)
      simp only [piecesAt, cuts, Bool.false_eq_true, if_false, found, consHead]
      rcases List.mem_cons.mp mem with rfl | later
      · exact .inr ⟨c :: piece, by simp⟩
      · refine (ih later).imp_right fun ⟨part, inside, held⟩ => ?_
        rw [found] at inside
        rcases List.mem_cons.mp inside with rfl | other
        · exact ⟨first :: part, by simp, List.mem_cons_of_mem _ held⟩
        · exact ⟨part, List.mem_cons_of_mem _ other, held⟩

theorem joinedPieces (mark : Char) (text : List Char) :
    joined [mark] (piecesAt (· = mark) text) = text := by
  induction text with
  | nil => rfl
  | cons c rest ih =>
    have filled := @piecesFilled (· = mark) rest
    simp only [piecesAt]
    cases found : piecesAt (· = mark) rest with
    | nil => exact absurd found filled
    | cons first others =>
      rw [found] at ih
      split
      · rename_i same
        obtain rfl : c = mark := by simpa using same
        simp [joined, ih]
      · cases others with
        | nil => simpa [consHead, joined] using ih
        | cons next others => simpa [consHead, joined] using ih

theorem joinedMember {mark c : Char} {parts : List (List Char)} (mem : c ∈ joined [mark] parts) :
    c = mark ∨ ∃ part ∈ parts, c ∈ part := by
  induction parts with
  | nil => contradiction
  | cons part rest ih =>
    cases rest with
    | nil => exact .inr ⟨part, List.mem_cons_self, mem⟩
    | cons next rest =>
      have spelled : joined [mark] (part :: next :: rest) =
          part ++ mark :: joined [mark] (next :: rest) := by simp [joined]
      rw [spelled] at mem
      obtain own | later := List.mem_append.mp mem
      · exact .inr ⟨part, List.mem_cons_self, own⟩
      obtain same | later := List.mem_cons.mp later
      · exact .inl same
      · obtain same | ⟨other, listed, inside⟩ := ih later
        · exact .inl same
        · exact .inr ⟨other, List.mem_cons_of_mem _ listed, inside⟩

theorem fieldsJoined {mark : Char} (cuts : p mark = true) {parts : List (List Char)}
    (filled : ∀ part ∈ parts, part ≠ []) (clean : ∀ part ∈ parts, ∀ c ∈ part, p c = false) :
    fieldsAt p (joined [mark] parts) = parts := by
  cases parts with
  | nil => rfl
  | cons part rest =>
    rw [fieldsAt, piecesJoined cuts (by simp) clean]
    exact List.filter_eq_self.mpr fun part mem => by simpa using filled part mem

theorem fieldMember {text part : List Char} :
    part ∈ fieldsAt p text ↔ part ∈ piecesAt p text ∧ part ≠ [] := by
  simp [fieldsAt]

end Phrasebook.Text

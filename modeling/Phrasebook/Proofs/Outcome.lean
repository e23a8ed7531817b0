import Phrasebook.Report

/-! Outcomes of composed reports. What an operation logs plays no part in whether it succeeds, so the
conditions under which one succeeds are read off its steps one after the other. -/
namespace Phrasebook.Report

variable {α β : Type}

theorem exceptBindOk {ε : Type} {first : Except ε α} {next : α → Except ε β} {result : β} :
    first >>= next = .ok result ↔ ∃ value, first = .ok value ∧ next value = .ok result := by
  cases first <;> simp [bind, Except.bind]

theorem mapFailed {ε : Type} {outcome : Except ε α} {f : α → β} {failure : ε} :
    outcome.map f = .error failure ↔ outcome = .error failure := by
  cases outcome <;> simp [Except.map]

theorem mapErrorOk {ε δ : Type} {outcome : Except ε α} {f : ε → δ} {value : α} :
    outcome.mapError f = .ok value ↔ outcome = .ok value := by
  cases outcome with
  | ok held =>
    change (Except.ok held : Except δ α) = .ok value ↔ _
    simp
  | error fault =>
    change (Except.error (f fault) : Except δ α) = .ok value ↔ _
    simp

theorem bindOutcome (first : Report α) (next : α → Report β) :
    (first >>= next).outcome = first.outcome.bind fun value => (next value).outcome := by
  cases h : first.outcome with
  | ok value => rw [bindOk h]; rfl
  | error failure => rw [bindError h]; rfl

theorem bindOutcomeOk {first : Report α} {next : α → Report β} {result : β} :
    (first >>= next).outcome = .ok result ↔
      ∃ value, first.outcome = .ok value ∧ (next value).outcome = .ok result := by
  rw [bindOutcome]
  cases first.outcome with
  | ok value => simp [Except.bind]
  | error failure => simp [Except.bind]

theorem bindOutcomeError {first : Report α} {next : α → Report β} {failure : Failure} :
    (first >>= next).outcome = .error failure ↔
      first.outcome = .error failure ∨
        ∃ value, first.outcome = .ok value ∧ (next value).outcome = .error failure := by
  rw [bindOutcome]
  cases first.outcome with
  | ok value => simp [Except.bind]
  | error failure => simp [Except.bind]

@[simp] theorem failOutcome (failure : Failure) :
    (fail failure : Report α).outcome = .error failure := rfl

@[simp] theorem recordOutcome (r : Record) : (record r).outcome = .ok () := rfl

@[simp] theorem ofExceptOutcome (outcome : Except Failure α) : (ofExcept outcome).outcome = outcome :=
  rfl

theorem ofFilesOk {outcome : Except FileFault α} {value : α} :
    (ofFiles outcome).outcome = .ok value ↔ outcome = .ok value := by
  cases outcome with
  | ok held =>
    change (Except.ok held : Except Failure α) = .ok value ↔ _
    simp
  | error fault =>
    change (Except.error (.breach (.file fault)) : Except Failure α) = .ok value ↔ _
    simp

theorem ofFilesError {outcome : Except FileFault α} {failure : Failure} :
    (ofFiles outcome).outcome = .error failure ↔
      ∃ fault, outcome = .error fault ∧ failure = .breach (.file fault) := by
  cases outcome with
  | ok held =>
    change (Except.ok held : Except Failure α) = .error failure ↔ _
    simp
  | error fault =>
    change (Except.error (.breach (.file fault)) : Except Failure α) = .error failure ↔ _
    simp [eq_comm]

/-! ### Breaches -/

def Breaches (outcome : Except Failure α) : Prop := ∃ breach, outcome = .error (.breach breach)

@[simp] theorem okWhole (value : α) : ¬ Breaches (.ok value) := by
  simp [Breaches]

theorem exceptBindBreaches {first : Except Failure α} {next : α → Except Failure β} :
    Breaches (first >>= next) ↔
      Breaches first ∨ ∃ value, first = .ok value ∧ Breaches (next value) := by
  cases first <;> simp [Breaches, bind, Except.bind]

theorem bindBreaches {first : Report α} {next : α → Report β} :
    Breaches (first >>= next).outcome ↔
      Breaches first.outcome ∨ ∃ value, first.outcome = .ok value ∧ Breaches (next value).outcome := by
  rw [bindOutcome]
  exact exceptBindBreaches

def Answered (outcome : Except Failure α) : Prop :=
  (∃ value, outcome = .ok value) ∨ Breaches outcome

theorem exceptBindAnswered {first : Except Failure α} {next : α → Except Failure β}
    (head : Answered first) (tail : ∀ value, Answered (next value)) : Answered (first >>= next) := by
  rcases head with ⟨value, rfl⟩ | ⟨breach, rfl⟩
  · exact tail value
  · exact .inr ⟨breach, rfl⟩

theorem bindAnswered {first : Report α} {next : α → Report β} (head : Answered first.outcome)
    (tail : ∀ value, Answered (next value).outcome) : Answered (first >>= next).outcome := by
  rw [bindOutcome]
  exact exceptBindAnswered head tail

theorem ofFilesAnswered (outcome : Except FileFault α) : Answered (ofFiles outcome).outcome := by
  cases outcome with
  | ok value => exact .inl ⟨value, rfl⟩
  | error fault => exact .inr ⟨.file fault, rfl⟩

/-- An outcome that is a value, a fault of the declaration in a file, or a breach. -/
inductive Declared (file : Option String) : Except Failure α → Prop
  | value (value : α) : Declared file (.ok value)
  | fault (reason : DeclarationReason) : Declared file (.error (.declaration reason file))
  | breach (breach : Breach) : Declared file (.error (.breach breach))

theorem exceptBindDeclared {file : Option String} {first : Except Failure α}
    {next : α → Except Failure β} (head : Declared file first)
    (tail : ∀ value, first = .ok value → Declared file (next value)) : Declared file (first >>= next) := by
  cases head with
  | value value => exact tail value rfl
  | fault reason => exact .fault reason
  | breach breach => exact .breach breach

theorem bindDeclared {file : Option String} {first : Report α} {next : α → Report β}
    (head : Declared file first.outcome)
    (tail : ∀ value, first.outcome = .ok value → Declared file (next value).outcome) :
    Declared file (first >>= next).outcome := by
  rw [bindOutcome]
  exact exceptBindDeclared head tail

end Phrasebook.Report

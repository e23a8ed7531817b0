import Phrasebook.Proofs.BinaryRange
import Phrasebook.Proofs.Collections
import Phrasebook.Proofs.Outcome
import Phrasebook.Proofs.ValueParts
import Phrasebook.Template.Fill

/-! What escapes from filling in a template. A style may ask for an integer as a character or as a binary
number, and an integer out of their range is not held back as other mismatches are; nothing else
escapes. -/
namespace Phrasebook.Template

open Text Number Value

/-- Every integer in a value stands in the value it is drawn from, if it is not 0 or 1. -/
def Drawn (source v : Value) : Prop :=
  ∀ i, Within (.int i) v → i = 0 ∨ i = 1 ∨ Within (.int i) source

theorem Drawn.trans {a b c : Value} (first : Drawn a b) (second : Drawn b c) : Drawn a c := by
  intro i inside
  rcases second i inside with zero | one | within
  · exact .inl zero
  · exact .inr (.inl one)
  · exact first i within

def Arguments.values : Arguments → List Value
  | .positional values => values
  | .named values => values.entries.map Prod.snd

end Phrasebook.Template

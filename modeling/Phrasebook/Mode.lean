/-!
Substitution modes of a template or of a whole catalog.
-/

namespace Phrasebook

inductive Mode where
  | positional
  | named
  | noArgs
  deriving DecidableEq, Repr

namespace Mode

def name : Mode → String
  | positional => "positional"
  | named => "named"
  | noArgs => "no_args"

def ofName? (name : String) : Option Mode :=
  [positional, named, noArgs].find? fun mode => mode.name = name

end Mode

end Phrasebook

import Phrasebook.Command.Run

/-!
What a command looks at: the declaration first, and then, for each target in it, the source directory
and the output. A command never looks elsewhere, so a part of the file tree is enough to run it.
-/

namespace Phrasebook.Command

def declarationPlaces (choices : Choices) : List Path :=
  match choices.config with
  | some config => [Path.ofString config]
  | none => (Declaration.fileNames ++ [Declaration.projectFile]).map Path.ofString

def sourcePlaces (targets : List Target) : List Path := targets.map Target.sourceDir

def outputPlaces (targets : List Target) : List Path := targets.map Target.output

/-- The targets of a command as far as they are known from what is seen of the file tree. -/
def targetsOf (tree : FileTree) (choices : Choices) : List Target :=
  match (resolveTargets tree choices).outcome with
  | .ok (.found targets) => targets
  | _ => []

def choicesIn? (args : List String) : Option Choices :=
  match Request.ofArguments args with
  | .run _ _ choices => some choices
  | _ => none

end Phrasebook.Command

import Phrasebook.Command.Places

/-!
The program. It reads the part of the file tree that its command looks at, runs the command on it, and
writes what the command has changed.
-/

namespace Phrasebook.Main

def entryAt (place : List String) : IO (Option Entry) := do
  let path := (Path.absolute place).text
  try
    if ← ((← IO.currentDir) / path).isDir then return some .directory
    return some (.file (← IO.FS.readBinFile path))
  catch _ => return none

def see (tree : FileTree) (place : List String) : IO FileTree := do
  let mut entries := tree.entries
  for count in List.range place.length do
    let here := place.take (count + 1)
    if let some entry ← entryAt here then entries := entries.insert here entry
  return { tree with entries := entries }

def seeAll (tree : FileTree) (place : List String) : IO FileTree := do
  let mut seen ← see tree place
  try
    for entry in ← ((← IO.currentDir) / (Path.absolute place).text).readDir do
      seen ← see seen (place ++ [entry.fileName])
  catch _ => pure ()
  return seen

def seePaths (look : FileTree → List String → IO FileTree) (tree : FileTree) :
    List Path → IO FileTree
  | [] => return tree
  | path :: rest => do
    let seen ← look tree (path.resolve tree.base)
    seePaths look seen rest

def visible (args : List String) : IO FileTree := do
  let base := (Path.ofString (← IO.currentDir).toString).segments
  let tree ← see { base := base, entries := .empty } base
  match Command.choicesIn? args with
  | none => return tree
  | some choices =>
    let tree ← seePaths see tree (Command.declarationPlaces choices)
    let targets := Command.targetsOf tree choices
    let tree ← seePaths seeAll tree (Command.sourcePlaces targets)
    seePaths see tree (Command.outputPlaces targets)

def update (before after : FileTree) : IO Unit := do
  for (place, entry) in after.entries.entries do
    if before.entries.get? place ≠ some entry then
      let path := (Path.absolute place).text
      match entry with
      | .directory => IO.FS.createDirAll path
      | .file content => IO.FS.writeBinFile path content

def usage : String :=
  "Usage: typedbundle [--verbose] [--quiet] (generate | check | inspect) [options]"

def report (outcome : Command.Outcome) : IO Unit := do
  for record in outcome.log do
    IO.eprintln record.line
  match outcome.printed with
  | none => IO.eprintln usage
  | some printed =>
    for line in printed.lines do
      IO.println line
    for line in printed.errors do
      IO.eprintln line

end Phrasebook.Main

def main (args : List String) : IO UInt32 := do
  let before ← Phrasebook.Main.visible args
  let (after, outcome) := Phrasebook.Command.run before args
  Phrasebook.Main.update before after
  Phrasebook.Main.report outcome
  return outcome.exitCode.toUInt32

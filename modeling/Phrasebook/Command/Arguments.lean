import Phrasebook.Report

/-!
Command-line arguments. A command comes after the options of the program and before its own. A long
option takes its value behind an equals sign or from the next argument, a short one from the rest of its
cluster or from the next argument; the last value counts, and two hyphens end the options.
-/

namespace Phrasebook.Command

/-- An option of something with settings `σ`: its spellings, and what it does with its value, if it
takes one. -/
structure Switch (σ : Type) where
  names : List String
  effect : (σ → σ) ⊕ (String → σ → σ)

/-- The effect of an argument: settings, or settings that wait for the next argument. -/
inductive Taken (σ : Type) where
  | settled (settings : σ)
  | awaits (give : String → σ)

def optionNamed? {σ : Type} (options : List (Switch σ)) (name : String) : Option (Switch σ) :=
  options.find? fun option => option.names.contains name

def takeCluster? {σ : Type} (options : List (Switch σ)) (settings : σ) :
    List Char → Option (Taken σ)
  | [] => some (.settled settings)
  | c :: rest =>
    match optionNamed? options (String.ofList ['-', c]) with
    | none => none
    | some ⟨_, .inl flag⟩ => takeCluster? options (flag settings) rest
    | some ⟨_, .inr give⟩ =>
      if rest.isEmpty then some (.awaits fun value => give value settings)
      else some (.settled (give (String.ofList rest) settings))

def takeLong? {σ : Type} (options : List (Switch σ)) (settings : σ) (name : String)
    (value : Option String) : Option (Taken σ) :=
  match optionNamed? options name, value with
  | some ⟨_, .inl flag⟩, none => some (.settled (flag settings))
  | some ⟨_, .inr give⟩, some value => some (.settled (give value settings))
  | some ⟨_, .inr give⟩, none => some (.awaits fun value => give value settings)
  | _, _ => none

def takeOption? {σ : Type} (options : List (Switch σ)) (settings : σ) (arg : List Char) :
    Option (Taken σ) :=
  if ['-', '-'].isPrefixOf arg then
    let name := arg.takeWhile (· ≠ '=')
    let value := if arg.contains '=' then some (String.ofList (arg.drop (name.length + 1))) else none
    takeLong? options settings (String.ofList name) value
  else takeCluster? options settings arg.tail

/-- Takes options from arguments and yields the settings and the arguments left. Unless options and
other arguments may be mixed, the first other argument ends the options. -/
def takeOptions? {σ : Type} (options : List (Switch σ)) (mixed : Bool) (settings : σ)
    (others : List String) : List String → Option (σ × List String)
  | [] => some (settings, others)
  | arg :: rest =>
    if arg = "--" then some (settings, others ++ rest)
    else if arg.startsWith "-" && 1 < arg.length then
      match takeOption? options settings arg.toList, rest with
      | some (.settled settings), rest => takeOptions? options mixed settings others rest
      | some (.awaits give), value :: rest => takeOptions? options mixed (give value) others rest
      | _, _ => none
    else if mixed then takeOptions? options mixed settings (others ++ [arg]) rest
    else some (settings, others ++ arg :: rest)

/-! ### The options of the program and of its commands -/

structure Settings where
  verbose : Bool := false
  quiet : Bool := false
  help : Bool := false
  deriving DecidableEq, Repr

def Settings.level (s : Settings) : Level :=
  if s.verbose then .debug else if s.quiet then .error else .warning

inductive Action where
  | generate
  | check
  | inspect
  deriving DecidableEq, Repr

structure Choices where
  config : Option String := none
  bundle : Option String := none
  sourceDir : Option String := none
  output : Option String := none
  mode : String := "auto"
  className : String := ""
  delimiter : String := "."
  naming : String := "camel"
  catalogDir : Option String := none
  force : Bool := false
  json : Bool := false
  help : Bool := false
  deriving DecidableEq, Repr

def helpName : String := "--help"

def programOptions : List (Switch Settings) :=
  [⟨["--verbose", "-v"], .inl fun s => { s with verbose := true }⟩,
    ⟨["--quiet", "-q"], .inl fun s => { s with quiet := true }⟩,
    ⟨[helpName], .inl fun s => { s with help := true }⟩]

def sharedOptions : List (Switch Choices) :=
  [⟨["--config", "-c"], .inr fun v s => { s with config := some v }⟩,
    ⟨["--bundle", "-b"], .inr fun v s => { s with bundle := some v }⟩,
    ⟨["--source-dir", "-s"], .inr fun v s => { s with sourceDir := some v }⟩,
    ⟨["--output", "-o"], .inr fun v s => { s with output := some v }⟩,
    ⟨["--mode", "-m"], .inr fun v s => { s with mode := v }⟩,
    ⟨["--class-name"], .inr fun v s => { s with className := v }⟩,
    ⟨["--delimiter"], .inr fun v s => { s with delimiter := v }⟩,
    ⟨["--naming"], .inr fun v s => { s with naming := v }⟩,
    ⟨[helpName], .inl fun s => { s with help := true }⟩]

def catalogDirOption : Switch Choices :=
  ⟨["--catalog-dir"], .inr fun v s => { s with catalogDir := some v }⟩

def forceOption : Switch Choices := ⟨["--force", "-f"], .inl fun s => { s with force := true }⟩

def jsonOption : Switch Choices := ⟨["--json"], .inl fun s => { s with json := true }⟩

namespace Action

def name : Action → String
  | generate => "generate"
  | check => "check"
  | inspect => "inspect"

def ofName? (name : String) : Option Action :=
  [generate, check, inspect].find? fun action => action.name = name

def options : Action → List (Switch Choices)
  | generate => sharedOptions ++ [catalogDirOption, forceOption]
  | check => sharedOptions ++ [catalogDirOption]
  | inspect => sharedOptions ++ [jsonOption]

end Action

inductive Request where
  | help
  | misuse
  | run (level : Level) (action : Action) (choices : Choices)
  deriving DecidableEq, Repr

/-- The request in the arguments of a command. Asking for help excuses superfluous arguments, but no
faulty option. -/
def Request.ofCommand (level : Level) (action : Action) (args : List String) : Request :=
  match takeOptions? action.options true {} [] args with
  | none => misuse
  | some (choices, others) =>
    if choices.help then help else if others.isEmpty then run level action choices else misuse

/-- The request in arguments that begin with no command. Options behind two hyphens get a second
reading here, so that they can still ask for help. -/
def Request.ofUnknown (args : List String) : Request :=
  match takeOptions? programOptions false {} [] args with
  | some (settings, _) => if settings.help then help else misuse
  | none => misuse

def Request.ofArguments (args : List String) : Request :=
  match takeOptions? programOptions false {} [] args with
  | none => misuse
  | some (settings, others) =>
    if settings.help then help
    else
      match others with
      | [] => misuse
      | name :: rest =>
        match Action.ofName? name with
        | none => ofUnknown others
        | some action => ofCommand settings.level action rest

end Phrasebook.Command

import Phrasebook.Yaml.Scalar

/-!
The tokens of a YAML text in order. Indentation opens and closes blocks, and a key is known as one
only when the colon behind it is met, so a token can stand before tokens that are read already. A text
that breaks off still has the tokens that nothing behind them can change.
-/

namespace Phrasebook.Yaml

/-- A place that may turn out to begin a key: the bracket depth, how many tokens precede it, and
whether it has to be a key. -/
structure PossibleKey where
  depth : Int
  precededBy : Nat
  required : Bool
  index : Nat
  line : Nat
  column : Nat
  deriving Repr

structure Layout where
  cursor : Cursor
  depth : Int := 0
  indent : Int := -1
  outer : List Int := []
  mayBeKey : Bool := true
  keys : List PossibleKey := []
  read : List Token := []

structure Tokens where
  tokens : List Token
  fault : Option Error

namespace Layout

def keyReach : Nat := 1024

def inFlow (s : Layout) : Bool := s.depth ≠ 0

def push (s : Layout) (token : Token) : Layout := { s with read := token :: s.read }

def insertAt (s : Layout) (before : Nat) (token : Token) : Layout :=
  let (later, earlier) := s.read.splitAt (s.read.length - before)
  { s with read := later ++ token :: earlier }

def settled (s : Layout) : Nat := s.keys.foldl (fun n key => min n key.precededBy) s.read.length

def isStale (s : Layout) (key : PossibleKey) : Bool :=
  key.line ≠ s.cursor.line || keyReach < s.cursor.index - key.index

/-- Gives up possible keys on earlier lines or out of reach; one that has to be a key is a fault. -/
def dropStale (s : Layout) : Except Error Layout :=
  if s.keys.any fun key => s.isStale key && key.required then .error .refused
  else .ok { s with keys := s.keys.filter fun key => !s.isStale key }

def dropKey (s : Layout) : Except Error Layout :=
  if s.keys.any fun key => key.depth = s.depth && key.required then .error .refused
  else .ok { s with keys := s.keys.filter fun key => key.depth ≠ s.depth }

def noteKey (s : Layout) : Except Error Layout :=
  if s.mayBeKey then do
    let s ← s.dropKey
    .ok { s with
      keys := ⟨s.depth, s.read.length, !s.inFlow && s.indent = s.cursor.column, s.cursor.index,
        s.cursor.line, s.cursor.column⟩ :: s.keys }
  else .ok s

def unwind (s : Layout) (column : Int) : Layout :=
  if s.inFlow then s else close s s.outer
where
  close (s : Layout) : List Int → Layout
    | [] => s
    | outer :: rest =>
      if column < s.indent then close { s.push .blockEnd with indent := outer, outer := rest } rest
      else s

def openBlock (s : Layout) (column : Nat) (before : Nat) (token : Token) : Layout :=
  if s.indent < column then
    { s.insertAt before token with indent := column, outer := s.indent :: s.outer }
  else s

/-- Past blanks, comments and line ends to the next token. A new line may begin with a key. -/
def toNextToken : Nat → Layout → Layout
  | 0, s => s
  | fuel + 1, s =>
    match s.cursor.skipSpaces.skipComment.lineBreak with
    | (some _, after) =>
      toNextToken fuel { s with cursor := after, mayBeKey := s.mayBeKey || !s.inFlow }
    | (none, here) => { s with cursor := here }

def take (s : Layout) (width : Nat) (token : Token) : Layout :=
  { s.push token with cursor := s.cursor.advance width }

/-- A token that begins a node and may begin a key, and behind which no key may begin. -/
def takeNode {α : Type} (s : Layout) (scan : Cursor → Except Error (α × Cursor))
    (token : α → Token) : Except Error Layout := do
  let s ← s.noteKey
  let (found, after) ← scan s.cursor
  .ok { s.push (token found) with cursor := after, mayBeKey := false }

def takeDocumentMark (s : Layout) (token : Token) : Except Error Layout := do
  let s ← (s.unwind (-1)).dropKey
  .ok { s.take 3 token with mayBeKey := false }

def takeDirective (s : Layout) : Except Error Layout := do
  let s ← (s.unwind (-1)).dropKey
  let (directive, after) ← scanDirective s.cursor
  .ok { s.push (.directive directive) with cursor := after, mayBeKey := false }

def takeOpening (s : Layout) (token : Token) : Except Error Layout := do
  let s ← s.noteKey
  .ok { s.take 1 token with depth := s.depth + 1, mayBeKey := true }

def takeClosing (s : Layout) (token : Token) : Except Error Layout := do
  let s ← s.dropKey
  .ok { s.take 1 token with depth := s.depth - 1, mayBeKey := false }

def takeFlowEntry (s : Layout) : Except Error Layout := do
  let s ← s.dropKey
  .ok { s.take 1 .flowEntry with mayBeKey := true }

def takeBlockEntry (s : Layout) : Except Error Layout := do
  if !s.inFlow && !s.mayBeKey then .error .refused
  else
    let s := if s.inFlow then s else s.openBlock s.cursor.column s.read.length .blockSequence
    let s ← s.dropKey
    .ok { s.take 1 .blockEntry with mayBeKey := true }

def takeKey (s : Layout) : Except Error Layout := do
  if !s.inFlow && !s.mayBeKey then .error .refused
  else
    let s := if s.inFlow then s else s.openBlock s.cursor.column s.read.length .blockMapping
    let s ← s.dropKey
    .ok { s.take 1 .key with mayBeKey := !s.inFlow }

/-- A colon makes the possible key before it a key; without one it stands behind an explicit key or
behind no key at all. -/
def takeValue (s : Layout) : Except Error Layout := do
  match s.keys.find? fun key => key.depth = s.depth with
  | some key =>
    let s := { s with keys := s.keys.filter fun key => key.depth ≠ s.depth }
    let s := s.insertAt key.precededBy .key
    let s := if s.inFlow then s else s.openBlock key.column key.precededBy .blockMapping
    .ok { s.take 1 .value with mayBeKey := false }
  | none =>
    if !s.inFlow && !s.mayBeKey then .error .refused
    else
      let s := if s.inFlow then s else s.openBlock s.cursor.column s.read.length .blockMapping
      let s ← s.dropKey
      .ok { s.take 1 .value with mayBeKey := !s.inFlow }

def takeBlock (s : Layout) (folded : Bool) : Except Error Layout := do
  let s ← s.dropKey
  let (text, after) ← scanBlock folded (max (s.indent + 1) 1).toNat s.cursor
  .ok { s.push (.scalar text false) with cursor := after, mayBeKey := true }

def takePlain (s : Layout) : Except Error Layout := do
  let s ← s.noteKey
  let found := plainText s.inFlow (s.indent + 1) [] [] false (s.cursor.rest.length + 1) s.cursor
  .ok { s.push (.scalar (String.ofList found.text) true) with
    cursor := found.after, mayBeKey := found.afterBreak }

/-- The next token, which the character here and sometimes the one behind it announce. -/
def takeToken (s : Layout) (x : Char) : Except Error Layout :=
  let c := s.cursor
  let gapFollows := isGap (c.peek 1)
  if x = '%' && c.column = 0 then s.takeDirective
  else if c.column = 0 && c.atMarks '-' then s.takeDocumentMark .documentStart
  else if c.column = 0 && c.atMarks '.' then s.takeDocumentMark .documentEnd
  else if x = '[' then s.takeOpening .flowSequence
  else if x = '\x7b' then s.takeOpening .flowMapping
  else if x = ']' then s.takeClosing .flowSequenceEnd
  else if x = '\x7d' then s.takeClosing .flowMappingEnd
  else if x = ',' then s.takeFlowEntry
  else if x = '-' && gapFollows then s.takeBlockEntry
  else if x = '?' && (s.inFlow || gapFollows) then s.takeKey
  else if x = ':' && (s.inFlow || gapFollows) then s.takeValue
  else if x = '*' then s.takeNode scanAnchor .alias
  else if x = '&' then s.takeNode scanAnchor .anchor
  else if x = '!' then s.takeNode scanTag .tag
  else if x = '|' && !s.inFlow then s.takeBlock false
  else if x = '>' && !s.inFlow then s.takeBlock true
  else if x = '\'' then s.takeNode (scanQuoted false) fun text => .scalar text false
  else if x = '"' then s.takeNode (scanQuoted true) fun text => .scalar text false
  else if startsPlain s.inFlow c then s.takePlain
  else .error .refused

def next (s : Layout) : Except Error (Layout × Bool) := do
  let s ← (toNextToken (s.cursor.rest.length + 1) s).dropStale
  let s := s.unwind s.cursor.column
  match s.cursor.peek 0 with
  | none =>
    let s ← (s.unwind (-1)).dropKey
    .ok (s, true)
  | some x =>
    let s ← s.takeToken x
    .ok (s, false)

def run : Nat → Layout → Tokens
  | 0, s => ⟨s.read.reverse, none⟩
  | fuel + 1, s =>
    match s.dropStale with
    | .error e => ⟨s.read.reverse.take s.settled, some e⟩
    | .ok s =>
      match s.next with
      | .error e => ⟨s.read.reverse.take s.settled, some e⟩
      | .ok (s, true) => ⟨s.read.reverse, none⟩
      | .ok (s, false) => run fuel s

end Layout

def Tokens.ofText (text : List Char) : Tokens :=
  let start : Cursor := { rest := text }
  let start := if text.head? = some '\ufeff' then start.step else start
  Layout.run (text.length + 2) { cursor := start }

end Phrasebook.Yaml

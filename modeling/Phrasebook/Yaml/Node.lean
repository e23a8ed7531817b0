import Phrasebook.OrderedMap
import Phrasebook.Yaml.Layout
import Phrasebook.Yaml.Tag

/-!
The node of a YAML document, read from its tokens. Nodes that carry an anchor are known to those that
follow; an alias is the node it names, or a loop when it stands in that node itself.
-/

namespace Phrasebook.Yaml

inductive Node where
  | scalar (tag : Tag) (text : String)
  | sequence (tag : Tag) (items : List Node)
  | mapping (tag : Tag) (entries : List (Node × Node))
  | loop (isMapping : Bool)
  deriving Inhabited

namespace Node

def tag : Node → Tag
  | scalar tag _ => tag
  | sequence tag _ => tag
  | mapping tag _ => tag
  | loop isMapping => if isMapping then .map else .list

def empty : Node := scalar .null ""

end Node

structure Reading where
  tokens : List Token
  fault : Option Error
  handles : OrderedMap String String := .empty
  anchors : OrderedMap String Node := .empty

/-- The anchor and the tag before a node. The tag `!` asks for the tag of the node's form. -/
structure Properties where
  anchor : Option String := none
  tag : Option WrittenTag := none

abbrev Read (α : Type) := Reading → Except Error (α × Reading)

namespace Reading

def peek (r : Reading) : Except Error (Option Token) :=
  match r.tokens, r.fault with
  | token :: _, _ => .ok (some token)
  | [], some e => .error e
  | [], none => .ok none

def skip (r : Reading) : Reading := { r with tokens := r.tokens.tail }

def skipIf (r : Reading) (token : Token) : Except Error (Bool × Reading) :=
  match r.peek with
  | .error e => .error e
  | .ok next => if next = some token then .ok (true, r.skip) else .ok (false, r)

def expect (r : Reading) (token : Token) : Except Error Reading :=
  match r.skipIf token with
  | .error e => .error e
  | .ok (found, r) => if found then .ok r else .error .refused

def isNext (r : Reading) (tokens : List Token) : Except Error Bool :=
  r.peek.map fun next => next.any tokens.contains

def name (r : Reading) (anchor : Option String) (node : Node) : Reading :=
  match anchor with
  | some anchor => { r with anchors := r.anchors.insert anchor node }
  | none => r

def anchor (r : Reading) : Except Error (Option String × Reading) :=
  r.peek.map fun next =>
    match next with
    | some (.anchor name) => (some name, r.skip)
    | _ => (none, r)

def tag (r : Reading) : Except Error (Option WrittenTag × Reading) :=
  r.peek.map fun next =>
    match next with
    | some (.tag tag) => (some tag, r.skip)
    | _ => (none, r)

def properties (r : Reading) : Except Error (Properties × Reading) := do
  let (anchor, r) ← r.anchor
  let (tag, r) ← r.tag
  if anchor.isSome || tag.isNone then .ok (⟨anchor, tag⟩, r)
  else
    let (anchor, r) ← r.anchor
    .ok (⟨anchor, tag⟩, r)

def nameOfTag (r : Reading) (tag : WrittenTag) : Except Error String :=
  match tag.handle with
  | none => .ok tag.suffix
  | some handle =>
    match r.handles.get? handle with
    | some target => .ok (target ++ tag.suffix)
    | none => .error .refused

end Reading

def askedTag (name : Option String) : Option Tag :=
  match name with
  | none => none
  | some name => if name = "!" then none else some (.ofName name)

/-- The tag of a scalar: the one asked for, or that of its form; quotes say text unless `!` is given. -/
def scalarTag (name : Option String) (text : String) (plain : Bool) : Tag :=
  match askedTag name with
  | some tag => tag
  | none => if plain || name.isSome then .ofPlain text else .text

def absent (properties : Properties) (name : Option String) (known : Bool)
    (r : Reading) : Except Error (Node × Reading) :=
  if known || (properties.anchor.isNone && properties.tag.isNone) then .error .refused
  else
    let node := Node.scalar ((askedTag name).getD .null) ""
    .ok (node, r.name properties.anchor node)

mutual

/-- A node: `block` says whether it may be a block of its own indentation, `indentless` whether it may
be a list at the indentation of the map it stands in. -/
def readNode (block indentless : Bool) : Nat → Reading → Except Error (Node × Reading)
  | 0, _ => .error .refused
  | fuel + 1, r => do
    match ← r.peek with
    | some (.alias name) =>
      match r.anchors.get? name with
      | some node => .ok (node, r.skip)
      | none => .error .refused
    | _ =>
      let (properties, r) ← r.properties
      let anchor := properties.anchor
      let name ← properties.tag.mapM r.nameOfTag
      let next ← r.peek
      let known := anchor.any r.anchors.contains
      let sequence (read : Reading → Except Error (List Node × Reading)) (r : Reading) := do
        if known then .error .refused
        else
          let (items, r) ← read (r.name anchor (.loop false))
          let node := Node.sequence ((askedTag name).getD .list) items
          .ok (node, r.name anchor node)
      let mapping (read : Reading → Except Error (List (Node × Node) × Reading))
          (r : Reading) := do
        if known then .error .refused
        else
          let (entries, r) ← read (r.name anchor (.loop true))
          let node := Node.mapping ((askedTag name).getD .map) entries
          .ok (node, r.name anchor node)
      match next with
      | some (.scalar text plain) =>
        if known then .error .refused
        else
          let node := Node.scalar (scalarTag name text plain) text
          .ok (node, r.skip.name anchor node)
      | some .flowSequence => sequence (readFlowItems true fuel) r.skip
      | some .flowMapping => mapping (readFlowEntries true fuel) r.skip
      | some .blockEntry =>
        if indentless then sequence (readIndentless fuel) r
        else absent properties name known r
      | some .blockSequence =>
        if block then sequence (readBlockItems fuel) r.skip
        else absent properties name known r
      | some .blockMapping =>
        if block then mapping (readBlockEntries fuel) r.skip
        else absent properties name known r
      | _ => absent properties name known r

def readNodeUnless (tokens : List Token) (block indentless : Bool) :
    Nat → Reading → Except Error (Node × Reading)
  | 0, _ => .error .refused
  | fuel + 1, r => do
    if ← r.isNext tokens then .ok (.empty, r) else readNode block indentless fuel r

def readBlockItems : Nat → Reading → Except Error (List Node × Reading)
  | 0, _ => .error .refused
  | fuel + 1, r => do
    let (more, r) ← r.skipIf .blockEntry
    if more then
      let (item, r) ← readNodeUnless [.blockEntry, .blockEnd] true false fuel r
      let (items, r) ← readBlockItems fuel r
      .ok (item :: items, r)
    else
      let r ← r.expect .blockEnd
      .ok ([], r)

def readIndentless : Nat → Reading → Except Error (List Node × Reading)
  | 0, _ => .error .refused
  | fuel + 1, r => do
    let (more, r) ← r.skipIf .blockEntry
    if more then
      let (item, r) ← readNodeUnless [.blockEntry, .key, .value, .blockEnd] true false fuel r
      let (items, r) ← readIndentless fuel r
      .ok (item :: items, r)
    else .ok ([], r)

def readValueUnless (tokens : List Token) (block : Bool) :
    Nat → Reading → Except Error (Node × Reading)
  | 0, _ => .error .refused
  | fuel + 1, r => do
    let (given, r) ← r.skipIf .value
    if given then readNodeUnless tokens block block fuel r else .ok (.empty, r)

def readBlockEntries : Nat → Reading → Except Error (List (Node × Node) × Reading)
  | 0, _ => .error .refused
  | fuel + 1, r => do
    let (more, r) ← r.skipIf .key
    if more then
      let after : List Token := [.key, .value, .blockEnd]
      let (key, r) ← readNodeUnless after true true fuel r
      let (value, r) ← readValueUnless after true fuel r
      let (entries, r) ← readBlockEntries fuel r
      .ok ((key, value) :: entries, r)
    else
      let r ← r.expect .blockEnd
      .ok ([], r)

def readFlowItems (first : Bool) : Nat → Reading → Except Error (List Node × Reading)
  | 0, _ => .error .refused
  | fuel + 1, r => do
    let (ended, r) ← r.skipIf .flowSequenceEnd
    if ended then .ok ([], r)
    else
      let r ← if first then .ok r else r.expect .flowEntry
      let after : List Token := [.flowEntry, .flowSequenceEnd]
      let (isEntry, r) ← r.skipIf .key
      if isEntry then
        let (key, r) ← readNodeUnless (.value :: after) false false fuel r
        let (value, r) ← readValueUnless after false fuel r
        let (items, r) ← readFlowItems false fuel r
        .ok (.mapping .map [(key, value)] :: items, r)
      else
        let (ended, r) ← r.skipIf .flowSequenceEnd
        if ended then .ok ([], r)
        else
          let (item, r) ← readNode false false fuel r
          let (items, r) ← readFlowItems false fuel r
          .ok (item :: items, r)

def readFlowEntries (first : Bool) : Nat → Reading → Except Error (List (Node × Node) × Reading)
  | 0, _ => .error .refused
  | fuel + 1, r => do
    let (ended, r) ← r.skipIf .flowMappingEnd
    if ended then .ok ([], r)
    else
      let r ← if first then .ok r else r.expect .flowEntry
      let after : List Token := [.flowEntry, .flowMappingEnd]
      let (isEntry, r) ← r.skipIf .key
      if isEntry then
        let (key, r) ← readNodeUnless (.value :: after) false false fuel r
        let (value, r) ← readValueUnless after false fuel r
        let (entries, r) ← readFlowEntries false fuel r
        .ok ((key, value) :: entries, r)
      else
        let (ended, r) ← r.skipIf .flowMappingEnd
        if ended then .ok ([], r)
        else
          let (key, r) ← readNode false false fuel r
          let (entries, r) ← readFlowEntries false fuel r
          .ok ((key, .empty) :: entries, r)

end

/-! ### Documents -/

/-- Directives before a document: at most one version, which has to be one, and every handle once. -/
def readDirectives (versioned : Bool) (handles : OrderedMap String String) :
    List Token → Except Error (OrderedMap String String × List Token)
  | .directive (.version major) :: rest =>
    if versioned || major ≠ 1 then .error .refused else readDirectives true handles rest
  | .directive (.handle handle target) :: rest =>
    if handles.contains handle then .error .refused
    else readDirectives versioned (handles.insert handle target) rest
  | .directive .other :: rest => readDirectives versioned handles rest
  | tokens => .ok (handles, tokens)

def defaultHandles : OrderedMap String String := .ofList [("!", "!"), ("!!", Tag.standard)]

def Token.isBoundary : Token → Bool
  | .directive _ => true
  | .documentStart => true
  | .documentEnd => true
  | _ => false

def readMarked (fuel : Nat) (r : Reading) : Except Error (Node × Reading) := do
  let (handles, tokens) ← readDirectives false .empty r.tokens
  let r := { r with tokens := tokens, handles := defaultHandles.overlay handles }
  let r ← r.expect .documentStart
  match ← r.peek with
  | none => .ok (.empty, r)
  | some next => if next.isBoundary then .ok (.empty, r) else readNode true false fuel r

/-- The end of the text behind a document, after marks of an end. Another document is refused. -/
def readEnd (r : Reading) : Except Error Unit := do
  let r := { r with tokens := r.tokens.dropWhile (· = Token.documentEnd) }
  match ← r.peek with
  | none => .ok ()
  | some _ =>
    let (_, tokens) ← readDirectives false .empty r.tokens
    let _ ← Reading.peek { r with tokens := tokens }
    .error .refused

def Node.ofTokens? (tokens : Tokens) : Except Error (Option Node) := do
  let fuel := 4 * tokens.tokens.length + 8
  let r : Reading := { tokens := tokens.tokens, fault := tokens.fault, handles := defaultHandles }
  match ← r.peek with
  | none => .ok none
  | some first =>
    let marked := match first with
      | .directive _ => true
      | .documentStart => true
      | _ => false
    let (node, r) ← if marked then readMarked fuel r else readNode true false fuel r
    readEnd r
    .ok (some node)

end Phrasebook.Yaml

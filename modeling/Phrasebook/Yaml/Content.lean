import Phrasebook.Yaml.Node

/-!
The value of a YAML document. Lists and maps are filled level by level from the root down, and the
first fault in that order is the fault of the document; scalars are read where they are met. A document
without a fault has a value.
-/

namespace Phrasebook.Yaml

namespace Node

mutual

def depth : Node → Nat
  | scalar _ _ => 1
  | loop _ => 1
  | sequence _ items => depthOfAll items + 1
  | mapping _ entries => depthOfEntries entries + 1

def depthOfAll : List Node → Nat
  | [] => 0
  | node :: rest => max node.depth (depthOfAll rest)

def depthOfEntries : List (Node × Node) → Nat
  | [] => 0
  | (key, value) :: rest => max (max key.depth value.depth) (depthOfEntries rest)

end

/-- The text of a node where a scalar is asked for: its own, or that of the value a map stands for. -/
def scalarText : Nat → Node → Except Error String
  | _, scalar _ text => .ok text
  | fuel + 1, mapping _ entries =>
    match entries.find? fun entry => entry.1.tag = .value with
    | some (_, value) => value.scalarText fuel
    | none => .error .refused
  | _, _ => .error .refused

/-- The value of a node that is read where it is met; none for lists and maps, which are filled
later. -/
def met (node : Node) : Except Error (Option Value) :=
  match node with
  | loop _ => .ok none
  | _ =>
    match node.tag with
    | .list => .ok none
    | .map => .ok none
    | .set => .ok none
    | .orderedMap => .ok none
    | .pairs => .ok none
    | tag => do
      let text ← node.scalarText node.depth
      match tag.read? text with
      | none => .error .refused
      | some value => do
        if tag = .timestamp && !(node matches scalar _ _) then .error .noText
        else
          let value ← value
          .ok (some value)

mutual

/-- The entries of a map with those of merged maps before its own, the last merged first. -/
def merged : Nat → List (Node × Node) → Except Error (List (Node × Node))
  | 0, _ => .error .refused
  | fuel + 1, entries => do
    let below ← (entries.filter fun entry => entry.1.tag = .merge).mapM fun entry =>
      mergedValue fuel entry.2
    let own := entries.filter fun entry => entry.1.tag ≠ .merge
    .ok (below.flatten ++ own.map fun (key, value) =>
      match key with
      | scalar .value text => (scalar .text text, value)
      | _ => (key, value))

/-- The entries that the value of a merging key stands for: those of a map, or of a list of maps. -/
def mergedValue : Nat → Node → Except Error (List (Node × Node))
  | 0, _ => .error .refused
  | fuel + 1, mapping _ entries => merged fuel entries
  | _, loop true => .ok []
  | fuel + 1, sequence _ items => do
    let all ← items.mapM fun item =>
      match item with
      | mapping _ entries => merged fuel entries
      | loop true => .ok []
      | _ => .error .refused
    .ok all.reverse.flatten
  | _, _ => .error .refused

end

def entries? : Node → Except Error (List (Node × Node))
  | mapping tag entries => merged (2 * (mapping tag entries).depth + 2) entries
  | _ => .error .refused

def itemEntries : Node → List (Node × Node)
  | sequence _ items =>
    items.flatMap fun item =>
      match item with
      | mapping _ entries => entries
      | _ => []
  | _ => []

def later (node : Node) : Except Error (List Node) := do
  match ← node.met with
  | some _ => .ok []
  | none => .ok [node]

def laterOfPair (entry : Node × Node) : Except Error (List Node) := do
  let key ← entry.1.later
  let value ← entry.2.later
  .ok (key ++ value)

def laterOfEntry (entry : Node × Node) : Except Error (List Node) := do
  match ← entry.1.met with
  | some _ => entry.2.later
  | none => .error .refused

def laterOfItem : Node → Except Error (List Node)
  | mapping _ [entry] => laterOfPair entry
  | _ => .error .refused

def fill (node : Node) : Except Error (List Node) :=
  let overItems (later : Node → Except Error (List Node)) : Except Error (List Node) :=
    match node with
    | sequence _ items => (items.mapM later).map List.flatten
    | loop _ => .ok []
    | _ => .error .refused
  match node.tag with
  | .list => overItems later
  | .orderedMap => overItems laterOfItem
  | .pairs => overItems laterOfItem
  | _ =>
    match node with
    | loop _ => .ok []
    | _ => do
      let entries ← node.entries?
      (entries.mapM laterOfEntry).map List.flatten

def check : Nat → List Node → Except Error Unit
  | 0, _ => .ok ()
  | fuel + 1, nodes =>
    if nodes.isEmpty then .ok ()
    else do
      let below ← nodes.mapM fill
      check fuel below.flatten

def value : Nat → Node → Value
  | 0, _ => .null
  | _, loop isMapping => .loop isMapping
  | fuel + 1, node =>
    match node.met with
    | .ok (some v) => v
    | .error _ => .null
    | .ok none =>
      match node.tag, node with
      | .list, sequence _ items => .list (items.map (value fuel))
      | .list, _ => .list []
      | .map, _ =>
        Value.ofEntries ((node.entries?.toOption.getD []).map fun (k, v) =>
          (value fuel k, value fuel v))
      | .set, _ =>
        match Value.ofEntries ((node.entries?.toOption.getD []).map fun (k, _) =>
          (value fuel k, .null)) with
        | .map entries => .set (entries.map Prod.fst)
        | _ => .set []
      | _, _ =>
        .list (node.itemEntries.map fun (k, v) => .pair (value fuel k) (value fuel v))

end Node

def parse (text : List Char) : Except Error Value := do
  if !text.all isPrintable then .error .refused
  else
    match ← Node.ofTokens? (Tokens.ofText text) with
    | none => .ok .null
    | some node =>
      let first ← node.later
      Node.check (node.depth + 1) first
      .ok (node.value (node.depth + 1))

end Phrasebook.Yaml

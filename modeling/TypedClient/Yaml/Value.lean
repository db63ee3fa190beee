/-
# The value of a YAML text

A document stands for the JSON value in which each alias is replaced by what its anchor marks. Keys
are the text of scalars, whatever it would stand for as a value. Collections nest up to a fixed
depth, which an anchor inside what it marks exceeds, and the number of aliases followed is bounded
by the size of the document.
-/

import TypedClient.Yaml.Node
import TypedClient.Yaml.Scalar

namespace TypedClient.Yaml

namespace Node

mutual

/-- The number of scalars, aliases, and starts and ends of collections. -/
def size : Node → Nat
  | .alias _ | .scalar _ _ _ => 1
  | .sequence _ items => itemsSize items + 2
  | .mapping _ entries => entriesSize entries + 2

/-- The size of the items of a sequence. -/
def itemsSize : List Node → Nat
  | [] => 0
  | item :: rest => item.size + itemsSize rest

/-- The size of the entries of a mapping. -/
def entriesSize : List (Node × Node) → Nat
  | [] => 0
  | (key, value) :: rest => key.size + value.size + entriesSize rest

end

mutual

/-- The nodes that have an anchor, with its number, in the order of the text. -/
def anchored : Node → List (Nat × Node)
  | .alias _ => []
  | .scalar properties text plain =>
    properties.anchor.toList.map (·, .scalar properties text plain)
  | .sequence properties items =>
    properties.anchor.toList.map (·, .sequence properties items) ++ itemsAnchored items
  | .mapping properties entries =>
    properties.anchor.toList.map (·, .mapping properties entries) ++ entriesAnchored entries

/-- The anchored nodes among items. -/
def itemsAnchored : List Node → List (Nat × Node)
  | [] => []
  | item :: rest => item.anchored ++ itemsAnchored rest

/-- The anchored nodes among entries. -/
def entriesAnchored : List (Node × Node) → List (Nat × Node)
  | [] => []
  | (key, value) :: rest => key.anchored ++ value.anchored ++ entriesAnchored rest

end

/-- The greatest number of collections that are inside one another. -/
def depthLimit : Nat := 128

/-- How many aliases may be followed for each unit of a document's size. -/
def aliasLimit : Nat := 100

/-- A computation that may follow some more aliases. -/
abbrev Expansion := StateT Nat Option

/-- The node that an alias stands for, and any other node itself. -/
def follow (targets : List (Nat × Node)) : Node → Expansion Node
  | .alias target => do
    match ← get, targets.lookup target with
    | left + 1, some node =>
      set left
      pure node
    | _, _ => failure
  | node => pure node

/-- The text of a key. -/
def keyText (targets : List (Nat × Node)) (key : Node) : Expansion String := do
  match ← follow targets key with
  | .scalar _ text _ => pure text
  | _ => failure

/-- Whether a collection has a value: a local tag takes it away. -/
def hasValue (properties : NodeProperties) : Bool :=
  !properties.tag.any (Text.startsWith · "!")

/-- The value of a node. -/
def value (targets : List (Nat × Node)) : (depth : Nat) → Node → Expansion Json
  | 0, node => do
    match ← follow targets node with
    | .scalar properties text plain => liftM (scalarValue? properties.tag text plain)
    | _ => failure
  | depth + 1, node => do
    match ← follow targets node with
    | .alias _ => failure
    | .scalar properties text plain => liftM (scalarValue? properties.tag text plain)
    | .sequence properties items =>
      if !hasValue properties then failure
      return .array (← items.mapM (value targets depth))
    | .mapping properties entries =>
      if !hasValue properties then failure
      let members ← entries.mapM fun entry => do
        let key ← keyText targets entry.1
        return (key, ← value targets depth entry.2)
      return .object (Json.collectMembers members)

/-- The value of a document. -/
def json? (root : Node) : Option Json := do
  let (result, _) ← (value root.anchored.reverse depthLimit root).run (aliasLimit * root.size)
  some result

end Node

/-- The value a YAML text stands for, if it is one. -/
def parse? (text : String) : Option Json := do
  (← Node.ofTokens? (← tokens? text)).json?

end TypedClient.Yaml

/-
# YAML nodes

The tree that the tokens of a document describe. Anchors and aliases are numbers: an anchor's number
is how many anchor names came before it, and an alias has the number that its name had last. A text
holds at most one document; with none it is an empty scalar.
-/

import TypedClient.Yaml.Scan

namespace TypedClient.Yaml

/-- What may stand before the content of a node. -/
structure NodeProperties where
  anchor : Option Nat
  tag : Option String
  deriving DecidableEq, Repr

/-- A node of a document. -/
inductive Node where
  | alias (target : Nat)
  /-- Text, and whether it stands without quotes. -/
  | scalar (properties : NodeProperties) (text : String) (plain : Bool)
  | sequence (properties : NodeProperties) (items : List Node)
  | mapping (properties : NodeProperties) (entries : List (Node × Node))
  deriving Inhabited

namespace Node

/-- The node of nothing. -/
def empty : Node := .scalar ⟨none, none⟩ "" true

end Node

/-- The tokens still to be read and the numbers of the anchors so far. -/
structure NodeSource where
  tokens : List Token
  anchors : List (String × Nat)

/-- A reader of nodes. -/
abbrev NodeReader := StateT NodeSource Option

namespace NodeReader

/-- The next token. -/
def peek : NodeReader Token := do
  match (← get).tokens with
  | token :: _ => pure token
  | [] => failure

/-- Goes on behind the next token. -/
def advance : NodeReader Unit :=
  modify fun source => { source with tokens := source.tokens.drop 1 }

/-- Goes on behind the next token if it is the given one, and tells whether it was. -/
def takes (token : Token) : NodeReader Bool := do
  if (← peek) = token then
    advance
    pure true
  else pure false

/-- Gives an anchor its number. -/
def numberAnchor (name : String) : NodeReader Nat :=
  modifyGet fun source =>
    let number := source.anchors.length
    (number, { source with
      anchors := (name, number) :: source.anchors.filter fun entry => entry.1 ≠ name })

/-- The number of an alias. -/
def aliasTarget (name : String) : NodeReader Nat := do
  match (← get).anchors.lookup name with
  | some number => pure number
  | none => failure

/-- The anchor name and the tag at the place reached, in either order. -/
def anchorAndTag : NodeReader (Option String × Option TagName) := do
  match ← peek with
  | .anchor name =>
    advance
    match ← peek with
    | .tag tag =>
      advance
      pure (some name, some tag)
    | _ => pure (some name, none)
  | .tag tag =>
    advance
    match ← peek with
    | .anchor name =>
      advance
      pure (some name, some tag)
    | _ => pure (none, some tag)
  | _ => pure (none, none)

/-- The full text of a tag under the handles that are known. -/
def resolveTag (handles : List (String × String)) (tag : TagName) : NodeReader String :=
  if tag.handle = "" then pure tag.suffix
  else
    match handles.lookup tag.handle with
    | some start => pure (start ++ tag.suffix)
    | none => failure

variable (handles : List (String × String))

mutual

/-- A node. Block collections are read where `block` is set, and entries of a sequence without an
indentation of their own where `indentless` is set. A tag that is only an exclamation mark makes a
scalar a plain one. -/
def node : (fuel : Nat) → (block indentless : Bool) → NodeReader Node
  | 0, _, _ => failure
  | fuel + 1, block, indentless => do
    if let .alias name ← peek then
      advance
      return .alias (← aliasTarget name)
    let (anchorName, tagName) ← anchorAndTag
    let tag ← tagName.mapM (resolveTag handles)
    let anchor ← anchorName.mapM numberAnchor
    let properties : NodeProperties := ⟨anchor, tag⟩
    match ← peek with
    | .blockEntry =>
      if indentless then return .sequence properties (← indentlessItems fuel)
      if anchor.isNone && tag.isNone then failure
      return .scalar properties "" true
    | .scalar text plain =>
      advance
      if tag = some "!" then return .scalar ⟨anchor, none⟩ text plain
      return .scalar properties text plain
    | .flowSequenceStart =>
      advance
      return .sequence properties (← flowItems fuel true)
    | .flowMappingStart =>
      advance
      return .mapping properties (← flowEntries fuel true)
    | token =>
      if block && token = .blockSequenceStart then
        advance
        return .sequence properties (← blockItems fuel)
      if block && token = .blockMappingStart then
        advance
        return .mapping properties (← blockEntries fuel)
      if anchor.isNone && tag.isNone then failure
      return .scalar properties "" true

/-- A node, or the node of nothing where one of the given tokens follows. -/
def nodeUnless : (fuel : Nat) → (block indentless : Bool) → List Token → NodeReader Node
  | 0, _, _, _ => failure
  | fuel + 1, block, indentless, ends => do
    if ends.contains (← peek) then return .empty
    node fuel block indentless

/-- The items of a block sequence. -/
def blockItems : (fuel : Nat) → NodeReader (List Node)
  | 0 => failure
  | fuel + 1 => do
    if ← takes .blockEntry then
      let item ← nodeUnless fuel true false [.blockEntry, .blockEnd]
      return item :: (← blockItems fuel)
    if ← takes .blockEnd then return []
    failure

/-- The items of a sequence at the indentation of the key before it. -/
def indentlessItems : (fuel : Nat) → NodeReader (List Node)
  | 0 => failure
  | fuel + 1 => do
    if ← takes .blockEntry then
      let item ← nodeUnless fuel true false [.blockEntry, .key, .value, .blockEnd]
      return item :: (← indentlessItems fuel)
    return []

/-- The entries of a block mapping. -/
def blockEntries : (fuel : Nat) → NodeReader (List (Node × Node))
  | 0 => failure
  | fuel + 1 => do
    if ← takes .key then
      let ends := [Token.key, .value, .blockEnd]
      let key ← nodeUnless fuel true true ends
      let value ← if ← takes .value then nodeUnless fuel true true ends else pure .empty
      return (key, value) :: (← blockEntries fuel)
    if ← takes .blockEnd then return []
    failure

/-- The items of a sequence in brackets. A pair among them is a mapping of its own; where it has no
key, the token after the key's mark is passed over. -/
def flowItems : (fuel : Nat) → (first : Bool) → NodeReader (List Node)
  | 0, _ => failure
  | fuel + 1, first => do
    if ← takes .flowSequenceEnd then return []
    if !first then
      if !(← takes .flowEntry) then failure
      if ← takes .flowSequenceEnd then return []
    if ← takes .key then
      let next ← peek
      let key ←
        if [Token.value, .flowEntry, .flowSequenceEnd].contains next then
          advance
          pure .empty
        else node fuel false false
      let value ←
        if ← takes .value then nodeUnless fuel false false [.flowEntry, .flowSequenceEnd]
        else pure .empty
      return .mapping ⟨none, none⟩ [(key, value)] :: (← flowItems fuel false)
    let item ← node fuel false false
    return item :: (← flowItems fuel false)

/-- The entries of a mapping in braces. A key that is not marked has no value. -/
def flowEntries : (fuel : Nat) → (first : Bool) → NodeReader (List (Node × Node))
  | 0, _ => failure
  | fuel + 1, first => do
    if ← takes .flowMappingEnd then return []
    if !first then
      if !(← takes .flowEntry) then failure
      if ← takes .flowMappingEnd then return []
    if ← takes .key then
      let key ← nodeUnless fuel false false [.value, .flowEntry, .flowMappingEnd]
      let value ←
        if ← takes .value then nodeUnless fuel false false [.flowEntry, .flowMappingEnd]
        else pure .empty
      return (key, value) :: (← flowEntries fuel false)
    let key ← node fuel false false
    return (key, .empty) :: (← flowEntries fuel false)

end

/-- The directives before a document: at most one version, which is 1.1 or 1.2, and the handles, no
one twice. -/
def directives : (versionSeen : Bool) → List (String × String) → List Token →
    Option (List (String × String) × List Token)
  | versionSeen, handles, .versionDirective major minor :: rest =>
    if versionSeen || major ≠ 1 || (minor ≠ 1 && minor ≠ 2) then none
    else directives true handles rest
  | versionSeen, handles, .tagDirective handle start :: rest =>
    if (handles.lookup handle).isSome then none
    else directives versionSeen ((handle, start) :: handles) rest
  | _, handles, rest => some (handles, rest)

/-- The handles that need no directive. -/
def defaultHandles : List (String × String) :=
  [("!", "!"), ("!!", "tag:yaml.org,2002:")]

end NodeReader

namespace Node

/-- Whether only marks of a document's end stand before the end of the text. -/
def nothingFollows (tokens : List Token) : Bool :=
  tokens.dropWhile (· = .documentEnd) = [.streamEnd]

/-- The document of a text's tokens. -/
def ofTokens? (tokens : List Token) : Option Node := do
  if tokens = [.streamEnd] then return empty
  let (handles, rest) ← NodeReader.directives false [] tokens
  let marked := rest.head? = some .documentStart
  if !marked && rest.length < tokens.length then none
  let rest := if marked then rest.drop 1 else rest
  let noContent := rest.head?.any fun token =>
    match token with
    | .versionDirective _ _ | .tagDirective _ _ | .documentStart | .documentEnd | .streamEnd => true
    | _ => false
  if marked && noContent then
    if nothingFollows rest then return empty else none
  let reader := NodeReader.node (handles ++ NodeReader.defaultHandles) (4 * tokens.length + 4)
    true false
  let (root, source) ← reader.run ⟨rest, []⟩
  if nothingFollows source.tokens then some root else none

end Node

end TypedClient.Yaml

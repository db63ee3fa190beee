/-
# The tokens of a YAML text

Tokens are read from left to right. Block collections are opened and closed by comparing columns
with the indentations of the collections that are open. A place where a key may start is
remembered, and a colon that follows on the same line makes the tokens since then a key. At each
depth of brackets one such place is remembered.
-/

import TypedClient.Yaml.Fold
import TypedClient.Yaml.Property

namespace TypedClient.Yaml

/-- A place where a key may have started: how many tokens come before it, and whether there has to
be a key because it stands at the indentation of a block mapping. -/
structure KeyStart where
  position : Position
  tokenCount : Nat
  required : Bool
  deriving DecidableEq, Repr

/-- The greatest number of characters between the start of a key and its colon. -/
def keyLengthLimit : Nat := 1024

/-- Whether a key that started at a place may still be followed by its colon. -/
def KeyStart.reaches (start : KeyStart) (position : Position) : Bool :=
  start.position.line = position.line && position.index ≤ start.position.index + keyLengthLimit

/-- What has been read of a text. Indentations are those of the open block collections, the
innermost first; key starts are those of the open brackets, the innermost first; tokens are in the
order of the text. -/
structure TokenReader where
  cursor : Cursor
  indentations : List Nat
  keyStart : Option KeyStart
  outerKeyStarts : List (Option KeyStart)
  /-- Whether a key may start at the place. -/
  keyAllowed : Bool
  tokens : Array Token

namespace TokenReader

/-- The reader at the start of a text. -/
def start (cs : List Char) : TokenReader :=
  ⟨Cursor.start cs, [], none, [], true, #[]⟩

/-- Whether brackets are open. -/
def inFlow (reader : TokenReader) : Bool := !reader.outerKeyStarts.isEmpty

/-- The least column of what belongs to the innermost block collection. -/
def margin (reader : TokenReader) : Nat :=
  (reader.indentations.head?.map (· + 1)).getD 0

/-- Adds a token. -/
def add (token : Token) (reader : TokenReader) : TokenReader :=
  { reader with tokens := reader.tokens.push token }

/-- Adds a token before the tokens after the first `tokenCount`. -/
def insertAt (tokenCount : Nat) (token : Token) (reader : TokenReader) : TokenReader :=
  { reader with tokens := reader.tokens.insertIdxIfInBounds tokenCount token }

/-- Opens a block collection at a column that is beyond the innermost one, with its token after the
first `tokenCount`. -/
def openBlock (column tokenCount : Nat) (token : Token) (reader : TokenReader) : TokenReader :=
  if !reader.inFlow && reader.indentations.head?.all (· < column) then
    { reader.insertAt tokenCount token with indentations := column :: reader.indentations }
  else reader

/-- Opens a block collection at the place reached. -/
def openBlockHere (token : Token) (reader : TokenReader) : TokenReader :=
  reader.openBlock reader.cursor.column reader.tokens.size token

/-- Closes the block collections whose column satisfies `p`, from the innermost on. -/
def closeBlocks (p : Nat → Bool) (reader : TokenReader) : TokenReader :=
  if reader.inFlow then reader
  else
    { reader with
      tokens := reader.tokens ++ (reader.indentations.takeWhile p).map fun _ => Token.blockEnd
      indentations := reader.indentations.dropWhile p }

/-- Forgets the place where a key may have started; there it is an error if there has to be one. -/
def dropKeyStart? (reader : TokenReader) : Option TokenReader :=
  if reader.keyStart.any (·.required) then none else some { reader with keyStart := none }

/-- Remembers that a key may start here. -/
def markKeyStart? (reader : TokenReader) : Option TokenReader :=
  if reader.keyAllowed then do
    let required := !reader.inFlow && reader.indentations.head? = some reader.cursor.column
    let start := KeyStart.mk reader.cursor.position reader.tokens.size required
    let dropped ← reader.dropKeyStart?
    some { dropped with keyStart := some start }
  else some reader

/-- Forgets the places from which a key would be too long or go over a line end. -/
def dropStaleKeyStarts? (reader : TokenReader) : Option TokenReader := do
  let update (start : Option KeyStart) : Option (Option KeyStart) :=
    match start with
    | some s =>
      if s.reaches reader.cursor.position then some (some s)
      else if s.required then none
      else some none
    | none => some none
  let keyStart ← update reader.keyStart
  let outerKeyStarts ← reader.outerKeyStarts.mapM update
  some { reader with keyStart, outerKeyStarts }

/-- Goes on behind `count` characters. -/
def skip (count : Nat) (reader : TokenReader) : TokenReader :=
  { reader with cursor := reader.cursor.skip count }

/-- Sets whether a key may start at the place. -/
def allowKey (allowed : Bool) (reader : TokenReader) : TokenReader :=
  { reader with keyAllowed := allowed }

/-- The place of the next token from a place on, and whether a key may start there: behind blanks,
comments and line ends. Where a key may start, a tab is no blank. After a line end a key may start
outside brackets. -/
def nextTokenFrom (flow : Bool) : (allowed comment : Bool) → Position → List Char → Cursor × Bool
  | allowed, _, position, [] => (⟨position, []⟩, allowed)
  | allowed, comment, position, c :: rest =>
    if isBreak c then nextTokenFrom flow (allowed || !flow) false (position.next c) rest
    else if comment then nextTokenFrom flow allowed true (position.next c) rest
    else if c == ' ' || (c == '\t' && (flow || !allowed)) ||
        (c == '\ufeff' && position.column = 0) then
      nextTokenFrom flow allowed false (position.next c) rest
    else if c == '#' then nextTokenFrom flow allowed true (position.next c) rest
    else (⟨position, c :: rest⟩, allowed)

/-- Goes on to the next token. -/
def toNextToken (reader : TokenReader) : TokenReader :=
  let (cursor, keyAllowed) := nextTokenFrom reader.inFlow reader.keyAllowed false
    reader.cursor.position reader.cursor.rest
  { reader with cursor, keyAllowed }

/-- The start of brackets. -/
def openFlow? (token : Token) (reader : TokenReader) : Option TokenReader := do
  let marked ← reader.markKeyStart?
  let opened := { marked with
    outerKeyStarts := marked.keyStart :: marked.outerKeyStarts
    keyStart := none }
  some ((opened.allowKey true).skip 1 |>.add token)

/-- The end of brackets. -/
def closeFlow? (token : Token) (reader : TokenReader) : Option TokenReader := do
  let dropped ← reader.dropKeyStart?
  let closed := match dropped.outerKeyStarts with
    | keyStart :: outerKeyStarts => { dropped with keyStart, outerKeyStarts }
    | [] => dropped
  some ((closed.allowKey false).skip 1 |>.add token)

/-- A comma between brackets. -/
def flowEntry? (reader : TokenReader) : Option TokenReader := do
  let dropped ← reader.dropKeyStart?
  some ((dropped.allowKey true).skip 1 |>.add .flowEntry)

/-- The dash of a block sequence. -/
def blockEntry? (reader : TokenReader) : Option TokenReader := do
  if !reader.inFlow && !reader.keyAllowed then none
  let dropped ← (reader.openBlockHere .blockSequenceStart).dropKeyStart?
  some ((dropped.allowKey true).skip 1 |>.add .blockEntry)

/-- The question mark before a key. -/
def explicitKey? (reader : TokenReader) : Option TokenReader := do
  if !reader.inFlow && !reader.keyAllowed then none
  let dropped ← (reader.openBlockHere .blockMappingStart).dropKeyStart?
  some ((dropped.allowKey !dropped.inFlow).skip 1 |>.add .key)

/-- The colon before a value. It makes what started at the remembered place a key. -/
def value? (reader : TokenReader) : Option TokenReader :=
  match reader.keyStart with
  | some start =>
    let marked := ((reader.insertAt start.tokenCount .key).openBlock start.position.column
      start.tokenCount .blockMappingStart)
    some (({ marked with keyStart := none }.allowKey false).skip 1 |>.add .value)
  | none =>
    if !reader.inFlow && !reader.keyAllowed then none
    else
      let opened := reader.openBlockHere .blockMappingStart
      some ((opened.allowKey !opened.inFlow).skip 1 |>.add .value)

/-- Goes on behind a token that a directive or a document's start or end is. -/
def outside? (read : Cursor → Option (Token × Cursor)) (reader : TokenReader) :
    Option TokenReader := do
  let dropped ← (reader.closeBlocks fun _ => true).dropKeyStart?
  let (token, cursor) ← read dropped.cursor
  some ({ dropped with cursor, keyAllowed := false }.add token)

/-- A token with which a key may start. -/
def property? (read : Cursor → Option (Token × Cursor)) (reader : TokenReader) :
    Option TokenReader := do
  let marked ← reader.markKeyStart?
  let (token, cursor) ← read marked.cursor
  some ({ marked with cursor, keyAllowed := false }.add token)

/-- A plain scalar. After it a key may start if it ended with its line. -/
def plain? (reader : TokenReader) : Option TokenReader := do
  let marked ← reader.markKeyStart?
  let scalar ← plainFrom? marked.inFlow marked.margin [] .none marked.cursor.position
    marked.cursor.rest
  some ({ marked with cursor := scalar.cursor, keyAllowed := scalar.endsLine }.add
    (.scalar scalar.text true))

/-- A block scalar. -/
def blockScalar? (folded : Bool) (reader : TokenReader) : Option TokenReader := do
  let dropped ← reader.dropKeyStart?
  let (text, cursor) ← block? folded dropped.indentations.head? (dropped.cursor.skip 1)
  some ({ dropped with cursor, keyAllowed := true }.add (.scalar text false))

/-- The end of the text. -/
def finish? (reader : TokenReader) : Option TokenReader := do
  let dropped ← (reader.closeBlocks fun _ => true).dropKeyStart?
  some (dropped.add .streamEnd)

/-- Whether a plain scalar may start with a text. -/
def startsPlain (flow : Bool) : List Char → Bool
  | [] => false
  | c :: rest =>
    !(isBlank c || isBreak c || "-?:,[]\x7b\x7d#&*!|>'\"%@\x60".toList.contains c) ||
      (c == '-' && !rest.head?.any isBlank) ||
      (!flow && (c == '?' || c == ':') && !atGap rest)

/-- Reads the token at the place reached. -/
def token? (reader : TokenReader) : Option TokenReader :=
  let flow := reader.inFlow
  let quoted (quote : Char) : Option TokenReader :=
    reader.property? fun cursor =>
      let cursor := cursor.skip 1
      (quotedFrom? quote [] .none .none cursor.position cursor.rest).map fun scalar =>
        (.scalar scalar.text false, scalar.cursor)
  match reader.cursor.rest with
  | [] => reader.finish?
  | c :: rest =>
    if reader.cursor.column = 0 && c == '%' then
      reader.outside? fun cursor => directive? (cursor.skip 1)
    else if reader.cursor.column = 0 && atMarker (c :: rest) then
      reader.outside? fun cursor =>
        some (if c == '-' then .documentStart else .documentEnd, cursor.skip 3)
    else match c with
      | '[' => reader.openFlow? .flowSequenceStart
      | '{' => reader.openFlow? .flowMappingStart
      | ']' => reader.closeFlow? .flowSequenceEnd
      | '}' => reader.closeFlow? .flowMappingEnd
      | ',' => reader.flowEntry?
      | '*' => reader.property? fun cursor =>
        (anchorName? (cursor.skip 1)).map fun (name, cursor) => (.alias name, cursor)
      | '&' => reader.property? fun cursor =>
        (anchorName? (cursor.skip 1)).map fun (name, cursor) => (.anchor name, cursor)
      | '!' => reader.property? fun cursor =>
        (tagName? flow cursor).map fun (name, cursor) => (.tag name, cursor)
      | '\'' => quoted '\''
      | '"' => quoted '"'
      | _ =>
        if c == '-' && atGap rest then reader.blockEntry?
        else if c == '?' && (flow || atGap rest) then reader.explicitKey?
        else if c == ':' && (flow || atGap rest) then reader.value?
        else if c == '|' && !flow then reader.blockScalar? false
        else if c == '>' && !flow then reader.blockScalar? true
        else if startsPlain flow (c :: rest) then reader.plain?
        else none

/-- Reads tokens up to the end of the text. Every token but the last takes at least one character.
-/
def run? : (fuel : Nat) → TokenReader → Option (List Token)
  | 0, _ => none
  | fuel + 1, reader => do
    let current ← reader.toNextToken.dropStaleKeyStarts?
    let next ← (current.closeBlocks (current.cursor.column < ·)).token?
    if next.tokens.back? = some .streamEnd then some next.tokens.toList else run? fuel next

end TokenReader

/-- The tokens of a text. -/
def tokens? (text : String) : Option (List Token) :=
  if text.toList.all isAllowed then
    let cs := joinBreaks text.toList
    (TokenReader.start cs).run? (cs.length + 2)
  else none

end TypedClient.Yaml

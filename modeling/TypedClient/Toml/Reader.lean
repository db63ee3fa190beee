/-
# Reading TOML documents

A text is read line by line into statements, headers and key-value pairs, with the blank text and
comments around each. The statements then build the tree: a pair goes under the last header, and
paths make the tables they pass through. No name is given twice.
-/

import TypedClient.Toml.Scalar
import TypedClient.Toml.Tree

namespace TypedClient.Toml

/-- A text with the carriage returns of its line ends removed. -/
def joinLineEnds : List Char → List Char
  | [] => []
  | '\r' :: '\n' :: rest => '\n' :: joinLineEnds rest
  | c :: rest => c :: joinLineEnds rest

/-- Whether a character is a space or a tab. -/
def isBlank (c : Char) : Bool := c = ' ' || c = '\t'

/-- The text after blanks, line ends and comments, if the comments are well formed. -/
def skipTrivia? : (comment : Bool) → List Char → Option (List Char)
  | _, [] => some []
  | comment, c :: rest =>
    if c = '\n' then skipTrivia? false rest
    else if comment then if isPrintable c then skipTrivia? true rest else none
    else if isBlank c then skipTrivia? false rest
    else if c = '#' then skipTrivia? true rest
    else some (c :: rest)

/-- What was read of a text, told by what is left of it. -/
def taken (cs rest : List Char) : String :=
  String.ofList (cs.take (cs.length - rest.length))

/-- The blanks and the comment at the end of a line, and the text of the next line. -/
def lineEnd? (cs : List Char) : Option (String × List Char) :=
  let rest := cs.dropWhile isBlank
  let rest := if rest.head? = some '#' then rest.dropWhile isPrintable else rest
  match rest with
  | [] => some (taken cs [], [])
  | '\n' :: next => some (taken cs rest, next)
  | _ => none

/-- Whether a character may stand in a key without quotes. -/
def isBareKeyChar (c : Char) : Bool :=
  c.isAlphanum || c = '_' || c = '-'

/-- The name of a key, and the text after it. -/
def keyName? (cs : List Char) : Option (String × List Char) :=
  match cs with
  | '"' :: rest => lineString? '"' (rest.length + 1) [] rest
  | '\'' :: rest => lineString? '\'' (rest.length + 1) [] rest
  | cs =>
    let bare := cs.takeWhile isBareKeyChar
    if bare.isEmpty then none else some (String.ofList bare, cs.dropWhile isBareKeyChar)

/-- A path of keys separated by points, with the blanks around each, and the text after the blanks
after it. -/
def keys? : (fuel : Nat) → List Char → Option (List Key × List Char)
  | 0, _ => none
  | fuel + 1, cs => do
    let start := cs.dropWhile isBlank
    let (name, rest) ← keyName? start
    let next := rest.dropWhile isBlank
    let key : Key :=
      { name, written := taken start rest
        dotted := ⟨some (taken cs start), some (taken rest next)⟩ }
    match next with
    | '.' :: next => do
      let (path, after) ← keys? fuel next
      some (key :: path, after)
    | next => some ([key], next)

/-- A path of keys in which the surroundings of the whole path, with `before` before its own blanks,
belong to its last key. -/
def keyPath? (before : String) (cs : List Char) : Option (List Key × Key × List Char) := do
  let (path, rest) ← keys? (cs.length + 1) cs
  let last ← path.getLast?
  let first ← path.head?
  let start := before ++ first.dotted.before.getD ""
  let leaf : Decor := ⟨some start, last.dotted.after⟩
  let clear (key : Key) (i : Nat) : Key :=
    { key with dotted := ⟨if i = 0 then some "" else key.dotted.before,
        if i + 1 = path.length then some "" else key.dotted.after⟩ }
  let cleared := path.mapIdx fun i key => clear key i
  let last ← cleared.getLast?
  some (cleared.dropLast, { last with leaf }, rest)

/-- Adds a pair under a path. A key of the path is new or stands for dotted keys already; the
pair's own key is new. `isInline` tells which kind of table a new key of the path holds. -/
def addPair? (isInline : Bool) : List Key → Key → Item → Entries → Option Entries
  | [], key, item, entries =>
    if (Entries.find? key.name entries).isSome then none else some (entries ++ [(key, item)])
  | step :: path, key, item, entries =>
    match Entries.find? step.name entries with
    | none => do
      let inside ← addPair? isInline path key item []
      let table := if isInline then Item.inlineTable true {} "" inside
        else .table { implicit := true, dotted := true } inside
      some (entries ++ [(step, table)])
    | some (.table head old) => do
      if !head.implicit || (path.isEmpty && !head.dotted) then none
      let inside ← addPair? isInline path key item old
      some (Entries.update step.name (fun _ => .table head inside) entries)
    | some (.inlineTable dotted decor padding old) => do
      if !dotted || !isInline then none
      let inside ← addPair? isInline path key item old
      some (Entries.update step.name (fun _ => .inlineTable dotted decor padding inside) entries)
    | some _ => none

/-- An item with its surroundings. -/
def Item.surround (decor : Decor) : Item → Item
  | .value _ text data => .value decor text data
  | .inlineTable dotted _ padding entries => .inlineTable dotted decor padding entries
  | item => item

/-- The number of arrays and tables in braces that may be open at once. -/
def depthLimit : Nat := 79

mutual

/-- A value and the text after it. -/
def value? : (fuel depth : Nat) → List Char → Option (Item × List Char)
  | 0, _, _ => none
  | fuel + 1, depth, cs =>
    match cs, depth with
    | '[' :: rest, depth + 1 => do
      let (items, after) ← items? fuel depth rest
      some (.value {} (taken cs after) (.array items), after)
    | '{' :: rest, depth + 1 => do
      let start := rest.dropWhile isBlank
      if let '}' :: after := start then
        return (.inlineTable false {} (taken rest start) [], after)
      let (entries, after) ← pairs? fuel depth [] rest
      some (.inlineTable false {} "" entries, after)
    | '"' :: _, _ | '\'' :: _, _ => do
      let (text, after) ← string? cs
      some (.value {} (taken cs after) (.string text), after)
    | cs, _ => do
      let (written, after) := word cs
      let data ← wordData? written
      some (.value {} (String.ofList written) data, after)

/-- The items of an array from its next item on, and the text after its closing bracket. -/
def items? : (fuel depth : Nat) → List Char → Option (List Json × List Char)
  | 0, _, _ => none
  | fuel + 1, depth, cs => do
    let start ← skipTrivia? false cs
    if let ']' :: after := start then return ([], after)
    let (item, rest) ← value? fuel depth start
    match ← skipTrivia? false rest with
    | ',' :: rest =>
      let (items, after) ← items? fuel depth rest
      some (item.data :: items, after)
    | ']' :: after => some ([item.data], after)
    | _ => none

/-- The pairs of a table in braces from its next pair on, added to entries, and the text after its
closing brace. -/
def pairs? : (fuel depth : Nat) → Entries → List Char → Option (Entries × List Char)
  | 0, _, _, _ => none
  | fuel + 1, depth, entries, cs => do
    let (path, key, rest) ← keyPath? "" cs
    let '=' :: rest := rest | none
    let start := rest.dropWhile isBlank
    let (item, after) ← value? fuel depth start
    let next := after.dropWhile isBlank
    let decor : Decor := ⟨some (taken rest start), some (taken after next)⟩
    let entries ← addPair? true path key (item.surround decor) entries
    match next with
    | ',' :: rest => pairs? fuel depth entries rest
    | '}' :: rest => some (entries, rest)
    | _ => none

end

/-- A line of a document that says something. -/
inductive Statement where
  | header (isElement : Bool) (decor : Decor) (path : List Key) (key : Key)
  | pair (path : List Key) (key : Key) (item : Item)

/-- A header after its opening bracket, and the text of the next line. `before` is the blank text
and comments before it. -/
def header? (before : String) (cs : List Char) : Option (Statement × List Char) := do
  let (isElement, cs) := match cs with
    | '[' :: cs => (true, cs)
    | cs => (false, cs)
  let (path, key, rest) ← keyPath? "" cs
  let rest ← match isElement, rest with
    | true, ']' :: ']' :: rest | false, ']' :: rest => some rest
    | _, _ => none
  let (after, next) ← lineEnd? rest
  some (.header isElement ⟨some before, some after⟩ path key, next)

/-- A pair, and the text of the next line. -/
def pair? (before : String) (cs : List Char) : Option (Statement × List Char) := do
  let (path, key, rest) ← keyPath? before cs
  let '=' :: rest := rest | none
  let start := rest.dropWhile isBlank
  let (item, written) ← value? (2 * start.length + 2) depthLimit start
  let (after, next) ← lineEnd? written
  some (.pair path key (item.surround ⟨some (taken rest start), some after⟩), next)

/-- The statements of a text and the blank text and comments after the last. -/
def statements? : (fuel : Nat) → List Char → Option (List Statement × String)
  | 0, _ => none
  | fuel + 1, cs => do
    let start ← skipTrivia? false cs
    let before := taken cs start
    if start.isEmpty then return ([], before)
    let (statement, next) ← match start with
      | '[' :: rest => header? before rest
      | start => pair? before start
    let (statements, trailing) ← statements? fuel next
    some (statement :: statements, trailing)

/-- Adds a table with a header under a path. A path may pass through any table, and through the
last of an array. A table that only headers have mentioned so far takes its pairs after what it has
and goes last. -/
def addTable? (isElement : Bool) (head : TableHead) (key : Key)
    (fill : Entries → Option Entries) : List Key → Entries → Option Entries
  | [], entries =>
    match isElement, Entries.find? key.name entries with
    | false, none => do some (entries ++ [(key, .table head (← fill []))])
    | false, some (.table old inside) => do
      if !old.implicit || old.dotted then none
      some (Entries.erase key.name entries ++ [(key, .table head (← fill inside))])
    | true, none => do some (entries ++ [(key, .tables [(head, ← fill [])])])
    | true, some (.tables elements) => do
      let element ← fill []
      some (Entries.update key.name (fun _ => .tables (elements ++ [(head, element)])) entries)
    | _, _ => none
  | step :: path, entries =>
    match Entries.find? step.name entries with
    | none => do
      let inside ← addTable? isElement head key fill path []
      some (entries ++ [(step, .table { implicit := true } inside)])
    | some (.table old inside) => do
      let inside ← addTable? isElement head key fill path inside
      some (Entries.update step.name (fun _ => .table old inside) entries)
    | some (.tables elements) => do
      let (old, inside) ← elements.getLast?
      let inside ← addTable? isElement head key fill path inside
      some (Entries.update step.name (fun _ => .tables (elements.dropLast ++ [(old, inside)]))
        entries)
    | some _ => none

/-- Adds the pairs at the start of statements to entries; gives the statements after them. -/
def addPairs? : List Statement → Entries → Option Entries
  | .pair path key item :: rest, entries => do
    addPairs? rest (← addPair? false path key item entries)
  | _, entries => some entries

/-- Adds the tables of statements to entries; `position` is the number of headers so far. -/
def addTables? : (position : Nat) → List Statement → Entries → Option Entries
  | _, [], entries => some entries
  | position, .header isElement decor path key :: rest, entries => do
    let head : TableHead := { decor, position := some (position + 1) }
    addTables? (position + 1) rest (← addTable? isElement head key (addPairs? rest) path entries)
  | position, .pair _ _ _ :: rest, entries => addTables? position rest entries

/-- Reads a document. A mark of the byte order at its start is passed over. -/
def Document.parse? (text : String) : Option Document := do
  let cs := joinLineEnds text.toList
  let cs := if cs.head? = some '\ufeff' then cs.drop 1 else cs
  let (statements, trailing) ← statements? (cs.length + 1) cs
  let entries ← addTables? 0 statements (← addPairs? statements [])
  some { entries, trailing }

end TypedClient.Toml

/-
# Layout

The built-in formatter indents every line by the depth of what is open at its start. It checks the
structure of the text and the names it declares, drops blank lines after blank lines, and leaves the
text of template literals alone. It does not wrap lines.
-/

import TypedClient.Format.Diagnostic
import TypedClient.Layout.Scanner

namespace TypedClient.Layout

/-- The state between two lines. -/
structure State where
  scanner : Scanner := {}
  /-- The lines printed so far, last one first. -/
  printed : List (List Char) := []
  /-- Whether the line before ended in an arrow, so that this one goes deeper. -/
  afterArrow : Bool := false
  deriving DecidableEq, Repr

/-- The words that introduce a declared name, each with its blank. -/
def declarationWords : List (List Char) :=
  ["interface ", "type ", "const ", "let ", "var ", "function ", "class "].map String.toList

/-- A line without a given beginning. -/
def dropWord (word line : List Char) : List Char :=
  if word.isPrefixOf line then line.drop word.length else line

/-- The rest of a line after the declaration word it begins with. -/
def afterDeclaration? (line : List Char) : Option (List Char) :=
  (declarationWords.find? (·.isPrefixOf line)).map fun word => line.drop word.length

/-- The name that a line declares. Lines of comments declare none, and neither do patterns that
take values apart. -/
def declaredName? (line : List Char) : Option (List Char) :=
  match line with
  | '/' :: _ | '*' :: _ => none
  | line =>
    match afterDeclaration? (dropWord "declare ".toList (dropWord "export ".toList line)) with
    | none => none
    | some after =>
      match after.dropWhile Text.isWhiteSpace with
      | '{' :: _ | '[' :: _ => none
      | after => some (after.takeWhile Naming.isIdentifierPart)

/-- The fault of a line that declares something that is no identifier. -/
def declarationFault? (line : List Char) : Option Fault :=
  match declaredName? line with
  | none => none
  | some name =>
    let name := String.ofList name
    if Naming.isValidIdentifier name then none else some (.invalidIdentifier name)

/-- The number of closing brackets a line begins with. -/
def leadingClosers (line : List Char) : Nat :=
  (line.takeWhile isCloser).length

/-- The level inside what is open. -/
def innerLevel (stack : List Frame) : Nat :=
  match stack with
  | frame :: _ => frame.level + 1
  | [] => 0

/-- The level of a line without the blanks around it. A line that begins by closing brackets stands
at the level of the outermost line they close. -/
def levelOf (state : State) (line : List Char) : Nat :=
  if state.scanner.inComment then innerLevel state.scanner.stack
  else
    let closers := min (leadingClosers line) state.scanner.stack.length
    match closers with
    | 0 => innerLevel state.scanner.stack + (if state.afterArrow then 1 else 0)
    | closers + 1 => ((state.scanner.stack[closers]?).map (·.level)).getD 0

/-- The blanks in front of a line. The lines of a block comment that begin with a star get one more,
to stand below the star of the first. -/
def padding (tabWidth level : Nat) (inComment : Bool) (line : List Char) : List Char :=
  List.replicate (level * tabWidth) ' ' ++
    (if inComment && line.head? == some '*' then [' '] else [])

/-- Whether a line is a comment from its start. -/
def startsComment : List Char → Bool
  | '/' :: '/' :: _ | '/' :: '*' :: _ => true
  | _ => false

/-- Whether a line ends in an arrow. -/
def endsInArrow (line : List Char) : Bool :=
  match line.reverse with
  | '>' :: '=' :: _ => true
  | _ => false

/-- A line of a template literal, which stays as it is. -/
def templateLine (state : State) (number : Nat) (line : List Char) : Except Fault State := do
  let scanner ← state.scanner.scanLine number 0 line
  .ok { state with scanner, printed := line :: state.printed }

/-- A blank line, which stands only after a line that is not blank. -/
def blankLine (state : State) : State :=
  match state.printed with
  | (_ :: _) :: _ => { state with printed := [] :: state.printed }
  | _ => state

/-- A line of code or comment, without the blanks around it. -/
def codeLine (tabWidth : Nat) (state : State) (number : Nat) (line : List Char) :
    Except Fault State := do
  let level := levelOf state line
  let inComment := state.scanner.inComment
  if !inComment then
    if let some fault := declarationFault? line then
      throw fault
  let scanner ← state.scanner.scanLine number level line
  .ok
    { scanner
      printed := (padding tabWidth level inComment line ++ line) :: state.printed
      afterArrow :=
        if inComment || startsComment line then state.afterArrow else endsInArrow line }

/-- One line of the text. -/
def step (tabWidth : Nat) (state : State) (number : Nat) (line : List Char) :
    Except Fault State :=
  if state.scanner.inTemplate then templateLine state number line
  else
    match Text.trimList line with
    | [] => .ok (blankLine state)
    | trimmed => codeLine tabWidth state number trimmed

/-- The lines of a text from a given number on; a fault comes with the number of its line. -/
def run (tabWidth : Nat) : (number : Nat) → State → List (List Char) →
    Except (Fault × Option Nat) State
  | _, state, [] => .ok state
  | number, state, line :: rest =>
    match step tabWidth state number line with
    | .error fault => .error (fault, some number)
    | .ok state => run tabWidth (number + 1) state rest

/-- The fault of a text at whose end something is open. -/
def endFault? (scanner : Scanner) : Option (Fault × Option Nat) :=
  match scanner.stack with
  | frame :: _ => some (.unclosed frame, some frame.line)
  | [] => if scanner.inComment then some (.unterminatedComment, none) else none

/-- The text of the printed lines, without the blank lines at its end. -/
def printedText (printed : List (List Char)) : List Char :=
  List.intercalate ['\n'] (printed.dropWhile List.isEmpty).reverse ++ ['\n']

/-- Lays out a text. -/
def formatList (tabWidth : Nat) (text : List Char) : Except (Fault × Option Nat) (List Char) := do
  let state ← run tabWidth 1 {} (Text.lineLists text)
  match endFault? state.scanner with
  | some fault => .error fault
  | none => .ok (printedText state.printed)

end TypedClient.Layout

namespace TypedClient.Formatter

/-- The built-in formatter. It treats both languages alike and uses only the width of a level. -/
def layout : Formatter := fun text _ style =>
  match Layout.formatList style.tabWidth text.toList with
  | .ok formatted => .ok (String.ofList formatted)
  | .error (fault, line?) => .error { message := fault.message, line? }

end TypedClient.Formatter
